import DenseKron.Proofs.IdentityBlocks
import DenseKron.Proofs.ProductBlocks

/-!
# What a kernel leaves behind

Each of the three products is a matrix of blocks in the beginning of its destination.
`WrittenBlocks` says so of two buffers, the one before and the one after: the entries of the blocks
are at their places, which are all the places of the product, and nothing else has changed.

What the blocks consist of depends on the product: scaled copies of the right factor
(`ProductWritten`), multiples of the identity (`TimesIdentityWritten`), or the operand on the
diagonal and zero beside it (`IdentityTimesWritten`).
-/

namespace DenseKron

variable {α : Type}

/-- **Written blocks.** The buffer `dst'` is the buffer `dst` with a matrix of `m × n` blocks
written over its beginning, where `z i j` is block `(i, j)`, with `p × q` entries. -/
structure WrittenBlocks (m n p q : Nat) (z : Nat → Nat → Nat → Nat → α) (dst dst' : Array α) :
    Prop where
  entry : ∀ i < m, ∀ j < n, ∀ k < p, ∀ l < q,
    dst'[(j * q + l) * (m * p) + (i * p + k)]? = some (z i j k l)
  rest : ∀ t, m * p * (n * q) ≤ t → dst'[t]? = dst[t]?
  size_eq : dst'.size = dst.size

theorem writtenBlocks_storing {m n p q : Nat} (z : Nat → Nat → Nat → Nat → α) {dst : Array α}
    (h : m * p * (n * q) ≤ dst.size) :
    WrittenBlocks m n p q z dst (storing (blockMatrixStores m n p q z) dst) where
  entry _ hi _ hj _ hk _ hl := getElem?_blockMatrixStores h hi hj hk hl
  rest _ ht := getElem?_blockMatrixStores_of_le dst ht
  size_eq := size_storing _ dst

section Compared

/-- **Buffers that are alike.** They have one length, and their elements are equal in pairs, in the
sense of `eqv`. -/
structure Alike (eqv : α → α → Prop) (u v : Array α) : Prop where
  size_eq : u.size = v.size
  elements : ∀ (t : Nat) (x y : α), u[t]? = some x → v[t]? = some y → eqv x y

theorem alike_eq_iff {u v : Array α} : Alike (· = ·) u v ↔ u = v := by
  constructor
  · intro h
    refine Array.ext h.size_eq fun t hu hv => ?_
    exact h.elements t _ _ (Array.getElem?_eq_getElem hu) (Array.getElem?_eq_getElem hv)
  · rintro rfl
    exact ⟨rfl, fun t x y hx hy => Option.some.inj (hx.symm.trans hy)⟩

variable {m n p q : Nat} {z z' : Nat → Nat → Nat → Nat → α} {d d' dst dst' : Array α}

theorem WrittenBlocks.congr (h : WrittenBlocks m n p q z dst dst')
    (hz : ∀ i < m, ∀ j < n, ∀ k < p, ∀ l < q, z i j k l = z' i j k l) :
    WrittenBlocks m n p q z' dst dst' where
  entry i hi j hj k hk l hl := by rw [h.entry i hi j hj k hk l hl, hz i hi j hj k hk l hl]
  rest := h.rest
  size_eq := h.size_eq

/-- Over buffers of just the right size, blocks that are alike leave buffers that are. -/
theorem WrittenBlocks.alike {eqv : α → α → Prop} (h : WrittenBlocks m n p q z dst dst')
    (h' : WrittenBlocks m n p q z' d d')
    (hz : ∀ i < m, ∀ j < n, ∀ k < p, ∀ l < q, eqv (z i j k l) (z' i j k l))
    (hdst : dst.size = m * p * (n * q)) (hd : d.size = m * p * (n * q)) : Alike eqv dst' d' where
  size_eq := by rw [h.size_eq, h'.size_eq, hdst, hd]
  elements t x y hx hy := by
    -- the blocks fill both buffers, so that each element is an entry of a block
    have ht : t < m * p * (n * q) := by
      by_contra hle
      rw [Array.getElem?_eq_none (by rw [h.size_eq]; omega)] at hx
      cases hx
    obtain ⟨i, hi, j, hj, k, hk, l, hl, rfl⟩ := exists_blockPlace ht
    rw [← Option.some.inj ((h.entry i hi j hj k hk l hl).symm.trans hx),
      ← Option.some.inj ((h'.entry i hi j hj k hk l hl).symm.trans hy)]
    exact hz i hi j hj k hk l hl

theorem WrittenBlocks.eq_of_size_eq (h : WrittenBlocks m n p q z dst dst')
    (h' : WrittenBlocks m n p q z d d') (hdst : dst.size = m * p * (n * q))
    (hd : d.size = m * p * (n * q)) : dst' = d' :=
  alike_eq_iff.1 (h.alike h' (fun _ _ _ _ _ _ _ _ => rfl) hdst hd)

/-- Two programs that write the same blocks leave the same buffer over destinations of just the
right size, whatever stood there. -/
theorem Writes.eq_ok_of_eq_ok {act act' : Write α Unit}
    (hact : Writes (m * p * (n * q)) act (blockMatrixStores m n p q z))
    (hact' : Writes (m * p * (n * q)) act' (blockMatrixStores m n p q z))
    (hdst : dst.size = m * p * (n * q)) (hd : d.size = m * p * (n * q))
    (h : act dst = .ok () dst') : act' d = .ok () dst' := by
  rw [hact dst hdst] at h
  cases h
  rw [hact' d hd, (writtenBlocks_storing z (Nat.le_of_eq hd.symm)).eq_of_size_eq
    (writtenBlocks_storing z (Nat.le_of_eq hdst.symm)) hd hdst]

end Compared

/-- The blocks of `a ⊗ b`. The factor `1` is not multiplied by. -/
def ProductWritten [One α] [Mul α] [DecidableEq α] (a b : Operand α) (dst dst' : Array α) : Prop :=
  ∃ x y, Holds a.entries a.rows a.cols a.rows x ∧ Holds b.entries b.rows b.cols b.rows y ∧
    WrittenBlocks a.rows a.cols b.rows b.cols
      (fun i j k l => if x i j = 1 then y k l else x i j * y k l) dst dst'

/-- The blocks of `a ⊗ I`, for the identity of order `n`. -/
def TimesIdentityWritten [Zero α] (a : Operand α) (n : Nat) (dst dst' : Array α) : Prop :=
  ∃ x, Holds a.entries a.rows a.cols a.rows x ∧
    WrittenBlocks a.rows a.cols n n (fun i j k l => if k = l then x i j else 0) dst dst'

/-- The blocks of `I ⊗ a`, for the identity of order `n`. -/
def IdentityTimesWritten [Zero α] (a : Operand α) (n : Nat) (dst dst' : Array α) : Prop :=
  ∃ x, Holds a.entries a.rows a.cols a.rows x ∧
    WrittenBlocks n n a.rows a.cols (fun i j k l => if i = j then x k l else 0) dst dst'

section

variable {a b : Operand α} {n : Nat} {dst dst' : Array α}

theorem productWritten_of_eq_ok [One α] [Mul α] [DecidableEq α] {c : Copier}
    (h : product c a b dst = .ok () dst') (ha : a.rows * a.cols ≤ a.entries.size) :
    ProductWritten a b dst dst' := by
  -- a run that ended well has fitted, and what fits is written in one way
  have hfit := productFits_of_product_eq_ok h
  have hle := hfit.total_le
  rw [ProductFits.total_eq] at hle
  obtain ⟨x, hx⟩ := a.exists_holds_entries (1 : α) ha
  obtain ⟨y, hy⟩ := b.exists_holds_entries (1 : α) hfit.right_le
  refine ⟨x, y, hx, hy, ?_⟩
  rw [hfit.writes hx hy c dst rfl] at h
  cases h
  exact writtenBlocks_storing _ hle

theorem timesIdentityWritten_of_eq_ok [Zero α] (h : timesIdentity a n dst = .ok () dst') :
    TimesIdentityWritten a n dst dst' := by
  have hfit := identityFits_of_timesIdentity_eq_ok h
  have hle := hfit.total_le
  rw [IdentityFits.total_eq_right] at hle
  obtain ⟨x, hx⟩ := a.exists_holds_entries (0 : α) hfit.packed_le
  refine ⟨x, hx, ?_⟩
  -- that the stride can be computed is known from the run
  rw [timesIdentity_writes hfit (stride_lt_of_timesIdentity_eq_ok h) hx dst rfl] at h
  cases h
  exact writtenBlocks_storing _ hle

theorem identityTimesWritten_of_eq_ok [Zero α] [One α] [Mul α] [DecidableEq α] {c : Copier}
    (h : identityTimes c a n dst = .ok () dst') : IdentityTimesWritten a n dst dst' := by
  have hfit := identityFits_of_identityTimes_eq_ok h
  have hle := hfit.total_le
  rw [IdentityFits.total_eq_left] at hle
  obtain ⟨x, hx⟩ := a.exists_holds_entries (0 : α) hfit.packed_le
  refine ⟨x, hx, ?_⟩
  rw [identityTimes_writes c hfit (stride_lt_of_identityTimes_eq_ok h) hx dst rfl] at h
  cases h
  exact writtenBlocks_storing _ hle

/-! ### The blocks of given matrices

Where it is known which matrices the operands are, there is no need to ask for them. -/

theorem product_writtenBlocks [One α] [Mul α] [DecidableEq α] {c : Copier} {x y : Nat → Nat → α}
    (hx : Holds a.entries a.rows a.cols a.rows x) (hy : Holds b.entries b.rows b.cols b.rows y)
    (h : product c a b dst = .ok () dst') :
    WrittenBlocks a.rows a.cols b.rows b.cols (fun i j k l => scale (x i j) (y k l)) dst dst' := by
  have hle := (productFits_of_product_eq_ok h).total_le
  rw [ProductFits.total_eq] at hle
  obtain ⟨x', y', hxy, rfl⟩ := exists_stores_of_product_eq_ok h
  -- the entries that were written are those that the operands are known to hold
  refine (writtenBlocks_storing _ hle).congr fun i hi j hj k hk l hl => ?_
  obtain ⟨hx', hy'⟩ := hxy i hi j hj k hk l hl
  rw [Option.some.inj ((hx i hi j hj).symm.trans hx'),
    Option.some.inj ((hy k hk l hl).symm.trans hy')]

theorem timesIdentity_writtenBlocks [Zero α] {x : Nat → Nat → α}
    (hx : Holds a.entries a.rows a.cols a.rows x) (h : timesIdentity a n dst = .ok () dst') :
    WrittenBlocks a.rows a.cols n n (fun i j k l => if k = l then x i j else 0) dst dst' := by
  obtain ⟨x', hx', hwritten⟩ := timesIdentityWritten_of_eq_ok h
  refine hwritten.congr fun i hi j hj k _ l _ => ?_
  rw [Option.some.inj ((hx i hi j hj).symm.trans (hx' i hi j hj))]

theorem identityTimes_writtenBlocks [Zero α] [One α] [Mul α] [DecidableEq α] {c : Copier}
    {x : Nat → Nat → α} (hx : Holds a.entries a.rows a.cols a.rows x)
    (h : identityTimes c a n dst = .ok () dst') :
    WrittenBlocks n n a.rows a.cols (fun i j k l => if i = j then x k l else 0) dst dst' := by
  obtain ⟨x', hx', hwritten⟩ := identityTimesWritten_of_eq_ok h
  refine hwritten.congr fun i _ j _ k hk l hl => ?_
  rw [Option.some.inj ((hx k hk l hl).symm.trans (hx' k hk l hl))]

end

end DenseKron
