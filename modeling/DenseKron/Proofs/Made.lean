import DenseKron.Proofs.Identity
import DenseKron.Proofs.Written

/-!
# Operands that kernels make

What a kernel has written can be the operand of the next one. `Operand.Made` says that an operand
came about in this way: a program ran to its end over a buffer that had just the size of the
operand, whatever stood there before. For each of the kernels there is a relation between its
operands and its result (`IsProduct`, `IsTimesIdentity`, `IsIdentityTimes`, `IsIdentity`), which is
all that is needed to speak of kernels one after another.

Such a result is known entry by entry. An operand *packs* a matrix, a function of row and column, if
it has the entries of the matrix and no other element (`Operand.Packs`), and two operands of one
shape that pack the same matrix are equal. The matrices that the kernels make are matrices of
blocks, in which an entry finds its block, and its place there, by division with remainder
(`blocks`). So a law about results of kernels is a law about these functions, and the buffers are
out of the way.
-/

namespace DenseKron

variable {α : Type}

/-! ### Packed matrices -/

/-- **Packing.** The operand has the entries of the matrix `x` and no other element. -/
structure Operand.Packs (p : Operand α) (x : Nat → Nat → α) : Prop where
  size_eq : p.entries.size = p.rows * p.cols
  holds : Holds p.entries p.rows p.cols p.rows x

/-- Operands of one shape are equal if the matrices that they pack agree on it. -/
theorem Operand.Packs.eq {p p' : Operand α} {x x' : Nat → Nat → α} (h : p.Packs x)
    (h' : p'.Packs x') (hrows : p.rows = p'.rows) (hcols : p.cols = p'.cols)
    (hx : ∀ r < p.rows, ∀ c < p.cols, x r c = x' r c) : p = p' := by
  obtain ⟨u, rows, cols⟩ := p
  obtain ⟨u', rows', cols'⟩ := p'
  -- two operands of one shape, so that only the buffers are left to compare
  obtain rfl : rows = rows' := hrows
  obtain rfl : cols = cols' := hcols
  -- a packed buffer has no elements but the entries
  have hentries : u = u' := by
    refine eq_of_entries_eq h.size_eq h'.size_eq fun r hr c hc => ?_
    calc u[c * rows + r]? = some (x r c) := h.holds r hr c hc
      _ = some (x' r c) := by rw [hx r hr c hc]
      _ = u'[c * rows + r]? := (h'.holds r hr c hc).symm
  rw [hentries]

/-- A matrix is packed in one way only. -/
theorem Operand.Packs.unique {p p' : Operand α} {x : Nat → Nat → α} (h : p.Packs x)
    (h' : p'.Packs x) (hrows : p.rows = p'.rows) (hcols : p.cols = p'.cols) : p = p' :=
  h.eq h' hrows hcols fun _ _ _ _ => rfl

/-- The entries of a packed matrix are elements of the buffer. -/
theorem Operand.Packs.mem {p : Operand α} {x : Nat → Nat → α} (h : p.Packs x) {r c : Nat}
    (hr : r < p.rows) (hc : c < p.cols) : x r c ∈ p.entries :=
  Array.mem_of_getElem? (h.holds r hr c hc)

/-- **A made operand.** The program ends well over a buffer of just the size of a `rows × cols`
matrix, and the operand is what it leaves there. -/
structure Operand.Made (p : Operand α) (rows cols : Nat) (act : Write α Unit) : Prop where
  rows_eq : p.rows = rows
  cols_eq : p.cols = cols
  run : ∃ dst : Array α, dst.size = rows * cols ∧ act dst = .ok () p.entries

/-- What a program leaves in a buffer of one and the same element throughout. -/
theorem Operand.Made.of_replicate {p : Operand α} {act : Write α Unit} (e : α)
    (h : act (Array.replicate (p.rows * p.cols) e) = .ok () p.entries) :
    p.Made p.rows p.cols act :=
  ⟨rfl, rfl, Array.replicate (p.rows * p.cols) e, Array.size_replicate, h⟩

/-! ### Matrices of blocks -/

/-- **A matrix of blocks.** Blocks of `p × q` entries, where `z i j` is block `(i, j)`. -/
def blocks (p q : Nat) (z : Nat → Nat → Nat → Nat → α) (r c : Nat) : α :=
  z (r / p) (c / q) (r % p) (c % q)

/-- Entry `(k, l)` of block `(i, j)`. -/
theorem blocks_mul_add {p q k l : Nat} (z : Nat → Nat → Nat → Nat → α) (i j : Nat) (hk : k < p)
    (hl : l < q) : blocks p q z (i * p + k) (j * q + l) = z i j k l := by
  rw [blocks, mul_add_div i hk, mul_add_mod i hk, mul_add_div j hl, mul_add_mod j hl]

/-- What is made of blocks packs their matrix. -/
theorem WrittenBlocks.packs {m n p q : Nat} {z : Nat → Nat → Nat → Nat → α} {dst : Array α}
    {o : Operand α} (h : WrittenBlocks m n p q z dst o.entries) (hrows : o.rows = m * p)
    (hcols : o.cols = n * q) (hdst : dst.size = m * p * (n * q)) : o.Packs (blocks p q z) where
  size_eq := by rw [h.size_eq, hdst, hrows, hcols]
  holds := by
    intro r hr c hc
    rw [hrows] at hr ⊢
    rw [hcols] at hc
    -- a row is one of a row of blocks, and a column one of a column of blocks
    obtain ⟨i, hi, k, hk, rfl⟩ := exists_mul_add hr
    obtain ⟨j, hj, l, hl, rfl⟩ := exists_mul_add hc
    rw [h.entry i hi j hj k hk l hl, blocks_mul_add z i j hk hl]

/-- The matrix `x ⊗ y`, for a right factor with `p × q` entries. -/
def tensor [One α] [Mul α] [DecidableEq α] (p q : Nat) (x y : Nat → Nat → α) : Nat → Nat → α :=
  blocks p q fun i j k l => scale (x i j) (y k l)

/-- The matrix `x ⊗ I`, for the identity of order `n`. -/
def tensorUnit [Zero α] (n : Nat) (x : Nat → Nat → α) : Nat → Nat → α :=
  blocks n n fun i j k l => if k = l then x i j else 0

/-- The matrix `I ⊗ x`, for a matrix `x` with `p × q` entries. -/
def unitTensor [Zero α] (p q : Nat) (x : Nat → Nat → α) : Nat → Nat → α :=
  blocks p q fun i j k l => if i = j then x k l else 0

theorem tensorUnit_apply [Zero α] (n : Nat) (x : Nat → Nat → α) (r c : Nat) :
    tensorUnit n x r c = if r % n = c % n then x (r / n) (c / n) else 0 := rfl

theorem unitTensor_apply [Zero α] (p q : Nat) (x : Nat → Nat → α) (r c : Nat) :
    unitTensor p q x r c = if r / p = c / q then x (r % p) (c % q) else 0 := rfl

/-- The identity, of whatever order. -/
def unitMatrix [Zero α] [One α] (r c : Nat) : α := if r = c then 1 else 0

/-! ### The results of the kernels -/

section Kernels

variable {a b p : Operand α} {n : Nat} {x y : Nat → Nat → α}

/-- The operand `p` is the product of `a` and `b`, as a kernel writes it. -/
def IsProduct [One α] [Mul α] [DecidableEq α] (c : Copier) (a b p : Operand α) : Prop :=
  p.Made (a.rows * b.rows) (a.cols * b.cols) (product c a b)

/-- The operand `p` is `a ⊗ I`, as a kernel writes it. -/
def IsTimesIdentity [Zero α] (a : Operand α) (n : Nat) (p : Operand α) : Prop :=
  p.Made (a.rows * n) (a.cols * n) (timesIdentity a n)

/-- The operand `p` is `I ⊗ a`, as a kernel writes it. -/
def IsIdentityTimes [Zero α] [One α] [Mul α] [DecidableEq α] (c : Copier) (a : Operand α) (n : Nat)
    (p : Operand α) : Prop :=
  p.Made (n * a.rows) (n * a.cols) (identityTimes c a n)

/-- The operand `p` is the identity of order `n`, as it is written out. -/
def IsIdentity [Zero α] [One α] (n : Nat) (p : Operand α) : Prop := p.Made n n (identity n)

theorem IsProduct.packs [One α] [Mul α] [DecidableEq α] {c : Copier} (h : IsProduct c a b p)
    (hx : Holds a.entries a.rows a.cols a.rows x) (hy : Holds b.entries b.rows b.cols b.rows y) :
    p.Packs (tensor b.rows b.cols x y) := by
  obtain ⟨hrows, hcols, dst, hdst, hrun⟩ := h
  exact (product_writtenBlocks hx hy hrun).packs hrows hcols hdst

theorem IsTimesIdentity.packs [Zero α] (h : IsTimesIdentity a n p)
    (hx : Holds a.entries a.rows a.cols a.rows x) : p.Packs (tensorUnit n x) := by
  obtain ⟨hrows, hcols, dst, hdst, hrun⟩ := h
  exact (timesIdentity_writtenBlocks hx hrun).packs hrows hcols hdst

theorem IsIdentityTimes.packs [Zero α] [One α] [Mul α] [DecidableEq α] {c : Copier}
    (h : IsIdentityTimes c a n p) (hx : Holds a.entries a.rows a.cols a.rows x) :
    p.Packs (unitTensor a.rows a.cols x) := by
  obtain ⟨hrows, hcols, dst, hdst, hrun⟩ := h
  exact (identityTimes_writtenBlocks hx hrun).packs hrows hcols hdst

theorem IsIdentity.packs [Zero α] [One α] (h : IsIdentity n p) :
    p.Packs (unitMatrix : Nat → Nat → α) := by
  obtain ⟨hrows, hcols, dst, hdst, hrun⟩ := h
  -- nothing behind the entries: the buffer is as long as the identity
  refine ⟨?_, ?_⟩
  · obtain ⟨-, -, hentries⟩ := identity_eq_ok_iff.1 hrun
    rw [hentries, size_storing, hdst, hrows, hcols]
  · rw [hrows, hcols]
    exact holds_of_identity_eq_ok hrun

/-- The operand of a product with an identity has been cut to size, so it has its entries. -/
theorem IsTimesIdentity.exists_holds [Zero α] (h : IsTimesIdentity a n p) :
    ∃ x, Holds a.entries a.rows a.cols a.rows x := by
  obtain ⟨-, -, dst, -, hrun⟩ := h
  exact a.exists_holds_entries (0 : α) (identityFits_of_timesIdentity_eq_ok hrun).packed_le

theorem IsIdentityTimes.exists_holds [Zero α] [One α] [Mul α] [DecidableEq α] {c : Copier}
    (h : IsIdentityTimes c a n p) : ∃ x, Holds a.entries a.rows a.cols a.rows x := by
  obtain ⟨-, -, dst, -, hrun⟩ := h
  exact a.exists_holds_entries (0 : α) (identityFits_of_identityTimes_eq_ok hrun).packed_le

end Kernels

end DenseKron
