import DenseKron.Kernel.Products
import DenseKron.Proofs.CopyContract
import DenseKron.Proofs.Cursor

/-!
# The blocks of a Kronecker product

`product` writes one block per entry of the left factor. The cursor of its sweep stands at the
entry `(0, 0)` of the block, and the copy puts the scaled right factor there; together the blocks
are all of the product, so the destination's old elements have no part in it.

`ProductFits` collects what the kernel checks and what it finds out later by cutting the left
factor to size. It is all that is needed: a run under it meets no fault (`product_writes`), and a
run that ended well had it (`productFits_of_product_eq_ok`). The value of every entry, the frame
and the independence of everything else are read off the list of stores (`product_block_value_law`).
-/

namespace DenseKron

/-! ### When a product can be written -/

section Product

variable {α : Type} {a b : Operand α} {n : Nat}

/-- **A product without entries.** A side of one of the factors is zero. -/
def ProductEmpty (a b : Operand α) : Prop :=
  a.rows = 0 ∨ a.cols = 0 ∨ b.rows = 0 ∨ b.cols = 0

instance (a b : Operand α) : Decidable (ProductEmpty a b) :=
  inferInstanceAs (Decidable (_ ∨ _ ∨ _ ∨ _))

theorem not_productEmpty_iff :
    ¬ ProductEmpty a b ↔ 0 < a.rows ∧ 0 < a.cols ∧ 0 < b.rows ∧ 0 < b.cols := by
  unfold ProductEmpty
  omega

theorem ProductEmpty.total_eq_zero (h : ProductEmpty a b) :
    a.rows * b.rows * (a.cols * b.cols) = 0 := by
  obtain h0 | h0 | h0 | h0 := h <;> simp [h0]

/-- **A product that fits** a destination of `n` elements. The right factor is as long as its shape
says, the lengths that are multiplied up on the way to that of the product are machine sizes, and,
if the product has entries, the left factor is as long as its shape says. -/
structure ProductFits (a b : Operand α) (n : Nat) : Prop where
  right_lt : b.rows * b.cols < Size.limit
  right_le : b.rows * b.cols ≤ b.entries.size
  rows_lt : a.rows * b.rows < Size.limit
  column_lt : a.rows * b.rows * a.cols < Size.limit
  total_lt : a.rows * b.rows * a.cols * b.cols < Size.limit
  total_le : a.rows * b.rows * a.cols * b.cols ≤ n
  left : ProductEmpty a b ∨ a.rows * a.cols < Size.limit ∧ a.rows * a.cols ≤ a.entries.size

/-- The jump over the rest of a column of blocks is a machine size. -/
theorem ProductFits.jump_eq (h : ProductFits a b n) (hne : ¬ ProductEmpty a b) :
    (do Size.mul (← Size.sub b.cols 1) (a.rows * b.rows)) =
      .ok ((b.cols - 1) * (a.rows * b.rows)) := by
  obtain ⟨-, hac, -, hbc⟩ := not_productEmpty_iff.1 hne
  refine Fault.bind_eq_ok_iff.2 ⟨_, Size.sub_eq_ok_iff.2 ⟨hbc, rfl⟩, Size.mul_eq_ok_iff.2 ⟨?_, rfl⟩⟩
  -- the jump is a part of the length of the product
  calc (b.cols - 1) * (a.rows * b.rows) ≤ b.cols * (a.rows * b.rows) :=
        Nat.mul_le_mul_right _ (Nat.sub_le b.cols 1)
    _ ≤ a.cols * (b.cols * (a.rows * b.rows)) := Nat.le_mul_of_pos_left _ hac
    _ = a.rows * b.rows * a.cols * b.cols := by ring
    _ < Size.limit := h.total_lt

/-- A column of blocks is `b.cols` columns of the product wide. -/
theorem ProductFits.stride_eq (hne : ¬ ProductEmpty a b) :
    a.rows * b.rows + (b.cols - 1) * (a.rows * b.rows) = b.cols * (a.rows * b.rows) := by
  obtain ⟨-, -, -, hbc⟩ := not_productEmpty_iff.1 hne
  rw [Nat.add_comm, pred_mul_add hbc]

theorem ProductFits.strides_lt (h : ProductFits a b n) :
    a.cols * (b.cols * (a.rows * b.rows)) < Size.limit := by
  calc a.cols * (b.cols * (a.rows * b.rows)) = a.rows * b.rows * a.cols * b.cols := by ring
    _ < Size.limit := h.total_lt

variable [One α] [Mul α] [DecidableEq α] {dst dst' : Array α}

/-- The scaled right factor in each block of the product. -/
def productStores (a b : Operand α) (x y : Nat → Nat → α) : List (Store α) :=
  blockMatrixStores a.rows a.cols b.rows b.cols fun i j k l => scale (x i j) (y k l)

/-- A product that was written did fit. -/
theorem productFits_of_product_eq_ok {c : Copier} (h : product c a b dst = .ok () dst') :
    ProductFits a b dst.size := by
  rw [product] at h
  -- the checks, in the order in which they are made
  obtain ⟨_, _, hlength, h⟩ := Guarded.bind_eq_ok_iff.1 h
  cases hlength
  obtain ⟨_, hright, h⟩ := Guarded.liftM_bind_eq_ok_iff.1 h
  obtain ⟨hrightLt, rfl⟩ := Size.mul_eq_ok_iff.1 hright
  obtain ⟨hrightLe, h⟩ := Guarded.require_bind_eq_ok_iff.1 h
  obtain ⟨_, hrows, h⟩ := Guarded.liftM_bind_eq_ok_iff.1 h
  obtain ⟨hrowsLt, rfl⟩ := Size.mul_eq_ok_iff.1 hrows
  obtain ⟨_, hcolumn, h⟩ := Guarded.liftM_bind_eq_ok_iff.1 h
  obtain ⟨hcolumnLt, rfl⟩ := Size.mul_eq_ok_iff.1 hcolumn
  obtain ⟨_, htotal, h⟩ := Guarded.liftM_bind_eq_ok_iff.1 h
  obtain ⟨htotalLt, rfl⟩ := Size.mul_eq_ok_iff.1 htotal
  obtain ⟨htotalLe, h⟩ := Guarded.require_bind_eq_ok_iff.1 h
  -- the left factor is cut to size only when there is something to sweep over
  refine ⟨hrightLt, hrightLe, hrowsLt, hcolumnLt, htotalLt, htotalLe, ?_⟩
  by_cases hempty : ProductEmpty a b
  · exact Or.inl hempty
  · unfold ProductEmpty at hempty
    rw [if_neg hempty] at h
    obtain ⟨_, -, h⟩ := Guarded.liftM_bind_eq_ok_iff.1 h
    obtain ⟨_, hpacked, -⟩ := Guarded.liftM_bind_eq_ok_iff.1 h
    obtain ⟨hlt, hle, -⟩ := Operand.packed_eq_ok_iff.1 hpacked
    exact Or.inr ⟨hlt, hle⟩

omit [One α] [Mul α] [DecidableEq α] in
/-- The length of the product, as it is checked and as the blocks make it up. -/
theorem ProductFits.total_eq (a b : Operand α) :
    a.rows * b.rows * a.cols * b.cols = a.rows * b.rows * (a.cols * b.cols) :=
  Nat.mul_assoc _ _ _

theorem ProductFits.product_eq (h : ProductFits a b dst.size) (c : Copier) :
    product c a b dst = (if ProductEmpty a b then return () else do
      let ldc ← Size.mul b.rows a.rows
      let entries ← a.packed
      Sweep.run b.rows (do Size.mul (← Size.sub b.cols 1) ldc)
        (fun cursor x => c.copy
          { rows := b.rows, cols := b.cols, lda := b.rows, ldb := ldc } x b.entries cursor) 0
        (a.columns entries) : Write α Unit) dst := by
  -- the checks hold, whether or not there are entries
  have hright : Size.mul b.rows b.cols = .ok (b.rows * b.cols) :=
    Size.mul_eq_ok_iff.2 ⟨h.right_lt, rfl⟩
  have hrows : Size.mul a.rows b.rows = .ok (a.rows * b.rows) :=
    Size.mul_eq_ok_iff.2 ⟨h.rows_lt, rfl⟩
  have hcolumn : Size.mul (a.rows * b.rows) a.cols = .ok (a.rows * b.rows * a.cols) :=
    Size.mul_eq_ok_iff.2 ⟨h.column_lt, rfl⟩
  have htotal : Size.mul (a.rows * b.rows * a.cols) b.cols =
      .ok (a.rows * b.rows * a.cols * b.cols) := Size.mul_eq_ok_iff.2 ⟨h.total_lt, rfl⟩
  rw [product, EStateM.bind_of_ok (Write.length_apply dst), Guarded.liftM_bind_of_ok hright,
    Guarded.require_bind_of h.right_le, Guarded.liftM_bind_of_ok hrows,
    Guarded.liftM_bind_of_ok hcolumn, Guarded.liftM_bind_of_ok htotal,
    Guarded.require_bind_of h.total_le]
  rfl

theorem product_of_empty (h : ProductFits a b dst.size) (hempty : ProductEmpty a b) (c : Copier) :
    product c a b dst = .ok () dst := by
  rw [h.product_eq, if_pos hempty]
  rfl

/-- **A product without its cursor** is two loops, and each round is the copy to one block. -/
theorem ProductFits.product_eq_loops {x : Nat → Nat → α} (h : ProductFits a b dst.size)
    (hne : ¬ ProductEmpty a b) (hx : Holds a.entries a.rows a.cols a.rows x) (c : Copier) :
    product c a b dst = Guarded.each (fun j => Guarded.each (fun i => c.copy
        { rows := b.rows, cols := b.cols, lda := b.rows, ldb := a.rows * b.rows } (x i j) b.entries
        (blockPlace a.rows b.rows b.cols i j 0 0)) (List.range a.rows))
      (List.range a.cols) dst := by
  obtain ⟨hpackedLt, hpackedLe⟩ := h.left.resolve_left hne
  have hldc : Size.mul b.rows a.rows = .ok (a.rows * b.rows) := by
    rw [Size.mul_eq_ok_iff, Nat.mul_comm]
    exact ⟨h.rows_lt, rfl⟩
  have hpacked : a.packed = .ok (a.entries.extract 0 (a.rows * a.cols)) :=
    Operand.packed_eq_ok_iff.2 ⟨hpackedLt, hpackedLe, rfl⟩
  -- the cursor of a block is its first place
  have hcursor : ∀ i j, j * (b.cols * (a.rows * b.rows)) + i * b.rows =
      blockPlace a.rows b.rows b.cols i j 0 0 := by
    intro i j
    unfold blockPlace
    ring
  rw [h.product_eq, if_neg hne, Guarded.liftM_bind_of_ok hldc, Guarded.liftM_bind_of_ok hpacked,
    h.jump_eq hne, Operand.columns_eq (Operand.holds_packed hx),
    Sweep.run_eq_each _ _ (ProductFits.stride_eq hne) x h.strides_lt]
  simp only [hcursor]

/-- **What a product writes**, when it fits and has entries: the scaled right factor in each of its
blocks. -/
theorem product_writes {x y : Nat → Nat → α} (h : ProductFits a b n) (hne : ¬ ProductEmpty a b)
    (hx : Holds a.entries a.rows a.cols a.rows x) (hy : Holds b.entries b.rows b.cols b.rows y)
    (c : Copier) : Writes n (product c a b) (productStores a b x y) := by
  intro dst hdst
  subst hdst
  obtain ⟨-, -, hbr, hbc⟩ := not_productEmpty_iff.1 hne
  have htotalLt := h.total_lt
  have htotalLe := h.total_le
  rw [ProductFits.total_eq] at htotalLt htotalLe
  rw [h.product_eq_loops hne hx]
  -- two loops, and in each round one block
  exact Writes.each (fun j hj => Writes.each fun i hi =>
    c.copy_blockPlace_writes (List.mem_range.1 hi) (List.mem_range.1 hj) hbr hbc htotalLt htotalLe
      hy (x i j)) dst rfl

/-- Without entries there are no blocks and no stores. -/
theorem ProductFits.writes {x y : Nat → Nat → α} (h : ProductFits a b n)
    (hx : Holds a.entries a.rows a.cols a.rows x) (hy : Holds b.entries b.rows b.cols b.rows y)
    (c : Copier) : Writes n (product c a b) (productStores a b x y) := by
  by_cases hempty : ProductEmpty a b
  · intro dst hdst
    subst hdst
    rw [product_of_empty h hempty, productStores, blockMatrixStores_eq_nil hempty.total_eq_zero,
      storing_nil]
  · exact product_writes h hempty hx hy c

/-- Each entry of a product arrives in its block. -/
theorem ProductFits.getElem?_storing (h : ProductFits a b dst.size) (x y : Nat → Nat → α)
    {i j k l : Nat} (hi : i < a.rows) (hj : j < a.cols) (hk : k < b.rows) (hl : l < b.cols) :
    (storing (productStores a b x y) dst)[blockPlace a.rows b.rows b.cols i j k l]? =
      some (scale (x i j) (y k l)) := by
  have hle := h.total_le
  rw [ProductFits.total_eq] at hle
  exact getElem?_blockMatrixStores hle hi hj hk hl

/-- **A product that was written consists of the stores of its blocks.** -/
theorem exists_stores_of_product_eq_ok {c : Copier} (h : product c a b dst = .ok () dst') :
    ∃ x y : Nat → Nat → α,
      (∀ i < a.rows, ∀ j < a.cols, ∀ k < b.rows, ∀ l < b.cols,
        a.entries[j * a.rows + i]? = some (x i j) ∧ b.entries[l * b.rows + k]? = some (y k l)) ∧
      dst' = storing (productStores a b x y) dst := by
  have hfit := productFits_of_product_eq_ok h
  by_cases hempty : ProductEmpty a b
  · -- there are no entries to give, and any will do
    have hstores : productStores a b (fun _ _ => (1 : α)) (fun _ _ => 1) = [] :=
      blockMatrixStores_eq_nil hempty.total_eq_zero
    refine ⟨fun _ _ => 1, fun _ _ => 1, fun i hi j hj k hk l hl => ?_, ?_⟩
    · have hlt := blockPlace_lt hi hj hk hl
      rw [hempty.total_eq_zero] at hlt
      exact absurd hlt (Nat.not_lt_zero _)
    · rw [product_of_empty hfit hempty] at h
      cases h
      rw [hstores, storing_nil]
  · obtain ⟨x, hx⟩ := a.exists_holds_entries (1 : α) (hfit.left.resolve_left hempty).2
    obtain ⟨y, hy⟩ := b.exists_holds_entries (1 : α) hfit.right_le
    refine ⟨x, y, fun i hi j hj k hk l hl => ⟨hx i hi j hj, hy k hk l hl⟩, ?_⟩
    rw [product_writes hfit hempty hx hy c dst rfl] at h
    cases h
    rfl

/-- Operands with the same declared entries have the same product, in whatever buffer and by
whatever copier it is written. -/
theorem product_congr {c : Copier} (h : product c a b dst = .ok () dst') (c' : Copier)
    {u v e : Array α} (hu : ∀ t < a.rows * a.cols, u[t]? = a.entries[t]?)
    (hv : ∀ t < b.rows * b.cols, v[t]? = b.entries[t]?)
    (he : a.rows * b.rows * a.cols * b.cols ≤ e.size) :
    ∃ e', product c' { a with entries := u } { b with entries := v } e = .ok () e' ∧
      ∀ t < a.rows * b.rows * a.cols * b.cols, e'[t]? = dst'[t]? := by
  have hfit := productFits_of_product_eq_ok h
  have hfit' : ProductFits { a with entries := u } { b with entries := v } e.size :=
    { right_lt := hfit.right_lt
      right_le := Operand.le_size_of_agree hfit.right_le hv
      rows_lt := hfit.rows_lt
      column_lt := hfit.column_lt
      total_lt := hfit.total_lt
      total_le := he
      left := hfit.left.imp_right fun hleft => ⟨hleft.1, Operand.le_size_of_agree hleft.2 hu⟩ }
  -- without entries there is nothing to agree on, and the left factor may even be too short
  by_cases hempty : ProductEmpty a b
  · refine ⟨e, product_of_empty hfit' hempty c', fun t ht => ?_⟩
    rw [ProductFits.total_eq, hempty.total_eq_zero] at ht
    exact absurd ht (Nat.not_lt_zero t)
  · obtain ⟨x, hx⟩ := a.exists_holds_entries (1 : α) (hfit.left.resolve_left hempty).2
    obtain ⟨y, hy⟩ := b.exists_holds_entries (1 : α) hfit.right_le
    -- either destination gets the same entries
    rw [product_writes hfit hempty hx hy c dst rfl] at h
    cases h
    have hx' : Holds u a.rows a.cols a.rows x := Operand.holds_of_agree hx hu
    have hy' : Holds v b.rows b.cols b.rows y := Operand.holds_of_agree hy hv
    refine ⟨_, product_writes hfit' hempty hx' hy' c' e rfl, fun t ht => ?_⟩
    rw [ProductFits.total_eq] at ht
    obtain ⟨i, hi, j, hj, k, hk, l, hl, rfl⟩ := exists_blockPlace ht
    rw [hfit.getElem?_storing x y hi hj hk hl]
    exact hfit'.getElem?_storing x y hi hj hk hl

/-- **The block value law of the Kronecker product.** Let a product be written into the buffer
`dst`.

Entry `(k, l)` of block `(i, j)` is `b[k, l]` if `a[i, j]` is `1`, else `a[i, j] * b[k, l]`. Behind
the product nothing has changed, and neither has the length. The entries of the product are those of
any other product of operands with the same declared entries, by any copier, into any buffer with
room for it. -/
theorem product_block_value_law (c : Copier) (h : product c a b dst = .ok () dst') :
    (∀ i < a.rows, ∀ j < a.cols, ∀ k < b.rows, ∀ l < b.cols, ∃ x y,
      a.entries[j * a.rows + i]? = some x ∧ b.entries[l * b.rows + k]? = some y ∧
        dst'[(j * b.cols + l) * (a.rows * b.rows) + i * b.rows + k]? =
          some (if x = 1 then y else x * y)) ∧
    (∀ t, a.rows * b.rows * a.cols * b.cols ≤ t → dst'[t]? = dst[t]?) ∧
    dst'.size = dst.size ∧
    (∀ (c' : Copier) (u v e : Array α), (∀ t < a.rows * a.cols, u[t]? = a.entries[t]?) →
      (∀ t < b.rows * b.cols, v[t]? = b.entries[t]?) →
      a.rows * b.rows * a.cols * b.cols ≤ e.size →
      ∃ e', product c' { a with entries := u } { b with entries := v } e = .ok () e' ∧
        ∀ t < a.rows * b.rows * a.cols * b.cols, e'[t]? = dst'[t]?) := by
  obtain ⟨x, y, hxy, hdst'⟩ := exists_stores_of_product_eq_ok h
  have hfit := productFits_of_product_eq_ok h
  -- what was stored is known, and what was not stored is what it was
  refine ⟨fun i hi j hj k hk l hl => ?_, fun t ht => ?_, ?_, fun c' u v e hu hv he =>
    product_congr h c' hu hv he⟩
  · obtain ⟨hx, hy⟩ := hxy i hi j hj k hk l hl
    refine ⟨x i j, y k l, hx, hy, ?_⟩
    rw [hdst', Nat.add_assoc]
    exact hfit.getElem?_storing x y hi hj hk hl
  · rw [ProductFits.total_eq] at ht
    rw [hdst']
    exact getElem?_blockMatrixStores_of_le dst ht
  · rw [hdst', size_storing]

/-- A column times a row, the factor `1` included, in a buffer that is longer than the product and
from a left factor with an element too many. -/
theorem product_block_value_law_column_row :
    product (.parallel 0) (⟨#[1, 3, 99], 2, 1⟩ : Operand Nat) ⟨#[5, 7], 1, 2⟩ #[8, 8, 8, 8, 8, 8] =
        .ok () #[5, 15, 7, 21, 8, 8] ∧
      (∃ x y, #[1, 3, 99][0 * 2 + 1]? = some x ∧ #[5, 7][1 * 1 + 0]? = some y ∧
        #[5, 15, 7, 21, 8, 8][(0 * 2 + 1) * (2 * 1) + 1 * 1 + 0]? =
          some (if x = 1 then y else x * y)) ∧
      ∀ t, 2 * 1 * 1 * 2 ≤ t → #[5, 15, 7, 21, 8, 8][t]? = #[8, 8, 8, 8, 8, 8][t]? := by
  have h : product (.parallel 0) (⟨#[1, 3, 99], 2, 1⟩ : Operand Nat) ⟨#[5, 7], 1, 2⟩
      #[8, 8, 8, 8, 8, 8] = .ok () #[5, 15, 7, 21, 8, 8] := by decide +kernel
  obtain ⟨hvalue, hframe, -⟩ := product_block_value_law (.parallel 0) h
  exact ⟨h, hvalue 1 (by decide) 0 (by decide) 0 (by decide) 1 (by decide), hframe⟩

end Product

end DenseKron
