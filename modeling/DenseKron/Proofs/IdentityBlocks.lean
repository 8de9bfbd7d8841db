import DenseKron.Kernel.Products
import DenseKron.Proofs.CopyContract
import DenseKron.Proofs.Cursor
import Mathlib.Tactic.Positivity

/-!
# The blocks of a product with an identity

Either product with an identity clears its place first and then writes what is not zero: the
diagonals of the blocks of `A ⊗ I`, or the blocks on the diagonal of `I ⊗ A`. What it leaves is the
whole block matrix, zeros included (`timesIdentity_writes`, `identityTimes_writes`), since no store
after the clearing goes to a place whose entry is zero.

`IdentityFits` collects the checks of both. They are not quite enough for a run without a fault:
the stride from one store to the next is computed apart, and where the product has nothing to
stride over it may be one too large for a machine size. In a run that ended well it was not
(`stride_lt_of_timesIdentity_eq_ok`, `stride_lt_of_identityTimes_eq_ok`).
-/

namespace DenseKron

variable {α : Type} {a : Operand α} {n : Nat} {dst dst' : Array α}

/-! ### The common beginning -/

/-- **A product with the identity of order `n` that fits** a destination of `len` elements. The
lengths that are multiplied up on the way to that of the product are machine sizes, and the operand
is as long as its shape says. -/
structure IdentityFits (a : Operand α) (n len : Nat) : Prop where
  rows_lt : n * a.rows < Size.limit
  column_lt : n * a.rows * n < Size.limit
  total_lt : n * a.rows * n * a.cols < Size.limit
  total_le : n * a.rows * n * a.cols ≤ len
  packed_lt : a.rows * a.cols < Size.limit
  packed_le : a.rows * a.cols ≤ a.entries.size

/-- The beginning ends well exactly when the product fits, and it clears the product's place. -/
theorem clearProduct_eq_ok_iff [Zero α] {result : Nat × Nat × Array α} :
    clearProduct a n dst = .ok result dst' ↔
      IdentityFits a n dst.size ∧
      result = (n * a.rows, n * a.rows * n * a.cols, a.entries.extract 0 (a.rows * a.cols)) ∧
      dst' = storing (filling (n * a.rows * n * a.cols) 0) dst := by
  rw [clearProduct, EStateM.bind_of_ok (Write.length_apply dst)]
  constructor
  · -- the checks, in the order in which they are made
    intro h
    obtain ⟨_, hrows, h⟩ := Guarded.liftM_bind_eq_ok_iff.1 h
    obtain ⟨hrowsLt, rfl⟩ := Size.mul_eq_ok_iff.1 hrows
    obtain ⟨_, hcolumn, h⟩ := Guarded.liftM_bind_eq_ok_iff.1 h
    obtain ⟨hcolumnLt, rfl⟩ := Size.mul_eq_ok_iff.1 hcolumn
    obtain ⟨_, htotal, h⟩ := Guarded.liftM_bind_eq_ok_iff.1 h
    obtain ⟨htotalLt, rfl⟩ := Size.mul_eq_ok_iff.1 htotal
    obtain ⟨htotalLe, h⟩ := Guarded.require_bind_eq_ok_iff.1 h
    obtain ⟨_, hpacked, h⟩ := Guarded.liftM_bind_eq_ok_iff.1 h
    obtain ⟨hpackedLt, hpackedLe, rfl⟩ := Operand.packed_eq_ok_iff.1 hpacked
    rw [EStateM.bind_of_ok (Writes.fill htotalLe 0 dst rfl)] at h
    obtain ⟨rfl, rfl⟩ := Guarded.pure_eq_ok_iff.1 h
    exact ⟨⟨hrowsLt, hcolumnLt, htotalLt, htotalLe, hpackedLt, hpackedLe⟩, rfl, rfl⟩
  · rintro ⟨h, rfl, rfl⟩
    -- each length is a size, so that all the checks hold
    have hrows : Size.mul n a.rows = .ok (n * a.rows) := Size.mul_eq_ok_iff.2 ⟨h.rows_lt, rfl⟩
    have hcolumn : Size.mul (n * a.rows) n = .ok (n * a.rows * n) :=
      Size.mul_eq_ok_iff.2 ⟨h.column_lt, rfl⟩
    have htotal : Size.mul (n * a.rows * n) a.cols = .ok (n * a.rows * n * a.cols) :=
      Size.mul_eq_ok_iff.2 ⟨h.total_lt, rfl⟩
    have hpacked : a.packed = .ok (a.entries.extract 0 (a.rows * a.cols)) :=
      Operand.packed_eq_ok_iff.2 ⟨h.packed_lt, h.packed_le, rfl⟩
    rw [Guarded.liftM_bind_of_ok hrows, Guarded.liftM_bind_of_ok hcolumn,
      Guarded.liftM_bind_of_ok htotal, Guarded.require_bind_of h.total_le,
      Guarded.liftM_bind_of_ok hpacked, EStateM.bind_of_ok (Writes.fill h.total_le 0 dst rfl)]
    rfl

theorem pos_of_total_ne_zero (h : n * a.rows * n * a.cols ≠ 0) :
    0 < n ∧ 0 < a.rows ∧ 0 < a.cols := by
  refine ⟨Nat.pos_of_ne_zero fun h0 => h ?_, Nat.pos_of_ne_zero fun h0 => h ?_,
    Nat.pos_of_ne_zero fun h0 => h ?_⟩ <;> simp [h0]

/-! ### Diagonal blocks -/

section Right

/-- The length of the product, as it is checked and as its blocks make it up. -/
theorem IdentityFits.total_eq_right (a : Operand α) (n : Nat) :
    n * a.rows * n * a.cols = a.rows * n * (a.cols * n) := by
  ring

/-- A step along the diagonal of a block. -/
theorem blockPlace_add_diagonal (rows n i j k : Nat) :
    blockPlace rows n n i j 0 0 + k * (n * rows + 1) = blockPlace rows n n i j k k := by
  unfold blockPlace
  ring

/-- A diagonal that lies in the buffer is written from its first place to its last. -/
theorem storeDiagonal_writes {ldb cursor len : Nat} (x : α) (hldb : ldb + 1 < Size.limit)
    (hcursor : cursor ≤ len) (h : ∀ k < n, cursor + k * (ldb + 1) < len) :
    Writes len (storeDiagonal ldb n cursor x)
      ((List.range n).map fun k => ⟨cursor + k * (ldb + 1), x⟩) := by
  intro dst hdst
  subst hdst
  -- `n` places are asked for, and the end of the buffer cuts none of them off
  have hplaces : progression cursor (ldb + 1) n (cursor + (dst.size - cursor)) =
      (List.range n).map fun k => cursor + k * (ldb + 1) :=
    progression_eq (Nat.succ_pos ldb) (by rwa [Nat.add_sub_cancel' hcursor])
  rw [storeDiagonal, EStateM.bind_of_ok (Write.window_of_le hcursor),
    Guarded.liftM_bind_of_ok (Size.add_eq_ok_iff.2 ⟨hldb, rfl⟩), hplaces,
    Writes.storeAll x _ dst rfl, List.map_map]
  rfl

/-- The diagonal of a block is written inside of the block. -/
theorem storeDiagonal_blockPlace_writes {len i j : Nat} (h : IdentityFits a n len)
    (hstride : n * a.rows + 1 < Size.limit) (hi : i < a.rows) (hj : j < a.cols) (x : α) :
    Writes len (storeDiagonal (n * a.rows) n (blockPlace a.rows n n i j 0 0) x)
      ((List.range n).map fun k => ⟨blockPlace a.rows n n i j k k, x⟩) := by
  have hle := h.total_le
  rw [IdentityFits.total_eq_right] at hle
  have hin : ∀ k < n, blockPlace a.rows n n i j 0 0 + k * (n * a.rows + 1) < len := by
    intro k hk
    rw [blockPlace_add_diagonal]
    exact Nat.lt_of_lt_of_le (blockPlace_lt hi hj hk hk) hle
  -- an identity of order zero has no diagonal, and its cursor may stand at the end
  have hcursor : blockPlace a.rows n n i j 0 0 ≤ len := by
    rcases Nat.eq_zero_or_pos n with rfl | hn
    · simp [blockPlace]
    · exact Nat.le_of_lt (by simpa using hin 0 hn)
  -- a step is one column to the right and one row down
  have hwrites := storeDiagonal_writes x hstride hcursor hin
  simp only [blockPlace_add_diagonal] at hwrites
  exact hwrites

/-- The diagonals of all blocks, each at the place of its block. -/
def storeDiagonals (a : Operand α) (n : Nat) (x : Nat → Nat → α) : Write α Unit :=
  Guarded.each (fun j => Guarded.each (fun i =>
    storeDiagonal (n * a.rows) n (blockPlace a.rows n n i j 0 0) (x i j))
    (List.range a.rows)) (List.range a.cols)

/-- The stores of the diagonals of all blocks. -/
def diagonalStores (a : Operand α) (n : Nat) (x : Nat → Nat → α) : List (Store α) :=
  (List.range a.cols).flatMap fun j => (List.range a.rows).flatMap fun i =>
    (List.range n).map fun k => ⟨blockPlace a.rows n n i j k k, x i j⟩

theorem mem_diagonalStores {x : Nat → Nat → α} {s : Store α} :
    s ∈ diagonalStores a n x ↔
      ∃ i < a.rows, ∃ j < a.cols, ∃ k < n, s = ⟨blockPlace a.rows n n i j k k, x i j⟩ := by
  simp only [diagonalStores, List.mem_flatMap, List.mem_map, List.mem_range]
  constructor
  · rintro ⟨j, hj, i, hi, k, hk, rfl⟩
    exact ⟨i, hi, j, hj, k, hk, rfl⟩
  · rintro ⟨i, hi, j, hj, k, hk, rfl⟩
    exact ⟨j, hj, i, hi, k, hk, rfl⟩

theorem storeDiagonals_writes {len : Nat} (h : IdentityFits a n len)
    (hstride : 0 < a.rows → 0 < a.cols → n * a.rows + 1 < Size.limit) (x : Nat → Nat → α) :
    Writes len (storeDiagonals a n x) (diagonalStores a n x) := by
  -- a round finds a block to write to, so there is one
  refine Writes.each fun j hj => Writes.each fun i hi => ?_
  have hi' := List.mem_range.1 hi
  have hj' := List.mem_range.1 hj
  exact storeDiagonal_blockPlace_writes h
    (hstride (Nat.zero_lt_of_lt hi') (Nat.zero_lt_of_lt hj')) hi' hj' (x i j)

variable [Zero α]

/-- The stores of the product: each entry on the diagonal of its block, and zero beside it. -/
def timesIdentityStores (a : Operand α) (n : Nat) (x : Nat → Nat → α) : List (Store α) :=
  blockMatrixStores a.rows a.cols n n fun i j k l => if k = l then x i j else 0

theorem diagonalStores_subset (x : Nat → Nat → α) :
    diagonalStores a n x ⊆ timesIdentityStores a n x := by
  intro s hs
  obtain ⟨i, hi, j, hj, k, hk, rfl⟩ := mem_diagonalStores.1 hs
  exact mem_blockMatrixStores.2 ⟨i, hi, j, hj, k, hk, k, hk, by rw [if_pos rfl]⟩

/-- What the diagonals leave of the clearing is what is zero in the product. -/
theorem storing_diagonalStores (x : Nat → Nat → α) (h : a.rows * n * (a.cols * n) ≤ dst.size) :
    storing (diagonalStores a n x) (storing (filling (a.rows * n * (a.cols * n)) 0) dst) =
      storing (timesIdentityStores a n x) dst := by
  refine storing_storing_filling (diagonalStores_subset x) (fun i hi j hj k hk l hl => ?_) h
  by_cases hkl : k = l
  · subst hkl
    rw [if_pos rfl]
    exact Or.inl (mem_diagonalStores.2 ⟨i, hi, j, hj, k, hk, rfl⟩)
  · exact Or.inr (if_neg hkl)

theorem timesIdentity_of_total_eq_zero (h : IdentityFits a n dst.size)
    (hzero : n * a.rows * n * a.cols = 0) : timesIdentity a n dst = .ok () dst := by
  rw [timesIdentity, EStateM.bind_of_ok (clearProduct_eq_ok_iff.2 ⟨h, rfl, rfl⟩)]
  simp only [hzero, if_true]
  rfl

/-- A product with entries is cleared, and a sweep over the operand writes the diagonals. -/
theorem timesIdentity_eq_run (h : IdentityFits a n dst.size)
    (hne : n * a.rows * n * a.cols ≠ 0) :
    timesIdentity a n dst = Sweep.run n (.ok (n * a.rows * (n - 1))) (storeDiagonal (n * a.rows) n)
      0 (a.columns (a.entries.extract 0 (a.rows * a.cols)))
      (storing (filling (n * a.rows * n * a.cols) 0) dst) := by
  have hn : 0 < n := (pos_of_total_ne_zero hne).1
  -- the jump is part of a length that has been checked
  have hjump : (do Size.mul (n * a.rows) (← Size.sub n 1)) = .ok (n * a.rows * (n - 1)) := by
    refine Fault.bind_eq_ok_iff.2 ⟨_, Size.sub_eq_ok_iff.2 ⟨hn, rfl⟩,
      Size.mul_eq_ok_iff.2 ⟨?_, rfl⟩⟩
    exact Nat.lt_of_le_of_lt (Nat.mul_le_mul_left _ (Nat.sub_le n 1)) h.column_lt
  rw [timesIdentity, EStateM.bind_of_ok (clearProduct_eq_ok_iff.2 ⟨h, rfl, rfl⟩)]
  simp only [if_neg hne, hjump]

/-- The product is cleared, and the diagonals of its blocks are written. -/
theorem timesIdentity_eq_storeDiagonals {x : Nat → Nat → α} (h : IdentityFits a n dst.size)
    (hstride : 0 < a.rows → 0 < a.cols → n * a.rows + 1 < Size.limit)
    (hx : Holds a.entries a.rows a.cols a.rows x) :
    timesIdentity a n dst =
      storeDiagonals a n x (storing (filling (n * a.rows * n * a.cols) 0) dst) := by
  by_cases hzero : n * a.rows * n * a.cols = 0
  · -- there is no diagonal with an element
    have hnone : diagonalStores a n x = [] := by
      refine List.eq_nil_of_subset_nil ?_
      rw [← blockMatrixStores_eq_nil (by rw [← IdentityFits.total_eq_right, hzero])]
      exact diagonalStores_subset x
    rw [timesIdentity_of_total_eq_zero h hzero,
      storeDiagonals_writes h hstride x _ (size_storing _ _), hnone, hzero]
    rfl
  · have hn : 0 < n := (pos_of_total_ne_zero hzero).1
    -- a column of blocks is `n` columns of the product wide
    have hcolumn : a.rows * n + n * a.rows * (n - 1) = n * (a.rows * n) := by
      obtain ⟨k, rfl⟩ : ∃ k, n = k + 1 := ⟨n - 1, (Nat.sub_add_cancel hn).symm⟩
      rw [Nat.add_sub_cancel]
      ring
    -- the cursor ends at the length of the product at most
    have hend : a.cols * (n * (a.rows * n)) < Size.limit := by
      have htotal : a.cols * (n * (a.rows * n)) = n * a.rows * n * a.cols := by ring
      rw [htotal]
      exact h.total_lt
    have hcursor : ∀ i j, j * (n * (a.rows * n)) + i * n = blockPlace a.rows n n i j 0 0 := by
      intro i j
      unfold blockPlace
      ring
    rw [timesIdentity_eq_run h hzero, Operand.columns_eq (Operand.holds_packed hx),
      Sweep.run_eq_each _ _ hcolumn x hend, storeDiagonals]
    simp only [hcursor]

/-- **What a product with the identity on the right writes**, when it fits: each entry on the
diagonal of its block, and zero beside it. -/
theorem timesIdentity_writes {x : Nat → Nat → α} {len : Nat} (h : IdentityFits a n len)
    (hstride : 0 < a.rows → 0 < a.cols → n * a.rows + 1 < Size.limit)
    (hx : Holds a.entries a.rows a.cols a.rows x) :
    Writes len (timesIdentity a n) (timesIdentityStores a n x) := by
  intro dst hdst
  subst hdst
  have hle := h.total_le
  -- zeros first and the diagonals over them make the stores of the whole product
  rw [timesIdentity_eq_storeDiagonals h hstride hx,
    storeDiagonals_writes h hstride x _ (size_storing _ _)]
  rw [IdentityFits.total_eq_right] at hle ⊢
  rw [storing_diagonalStores x hle]

theorem identityFits_of_timesIdentity_eq_ok (h : timesIdentity a n dst = .ok () dst') :
    IdentityFits a n dst.size := by
  obtain ⟨_, _, hclear, -⟩ := Guarded.bind_eq_ok_iff.1 h
  exact (clearProduct_eq_ok_iff.1 hclear).1

/-- The stride along the diagonals was a machine size, if there was a block. -/
theorem stride_lt_of_timesIdentity_eq_ok (h : timesIdentity a n dst = .ok () dst')
    (hrows : 0 < a.rows) (hcols : 0 < a.cols) : n * a.rows + 1 < Size.limit := by
  have hfit := identityFits_of_timesIdentity_eq_ok h
  -- for the identity of order zero nothing is written, but the stride is small
  rcases Nat.eq_zero_or_pos n with rfl | hn
  · rw [Nat.zero_mul]
    decide
  · have hne : n * a.rows * n * a.cols ≠ 0 := by positivity
    obtain ⟨x, hx⟩ := a.exists_holds_entries (0 : α) hfit.packed_le
    obtain ⟨rows, hr⟩ : ∃ k, a.rows = k + 1 := ⟨a.rows - 1, (Nat.sub_add_cancel hrows).symm⟩
    obtain ⟨cols, hc⟩ : ∃ k, a.cols = k + 1 := ⟨a.cols - 1, (Nat.sub_add_cancel hcols).symm⟩
    -- the diagonal of the first block was written
    rw [timesIdentity_eq_run hfit hne, Operand.columns_eq (Operand.holds_packed hx), hr, hc,
      List.range_succ_eq_map, List.range_succ_eq_map] at h
    obtain ⟨_, hact⟩ := Sweep.exists_act_of_run_eq_ok h
    obtain ⟨_, _, -, hact⟩ := Guarded.bind_eq_ok_iff.1 hact
    obtain ⟨_, hadd, -⟩ := Guarded.liftM_bind_eq_ok_iff.1 hact
    rw [hr]
    exact (Size.add_eq_ok_iff.1 hadd).1

/-- **The block value law of a product with the identity on the right.** Let the product of `a`
with the identity of order `n` be written into the buffer `dst`.

Entry `(k, l)` of block `(i, j)` is `a[i, j]` if `k = l`, else zero, whatever stood there. Behind
the product nothing has changed, and neither has the length. On the way the product's place is
cleared once, and the diagonals are written one after another; each of them consists of `n` stores,
one to each place on the diagonal of its block and none to anywhere else. -/
theorem timesIdentity_block_value_law (h : timesIdentity a n dst = .ok () dst') :
    (∀ i < a.rows, ∀ j < a.cols, ∀ k < n, ∀ l < n, ∃ x, a.entries[j * a.rows + i]? = some x ∧
      dst'[(j * n + l) * (a.rows * n) + i * n + k]? = some (if k = l then x else 0)) ∧
    (∀ t, a.rows * n * (a.cols * n) ≤ t → dst'[t]? = dst[t]?) ∧
    dst'.size = dst.size ∧
    ∃ x : Nat → Nat → α,
      (∀ i < a.rows, ∀ j < a.cols, a.entries[j * a.rows + i]? = some (x i j)) ∧
      timesIdentity a n dst =
        storeDiagonals a n x (storing (filling (a.rows * n * (a.cols * n)) 0) dst) ∧
      ∀ i < a.rows, ∀ j < a.cols,
        Writes dst.size (storeDiagonal (n * a.rows) n (blockPlace a.rows n n i j 0 0) (x i j))
          ((List.range n).map fun k => ⟨blockPlace a.rows n n i j k k, x i j⟩) := by
  have hfit := identityFits_of_timesIdentity_eq_ok h
  have hstride := stride_lt_of_timesIdentity_eq_ok h
  have hle := hfit.total_le
  rw [IdentityFits.total_eq_right] at hle
  obtain ⟨x, hx⟩ := a.exists_holds_entries (0 : α) hfit.packed_le
  have hrun := timesIdentity_eq_storeDiagonals hfit hstride hx
  rw [IdentityFits.total_eq_right] at hrun
  -- each round stays on the diagonal of its block
  have hround : ∀ i < a.rows, ∀ j < a.cols,
      Writes dst.size (storeDiagonal (n * a.rows) n (blockPlace a.rows n n i j 0 0) (x i j))
        ((List.range n).map fun k => ⟨blockPlace a.rows n n i j k k, x i j⟩) := by
    intro i hi j hj
    have hstride' := hstride (Nat.zero_lt_of_lt hi) (Nat.zero_lt_of_lt hj)
    exact storeDiagonal_blockPlace_writes hfit hstride' hi hj (x i j)
  refine ⟨fun i hi j hj k hk l hl => ⟨x i j, hx i hi j hj, ?_⟩, fun t ht => ?_, ?_,
    x, hx, hrun, hround⟩
  -- from here on `dst'` is known
  all_goals
    rw [timesIdentity_writes hfit hstride hx dst rfl] at h
    cases h
  · rw [Nat.add_assoc]
    exact getElem?_blockMatrixStores hle hi hj hk hl
  · exact getElem?_blockMatrixStores_of_le dst ht
  · exact size_storing _ dst

/-- A matrix that is not square, into a buffer that is longer than the product. -/
theorem timesIdentity_block_value_law_column :
    timesIdentity (⟨#[1, 3], 2, 1⟩ : Operand Nat) 2 #[8, 8, 8, 8, 8, 8, 8, 8, 8] =
        .ok () #[1, 0, 3, 0, 0, 1, 0, 3, 8] ∧
      (∃ x, #[1, 3][0 * 2 + 1]? = some x ∧
        #[1, 0, 3, 0, 0, 1, 0, 3, 8][(0 * 2 + 1) * (2 * 2) + 1 * 2 + 1]? =
          some (if 1 = 1 then x else 0)) ∧
      ∃ x, #[1, 3][0 * 2 + 1]? = some x ∧
        #[1, 0, 3, 0, 0, 1, 0, 3, 8][(0 * 2 + 0) * (2 * 2) + 1 * 2 + 1]? =
          some (if 1 = 0 then x else 0) := by
  have h : timesIdentity (⟨#[1, 3], 2, 1⟩ : Operand Nat) 2 #[8, 8, 8, 8, 8, 8, 8, 8, 8] =
      .ok () #[1, 0, 3, 0, 0, 1, 0, 3, 8] := by decide +kernel
  obtain ⟨hvalue, -⟩ := timesIdentity_block_value_law h
  exact ⟨h, hvalue 1 (by decide) 0 (by decide) 1 (by decide) 1 (by decide),
    hvalue 1 (by decide) 0 (by decide) 1 (by decide) 0 (by decide)⟩

end Right

/-! ### Blocks on the diagonal -/

section Left

/-- The length of the product, as it is checked and as its blocks make it up. -/
theorem IdentityFits.total_eq_left (a : Operand α) (n : Nat) :
    n * a.rows * n * a.cols = n * a.rows * (n * a.cols) :=
  Nat.mul_assoc _ _ _

/-- A step from block to block down the diagonal. -/
theorem mul_diagonal_stride (rows cols n i : Nat) :
    i * (n * rows * cols + rows) = blockPlace n rows cols i i 0 0 := by
  unfold blockPlace
  ring

/-- The stores of the blocks on the diagonal. -/
def diagonalBlockStores (a : Operand α) (n : Nat) (x : Nat → Nat → α) : List (Store α) :=
  (List.range n).flatMap fun u =>
    blockStores (blockPlace n a.rows a.cols u u 0 0) a.rows a.cols (n * a.rows) x

theorem mem_diagonalBlockStores {x : Nat → Nat → α} {s : Store α} :
    s ∈ diagonalBlockStores a n x ↔
      ∃ u < n, ∃ k < a.rows, ∃ l < a.cols, s = ⟨blockPlace n a.rows a.cols u u k l, x k l⟩ := by
  simp only [diagonalBlockStores, List.mem_flatMap, List.mem_range, mem_blockStores_blockPlace]

section Stores

variable [Zero α]

/-- The stores of the product: the operand in the blocks on the diagonal, and zero in the others. -/
def identityTimesStores (a : Operand α) (n : Nat) (x : Nat → Nat → α) : List (Store α) :=
  blockMatrixStores n n a.rows a.cols fun u v k l => if u = v then x k l else 0

theorem diagonalBlockStores_subset (x : Nat → Nat → α) :
    diagonalBlockStores a n x ⊆ identityTimesStores a n x := by
  intro s hs
  obtain ⟨u, hu, k, hk, l, hl, rfl⟩ := mem_diagonalBlockStores.1 hs
  exact mem_blockMatrixStores.2 ⟨u, hu, u, hu, k, hk, l, hl, by rw [if_pos rfl]⟩

/-- What the copies leave of the clearing is what is zero in the product. -/
theorem storing_diagonalBlockStores (x : Nat → Nat → α)
    (h : n * a.rows * (n * a.cols) ≤ dst.size) :
    storing (diagonalBlockStores a n x) (storing (filling (n * a.rows * (n * a.cols)) 0) dst) =
      storing (identityTimesStores a n x) dst := by
  refine storing_storing_filling (diagonalBlockStores_subset x) (fun u hu v hv k hk l hl => ?_) h
  by_cases huv : u = v
  · subst huv
    rw [if_pos rfl]
    exact Or.inl (mem_diagonalBlockStores.2 ⟨u, hu, k, hk, l, hl, rfl⟩)
  · exact Or.inr (if_neg huv)

end Stores

variable [Zero α] [One α] [Mul α] [DecidableEq α]

theorem identityTimes_of_total_eq_zero (c : Copier) (h : IdentityFits a n dst.size)
    (hzero : n * a.rows * n * a.cols = 0) : identityTimes c a n dst = .ok () dst := by
  rw [identityTimes, EStateM.bind_of_ok (clearProduct_eq_ok_iff.2 ⟨h, rfl, rfl⟩)]
  simp only [hzero, if_true]
  rfl

/-- A product with entries is cleared, and the operand is copied to the blocks on the diagonal. -/
theorem identityTimes_eq_each (c : Copier) (h : IdentityFits a n dst.size)
    (hne : n * a.rows * n * a.cols ≠ 0) :
    identityTimes c a n dst = (do
      let stride ← Size.add (← Size.mul (n * a.rows) a.cols) a.rows
      Guarded.each (fun i => do
        c.copy { rows := a.rows, cols := a.cols, lda := a.rows, ldb := n * a.rows } 1
          (a.entries.extract 0 (a.rows * a.cols)) (← Size.mul i stride)) (List.range n) :
        Write α Unit) (storing (filling (n * a.rows * n * a.cols) 0) dst) := by
  rw [identityTimes, EStateM.bind_of_ok (clearProduct_eq_ok_iff.2 ⟨h, rfl, rfl⟩)]
  simp only [if_neg hne]

/-- The strides of the product are sizes, and the loop over them is one over the blocks. -/
theorem identityTimes_eq_copies (c : Copier) (h : IdentityFits a n dst.size)
    (hne : n * a.rows * n * a.cols ≠ 0) (hstride : n * a.rows * a.cols + a.rows < Size.limit) :
    identityTimes c a n dst = Guarded.each (fun u =>
        c.copy { rows := a.rows, cols := a.cols, lda := a.rows, ldb := n * a.rows } 1
          (a.entries.extract 0 (a.rows * a.cols)) (u * (n * a.rows * a.cols + a.rows)))
      (List.range n) (storing (filling (n * a.rows * n * a.cols) 0) dst) := by
  obtain ⟨-, hrows, hcols⟩ := pos_of_total_ne_zero hne
  have hlt := h.total_lt
  rw [IdentityFits.total_eq_left] at hlt
  have hcolumn : Size.mul (n * a.rows) a.cols = .ok (n * a.rows * a.cols) :=
    Size.mul_eq_ok_iff.2 ⟨Nat.lt_of_le_of_lt (Nat.le_add_right _ _) hstride, rfl⟩
  have hadd : Size.add (n * a.rows * a.cols) a.rows = .ok (n * a.rows * a.cols + a.rows) :=
    Size.add_eq_ok_iff.2 ⟨hstride, rfl⟩
  rw [identityTimes_eq_each c h hne, Guarded.liftM_bind_of_ok hcolumn,
    Guarded.liftM_bind_of_ok hadd]
  refine Guarded.each_congr (fun u hu d => ?_) _
  have hu := List.mem_range.1 hu
  -- every copy starts at a place of the product, which is a size
  have hstart : Size.mul u (n * a.rows * a.cols + a.rows) =
      .ok (u * (n * a.rows * a.cols + a.rows)) := by
    rw [Size.mul_eq_ok_iff, mul_diagonal_stride]
    exact ⟨Nat.lt_trans (blockPlace_lt hu hu hrows hcols) hlt, rfl⟩
  exact Guarded.liftM_bind_of_ok hstart _ d

/-- **What a product with the identity on the left writes**, when it fits: the operand in the blocks
on the diagonal, and zero in the others. -/
theorem identityTimes_writes (c : Copier) {x : Nat → Nat → α} {len : Nat}
    (h : IdentityFits a n len)
    (hstride : n * a.rows * n * a.cols ≠ 0 → n * a.rows * a.cols + a.rows < Size.limit)
    (hx : Holds a.entries a.rows a.cols a.rows x) :
    Writes len (identityTimes c a n) (identityTimesStores a n x) := by
  intro dst hdst
  subst hdst
  by_cases hzero : n * a.rows * n * a.cols = 0
  -- there is nothing to copy, and no stride to compute
  · rw [identityTimes_of_total_eq_zero c h hzero, identityTimesStores,
      blockMatrixStores_eq_nil (by rw [← IdentityFits.total_eq_left, hzero])]
    rfl
  · obtain ⟨-, hrows, hcols⟩ := pos_of_total_ne_zero hzero
    have hle := h.total_le
    have hlt := h.total_lt
    rw [IdentityFits.total_eq_left] at hle hlt
    -- one round writes the operand to one block
    have hround : ∀ u ∈ List.range n, Writes dst.size
        (c.copy { rows := a.rows, cols := a.cols, lda := a.rows, ldb := n * a.rows } 1
          (a.entries.extract 0 (a.rows * a.cols)) (u * (n * a.rows * a.cols + a.rows)))
        (blockStores (blockPlace n a.rows a.cols u u 0 0) a.rows a.cols (n * a.rows) x) := by
      intro u hu
      have hu := List.mem_range.1 hu
      -- by the factor `1` nothing is multiplied
      have hcopy := c.copy_blockPlace_writes hu hu hrows hcols hlt hle (Operand.holds_packed hx) 1
      simp only [scale_one] at hcopy
      rwa [mul_diagonal_stride]
    rw [identityTimes_eq_copies c h hzero (hstride hzero), Writes.each hround _ (size_storing _ _)]
    show EStateM.Result.ok () (storing (diagonalBlockStores a n x) _) = _
    rw [IdentityFits.total_eq_left, storing_diagonalBlockStores x hle]

theorem identityFits_of_identityTimes_eq_ok {c : Copier}
    (h : identityTimes c a n dst = .ok () dst') : IdentityFits a n dst.size := by
  obtain ⟨_, _, hclear, -⟩ := Guarded.bind_eq_ok_iff.1 h
  exact (clearProduct_eq_ok_iff.1 hclear).1

/-- The stride from block to block was a machine size, if there was a block. -/
theorem stride_lt_of_identityTimes_eq_ok {c : Copier} (h : identityTimes c a n dst = .ok () dst')
    (hne : n * a.rows * n * a.cols ≠ 0) : n * a.rows * a.cols + a.rows < Size.limit := by
  rw [identityTimes_eq_each c (identityFits_of_identityTimes_eq_ok h) hne] at h
  -- it was computed before the first copy
  obtain ⟨_, hmul, h⟩ := Guarded.liftM_bind_eq_ok_iff.1 h
  obtain ⟨-, rfl⟩ := Size.mul_eq_ok_iff.1 hmul
  obtain ⟨_, hadd, -⟩ := Guarded.liftM_bind_eq_ok_iff.1 h
  exact (Size.add_eq_ok_iff.1 hadd).1

/-- **The block value law of a product with the identity on the left.** Let the product of the
identity of order `n` with `a` be written into the buffer `dst`, by any copier.

Entry `(k, l)` of block `(u, v)` is `a[k, l]` if `u = v`, else zero, whatever stood there. Behind
the product nothing has changed, and neither has the length. -/
theorem identityTimes_block_value_law (c : Copier) (h : identityTimes c a n dst = .ok () dst') :
    (∀ u < n, ∀ v < n, ∀ k < a.rows, ∀ l < a.cols, ∃ x, a.entries[l * a.rows + k]? = some x ∧
      dst'[(v * a.cols + l) * (a.rows * n) + u * a.rows + k]? =
        some (if u = v then x else 0)) ∧
    (∀ t, a.rows * n * (a.cols * n) ≤ t → dst'[t]? = dst[t]?) ∧
    dst'.size = dst.size := by
  have hfit := identityFits_of_identityTimes_eq_ok h
  have hle := hfit.total_le
  rw [IdentityFits.total_eq_left] at hle
  obtain ⟨x, hx⟩ := a.exists_holds_entries (0 : α) hfit.packed_le
  have hwrites := identityTimes_writes c hfit (stride_lt_of_identityTimes_eq_ok h) hx dst rfl
  rw [hwrites] at h
  cases h
  -- the law has the rows of the product as `a.rows * n`, and the blocks as `n * a.rows`
  refine ⟨fun u hu v hv k hk l hl => ⟨x k l, hx k hk l hl, ?_⟩, fun t ht => ?_, size_storing _ dst⟩
  · rw [Nat.mul_comm a.rows n, Nat.add_assoc]
    exact getElem?_blockMatrixStores hle hu hv hk hl
  · rw [Nat.mul_comm a.rows n, Nat.mul_comm a.cols n] at ht
    exact getElem?_blockMatrixStores_of_le dst ht

/-- A matrix that is not square, copied by tasks into a buffer that is longer than the product. -/
theorem identityTimes_block_value_law_column :
    identityTimes (.parallel 0) (⟨#[1, 3], 2, 1⟩ : Operand Nat) 2 #[8, 8, 8, 8, 8, 8, 8, 8, 8] =
        .ok () #[1, 3, 0, 0, 0, 0, 1, 3, 8] ∧
      (∃ x, #[1, 3][0 * 2 + 1]? = some x ∧
        #[1, 3, 0, 0, 0, 0, 1, 3, 8][(1 * 1 + 0) * (2 * 2) + 1 * 2 + 1]? =
          some (if 1 = 1 then x else 0)) ∧
      ∃ x, #[1, 3][0 * 2 + 1]? = some x ∧
        #[1, 3, 0, 0, 0, 0, 1, 3, 8][(1 * 1 + 0) * (2 * 2) + 0 * 2 + 1]? =
          some (if 0 = 1 then x else 0) := by
  have h : identityTimes (.parallel 0) (⟨#[1, 3], 2, 1⟩ : Operand Nat) 2
      #[8, 8, 8, 8, 8, 8, 8, 8, 8] = .ok () #[1, 3, 0, 0, 0, 0, 1, 3, 8] := by decide +kernel
  obtain ⟨hvalue, -⟩ := identityTimes_block_value_law (.parallel 0) h
  exact ⟨h, hvalue 1 (by decide) 1 (by decide) 1 (by decide) 0 (by decide),
    hvalue 0 (by decide) 1 (by decide) 1 (by decide) 0 (by decide)⟩

end Left

end DenseKron
