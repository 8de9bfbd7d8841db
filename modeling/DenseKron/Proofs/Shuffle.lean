import DenseKron.Proofs.Written
import Mathlib.Data.Set.Function

/-!
# The perfect shuffle

Exchanging the factors of a Kronecker product deals its rows and its columns out anew. Row
`i * n + k` of `A ⊗ I` is row `k * m + i` of `I ⊗ A`: the counter that was the outer one becomes the
inner one. As a pack of `m * n` cards is cut into `m` piles of `n` and put together again by taking
one card from each pile in turn, this is called the perfect shuffle (`shuffle`). It only changes
the order, and shuffling with the two counters exchanged changes it back (`shuffle_shuffle`).

The two kernels for products with an identity have nothing in common but what they write. What they
write is known entry by entry, so that the law is read off there, for any elements
(`perfect_shuffle`). For the general product it takes two elements that commute; and since the
factor `1` is never multiplied by, each of them has to be the same when it is.
-/

namespace DenseKron

/-! ### Shuffled numbers -/

section Numbers

variable {m n r : Nat}

/-- **Perfect shuffle** of the numbers below `m * n`, as `m` groups of `n`. -/
def shuffle (m n r : Nat) : Nat := r % n * m + r / n

/-- The outer counter becomes the inner one. -/
theorem shuffle_mul_add (m i : Nat) {k : Nat} (hk : k < n) :
    shuffle m n (i * n + k) = k * m + i := by
  rw [shuffle, mul_add_mod i hk, mul_add_div i hk]

theorem shuffle_lt (h : r < m * n) : shuffle m n r < m * n := by
  obtain ⟨i, hi, k, hk, rfl⟩ := exists_mul_add h
  rw [shuffle_mul_add m i hk, Nat.mul_comm m]
  exact mul_add_lt_mul hk hi

/-- The shuffle of `n` groups of `m` is the way back. -/
theorem shuffle_shuffle (h : r < m * n) : shuffle n m (shuffle m n r) = r := by
  obtain ⟨i, hi, k, hk, rfl⟩ := exists_mul_add h
  rw [shuffle_mul_add m i hk, shuffle_mul_add n k hi]

/-- No number is lost, and none comes twice. -/
theorem bijOn_shuffle (m n : Nat) :
    Set.BijOn (shuffle m n) (Set.Iio (m * n)) (Set.Iio (m * n)) := by
  have hcomm : ∀ t, t < m * n → t < n * m := fun t ht => Nat.mul_comm m n ▸ ht
  have hinverse : Set.InvOn (shuffle n m) (shuffle m n) (Set.Iio (m * n)) (Set.Iio (m * n)) :=
    ⟨fun _ hr => shuffle_shuffle hr, fun t ht => shuffle_shuffle (hcomm t ht)⟩
  refine hinverse.bijOn (fun _ hr => shuffle_lt hr) fun t ht => ?_
  have hlt : shuffle n m t < n * m := shuffle_lt (hcomm t ht)
  rwa [Nat.mul_comm] at hlt

end Numbers

/-! ### Shuffled products -/

section Kernels

variable {α : Type} [One α] [Mul α] [DecidableEq α]

/-- Elements that commute may be factors of each other, if a one among them changes nothing. -/
theorem scale_comm {x y : α} (h : x * y = y * x) (hx : x * 1 = x) (hy : y * 1 = y) :
    scale x y = scale y x := by
  -- the factor on the left is the one that is compared with one
  by_cases hx1 : x = 1
  · subst hx1
    rw [scale_one]
    by_cases hy1 : y = 1
    · rw [hy1, scale_one]
    · rw [scale_of_ne_one hy1, hy]
  · rw [scale_of_ne_one hx1]
    by_cases hy1 : y = 1
    · subst hy1
      rw [scale_one, hx]
    · rw [scale_of_ne_one hy1, h]

variable {a b : Operand α} {dst dst' d d' : Array α} {i j k l : Nat}

/-- The products with an identity: what tells the blocks of the one apart tells the places in a
block of the other apart. -/
theorem timesIdentity_shuffled [Zero α] {c : Copier} {n : Nat}
    (hright : timesIdentity a n dst = .ok () dst') (hleft : identityTimes c a n d = .ok () d')
    (hi : i < a.rows) (hj : j < a.cols) (hk : k < n) (hl : l < n) :
    ∃ v, dst'[(j * n + l) * (a.rows * n) + (i * n + k)]? = some v ∧
      d'[(l * a.cols + j) * (n * a.rows) + (k * a.rows + i)]? = some v := by
  obtain ⟨x, hx⟩ :=
    a.exists_holds_entries (0 : α) (identityFits_of_timesIdentity_eq_ok hright).packed_le
  refine ⟨if k = l then x i j else 0, ?_, ?_⟩
  · exact (timesIdentity_writtenBlocks hx hright).entry i hi j hj k hk l hl
  · exact (identityTimes_writtenBlocks hx hleft).entry k hk l hl i hi j hj

/-- The products of two operands, at entries that commute. -/
theorem product_shuffled {c c' : Copier} (hab : product c a b dst = .ok () dst')
    (hba : product c' b a d = .ok () d') (hi : i < a.rows) (hj : j < a.cols) (hk : k < b.rows)
    (hl : l < b.cols) :
    ∃ x y, a.entries[j * a.rows + i]? = some x ∧ b.entries[l * b.rows + k]? = some y ∧
      (x * y = y * x → x * 1 = x → y * 1 = y → ∃ v,
        dst'[(j * b.cols + l) * (a.rows * b.rows) + (i * b.rows + k)]? = some v ∧
        d'[(l * a.cols + j) * (b.rows * a.rows) + (k * a.rows + i)]? = some v) := by
  obtain ⟨x, y, hxy, -⟩ := exists_stores_of_product_eq_ok hab
  -- there is an entry in either factor, so that both of them hold all of theirs
  have hx : Holds a.entries a.rows a.cols a.rows x := fun r hr s hs => (hxy r hr s hs k hk l hl).1
  have hy : Holds b.entries b.rows b.cols b.rows y := fun r hr s hs => (hxy i hi j hj r hr s hs).2
  refine ⟨x i j, y k l, hx i hi j hj, hy k hk l hl, ?_⟩
  intro hcomm hx1 hy1
  -- the two products scale the same two entries, the one by the other
  refine ⟨scale (x i j) (y k l), ?_, ?_⟩
  · exact (product_writtenBlocks hx hy hab).entry i hi j hj k hk l hl
  · rw [scale_comm hcomm hx1 hy1]
    exact (product_writtenBlocks hy hx hba).entry k hk l hl i hi j hj

variable [Zero α]

/-- **The perfect shuffle.** Exchanging the factors of a product shuffles its rows and its columns.

Let `a ⊗ I` and `I ⊗ a` be written, for the identity of order `n`. The element of the one in row
`i * n + k` and column `j * n + l` is the element of the other in row `k * m + i` and column
`l * q + j`, where `a` has `m` rows and `q` columns. Let `a ⊗ b` and `b ⊗ a` be written. Their
elements are the same in this order wherever the two entries commute and a one on their right leaves
them as they are. Row by row and column by column the order is a shuffle, and this is a
bijection. -/
theorem perfect_shuffle :
    (∀ (c : Copier) (n : Nat) (dst dst' d d' : Array α), timesIdentity a n dst = .ok () dst' →
      identityTimes c a n d = .ok () d' →
      ∀ i < a.rows, ∀ j < a.cols, ∀ k < n, ∀ l < n, ∃ v,
        dst'[(j * n + l) * (a.rows * n) + (i * n + k)]? = some v ∧
        d'[(l * a.cols + j) * (n * a.rows) + (k * a.rows + i)]? = some v) ∧
    (∀ (c c' : Copier) (dst dst' d d' : Array α), product c a b dst = .ok () dst' →
      product c' b a d = .ok () d' →
      ∀ i < a.rows, ∀ j < a.cols, ∀ k < b.rows, ∀ l < b.cols, ∃ x y,
        a.entries[j * a.rows + i]? = some x ∧ b.entries[l * b.rows + k]? = some y ∧
        (x * y = y * x → x * 1 = x → y * 1 = y → ∃ v,
          dst'[(j * b.cols + l) * (a.rows * b.rows) + (i * b.rows + k)]? = some v ∧
          d'[(l * a.cols + j) * (b.rows * a.rows) + (k * a.rows + i)]? = some v)) ∧
    ∀ m n : Nat, (∀ i < m, ∀ k < n, shuffle m n (i * n + k) = k * m + i) ∧
      Set.BijOn (shuffle m n) (Set.Iio (m * n)) (Set.Iio (m * n)) := by
  refine ⟨?_, ?_, ?_⟩
  · intro c n dst dst' d d' hright hleft i hi j hj k hk l hl
    exact timesIdentity_shuffled hright hleft hi hj hk hl
  · intro c c' dst dst' d d' hab hba i hi j hj k hk l hl
    exact product_shuffled hab hba hi hj hk hl
  · intro m n
    exact ⟨fun i _ k hk => shuffle_mul_add m i hk, bijOn_shuffle m n⟩

/-- A row with a one in it and a column, into buffers of different lengths. -/
theorem perfect_shuffle_row_column :
    timesIdentity (⟨#[1, 3], 1, 2⟩ : Operand Nat) 2 (Array.replicate 9 8) =
        .ok () #[1, 0, 0, 1, 3, 0, 0, 3, 8] ∧
      identityTimes (.parallel 0) (⟨#[1, 3], 1, 2⟩ : Operand Nat) 2 (Array.replicate 8 7) =
        .ok () #[1, 0, 3, 0, 0, 1, 0, 3] ∧
      (∃ v, #[1, 0, 0, 1, 3, 0, 0, 3, 8][(1 * 2 + 0) * (1 * 2) + (0 * 2 + 0)]? = some v ∧
        #[1, 0, 3, 0, 0, 1, 0, 3][(0 * 2 + 1) * (2 * 1) + (0 * 1 + 0)]? = some v) ∧
      product .portable (⟨#[1, 3], 1, 2⟩ : Operand Nat) ⟨#[5, 7], 2, 1⟩ (Array.replicate 4 8) =
        .ok () #[5, 7, 15, 21] ∧
      product (.parallel 0) (⟨#[5, 7], 2, 1⟩ : Operand Nat) ⟨#[1, 3], 1, 2⟩
        (Array.replicate 5 8) = .ok () #[5, 7, 15, 21, 8] ∧
      (∃ v, #[5, 7, 15, 21][(1 * 1 + 0) * (1 * 2) + (0 * 2 + 1)]? = some v ∧
        #[5, 7, 15, 21, 8][(0 * 2 + 1) * (2 * 1) + (1 * 1 + 0)]? = some v) ∧
      shuffle 2 3 (1 * 3 + 2) = 2 * 2 + 1 := by
  have hright : timesIdentity (⟨#[1, 3], 1, 2⟩ : Operand Nat) 2 (Array.replicate 9 8) =
      .ok () #[1, 0, 0, 1, 3, 0, 0, 3, 8] := by decide +kernel
  have hleft : identityTimes (.parallel 0) (⟨#[1, 3], 1, 2⟩ : Operand Nat) 2
      (Array.replicate 8 7) = .ok () #[1, 0, 3, 0, 0, 1, 0, 3] := by decide +kernel
  have hab : product .portable (⟨#[1, 3], 1, 2⟩ : Operand Nat) ⟨#[5, 7], 2, 1⟩
      (Array.replicate 4 8) = .ok () #[5, 7, 15, 21] := by decide +kernel
  have hba : product (.parallel 0) (⟨#[5, 7], 2, 1⟩ : Operand Nat) ⟨#[1, 3], 1, 2⟩
      (Array.replicate 5 8) = .ok () #[5, 7, 15, 21, 8] := by decide +kernel
  obtain ⟨hidentities, hproducts, hshuffle⟩ :=
    perfect_shuffle (a := (⟨#[1, 3], 1, 2⟩ : Operand Nat)) (b := ⟨#[5, 7], 2, 1⟩)
  -- the product of the second entry of `a` and the second one of `b`
  obtain ⟨x, y, -, -, hentry⟩ := hproducts _ _ _ _ _ _ hab hba 0 (by decide) 1 (by decide) 1
    (by decide) 0 (by decide)
  exact ⟨hright, hleft, hidentities _ 2 _ _ _ _ hright hleft 0 (by decide) 1 (by decide) 0
    (by decide) 0 (by decide), hab, hba,
    hentry (Nat.mul_comm x y) (Nat.mul_one x) (Nat.mul_one y),
    (hshuffle 2 3).1 1 (by decide) 2 (by decide)⟩

end Kernels

end DenseKron
