import DenseKron.Determinant
import DenseKron.Proofs.BlockCopy
import Mathlib.LinearAlgebra.Matrix.Block

/-!
# The determinant of a factored matrix

`determinant` multiplies up a diagonal that it finds in a flat buffer. What this is the determinant
of is a matrix that stands nowhere: the one that was factored. It is the product of the two factors
with the interchanges of its rows undone, the last one first (`Factorization.original`).

There are two halves to it.

* The elements that lie `n + 1` apart are those on the diagonal, and there are at least `n` of
  them (`take_strided`). So a run multiplies `n` factors, whatever else there is in the buffers
  (`determinant_eq_ok`).
* A triangular matrix has the product of its diagonal for a determinant, and undoing an interchange
  changes the sign, unless the row had stayed where it was. Which permutation the interchanges
  amount to is never asked: they are undone one by one, and each brings its own sign
  (`Factorization.det_undo`).

The elements are those of a commutative ring here. Over floating-point numbers the first half is
all there is.
-/

namespace DenseKron

/-! ### What is multiplied -/

section Run

variable {α : Type} {n step : Nat}

/-- Elements that lie a step apart, as far as they are known. -/
theorem take_strided {entries : Array α} {x : Nat → α} (hstep : 0 < step)
    (hx : ∀ i < n, entries[i * step]? = some (x i)) :
    (strided entries step).take n = (List.range n).map x := by
  have hin : ∀ i < n, 0 + i * step < entries.size := by
    intro i hi
    by_contra hle
    have hnone := hx i hi
    rw [Array.getElem?_eq_none (by omega)] at hnone
    cases hnone
  -- `n` places can be visited, and more than these are asked for
  have hfirst := progression_eq hstep hin
  have hcount : min n ((entries.size - 0 + (step - 1)) / step) = n := by
    have hlength := congrArg List.length hfirst
    rwa [progression, List.length_range', List.length_map, List.length_range] at hlength
  have hsize : n ≤ entries.size := by
    by_contra hlt
    have hlast := hin entries.size (Nat.not_le.1 hlt)
    have hself : entries.size ≤ entries.size * step := Nat.le_mul_of_pos_right _ hstep
    omega
  obtain ⟨more, hmore⟩ :=
    Nat.exists_eq_add_of_le (Nat.le_min.2 ⟨hsize, min_eq_left_iff.1 hcount⟩)
  rw [progression, hcount] at hfirst
  -- each of the `n` places has an element
  have hknown : (List.range' 0 n step).filterMap (entries[·]?) = (List.range n).map x := by
    rw [hfirst, List.filterMap_map, ← List.filterMap_eq_map]
    refine List.filterMap_congr fun i hi => ?_
    show entries[0 + i * step]? = some (x i)
    rw [Nat.zero_add, hx i (List.mem_range.1 hi)]
  rw [strided, progression, hmore, ← List.range'_append, List.filterMap_append, hknown]
  exact List.take_left' (by rw [List.length_map, List.length_range])

/-- The steps of a run, each with its diagonal element and its pivot. -/
theorem take_zip_strided {factors : Array α} {pivots : Array Int} {x : Nat → α} {p : Nat → Int}
    (hx : ∀ i < n, factors[i * (n + 1)]? = some (x i)) (hp : ∀ i < n, pivots[i]? = some (p i)) :
    ((strided factors (n + 1)).zip pivots.toList).take n =
      (List.range n).map fun i => (x i, p i) := by
  -- the diagonal and the pivots are taken apart, each as far as step `n`
  have hpivots : pivots.toList.take n = (List.range n).map p := by
    refine List.ext_getElem? fun i => ?_
    rw [List.getElem?_take, List.getElem?_map, Array.getElem?_toList]
    by_cases hi : i < n
    · rw [if_pos hi, hp i hi, List.getElem?_range hi, Option.map_some]
    · rw [if_neg hi, List.getElem?_eq_none (by rw [List.length_range]; omega), Option.map_none]
  rw [List.zip, List.take_zipWith, take_strided (Nat.succ_pos n) hx, hpivots]
  exact List.zip_map'

/-- **A run of the determinant.** It multiplies the first `n` diagonal elements, each with the sign
that its pivot gives it. -/
theorem determinant_eq_ok [One α] [Mul α] [Neg α] {factors : Array α} {pivots : Array Int}
    {x : Nat → α} {p : Nat → Int} (hlt : n * n < Size.limit) (hfactors : n * n ≤ factors.size)
    (hpivots : n ≤ pivots.size) (hx : ∀ i < n, factors[i * (n + 1)]? = some (x i))
    (hp : ∀ i < n, pivots[i]? = some (p i)) :
    determinant factors pivots n =
      .ok (((List.range n).map fun i => signedFactor i (x i) (p i)).foldl (· * ·) 1) := by
  -- the checks hold, one after the other, and the fold is what is left
  have hrequired : Size.mul n n = .ok (n * n) := Size.mul_eq_ok_iff.2 ⟨hlt, rfl⟩
  rw [determinant, hrequired]
  show (require (n * n ≤ factors.size) _ >>= fun _ => _) = _
  rw [require_eq_ok_iff.2 hfactors]
  show (require (n ≤ pivots.size) _ >>= fun _ => _) = _
  rw [require_eq_ok_iff.2 hpivots, diagonal_step_eq_ok hlt]
  show Except.ok (List.foldl (· * ·) 1 (List.mapIdx _ (List.take n _))) = _
  rw [take_zip_strided hx hp, mapIdx_map_range]

end Run

/-! ### What was factored -/

/-- **Factorization.** The factors and the pivots of a matrix of order `n`, in buffers that have
room for them. A pivot names the row that a row was exchanged with, and counts from `1`. -/
structure Factorization (R : Type) (n : Nat) where
  factors : Array R
  pivots : Array Int
  factors_le : n * n ≤ factors.size
  pivots_le : n ≤ pivots.size
  pivot_mem : ∀ (i : Nat) (hi : i < pivots.size), i < n → 1 ≤ pivots[i] ∧ pivots[i] ≤ n

namespace Factorization

variable {R : Type} {n : Nat}

/-- The packed factors, read as one matrix. -/
def entry (F : Factorization R n) (i j : Fin n) : R :=
  have : j.val * n + i.val < F.factors.size :=
    Nat.lt_of_lt_of_le (mul_add_lt_mul j.isLt i.isLt) F.factors_le
  F.factors[j.val * n + i.val]

/-- The pivot of a step. -/
def pivot (F : Factorization R n) (i : Fin n) : Int :=
  have : i.val < F.pivots.size := Nat.lt_of_lt_of_le i.isLt F.pivots_le
  F.pivots[i.val]

theorem pivot_bounds (F : Factorization R n) (i : Fin n) : 1 ≤ F.pivot i ∧ F.pivot i ≤ n :=
  F.pivot_mem i _ i.isLt

/-- The row that step `i` exchanged row `i` with. -/
def partner (F : Factorization R n) (i : Fin n) : Fin n where
  val := (F.pivot i - 1).toNat
  isLt := by
    have := F.pivot_bounds i
    omega

theorem partner_eq_self_iff (F : Factorization R n) (i : Fin n) :
    F.partner i = i ↔ F.pivot i = (i.val : Int) + 1 := by
  have := F.pivot_bounds i
  rw [Fin.ext_iff]
  show (F.pivot i - 1).toNat = i.val ↔ _
  omega

section Matrices

variable [CommRing R]

/-- The lower factor, with ones on its diagonal. -/
def lower (F : Factorization R n) : Matrix (Fin n) (Fin n) R :=
  Matrix.of fun i j => if j < i then F.entry i j else if i = j then 1 else 0

/-- The upper factor. -/
def upper (F : Factorization R n) : Matrix (Fin n) (Fin n) R :=
  Matrix.of fun i j => if i ≤ j then F.entry i j else 0

/-- The interchanges of some steps, undone from the last to the first. -/
def undo (F : Factorization R n) (steps : List (Fin n)) (M : Matrix (Fin n) (Fin n) R) :
    Matrix (Fin n) (Fin n) R :=
  steps.foldr (fun i N => N.submatrix (Equiv.swap i (F.partner i)) id) M

/-- **The factored matrix.** The product of the factors, with all interchanges undone. -/
def original (F : Factorization R n) : Matrix (Fin n) (Fin n) R :=
  F.undo (List.finRange n) (F.lower * F.upper)

/-- The sign that step `i` brings. -/
def sign (F : Factorization R n) (i : Fin n) : R := if F.partner i = i then 1 else -1

/-! ### Its determinant -/

theorem det_lower (F : Factorization R n) : F.lower.det = 1 := by
  have htriangular : F.lower.IsLowerTriangular := by
    intro i j hij
    have hlt : i < j := hij
    show (if j < i then F.entry i j else if i = j then (1 : R) else 0) = 0
    rw [if_neg (not_lt.2 hlt.le), if_neg hlt.ne]
  rw [Matrix.det_of_isLowerTriangular _ htriangular]
  -- triangular, with ones on the diagonal
  refine Finset.prod_eq_one fun i _ => ?_
  show (if i < i then F.entry i i else if i = i then (1 : R) else 0) = 1
  rw [if_neg (lt_irrefl i), if_pos rfl]

theorem det_upper (F : Factorization R n) : F.upper.det = ∏ i, F.entry i i := by
  have htriangular : F.upper.IsUpperTriangular := by
    intro i j hij
    have hlt : j < i := hij
    show (if i ≤ j then F.entry i j else 0) = 0
    rw [if_neg (not_le.2 hlt)]
  rw [Matrix.det_of_isUpperTriangular htriangular]
  refine Finset.prod_congr rfl fun i _ => ?_
  show (if i ≤ i then F.entry i i else 0) = F.entry i i
  rw [if_pos (le_refl i)]

/-- An interchange of two rows changes the sign, and that of a row with itself does not. -/
theorem det_interchange (F : Factorization R n) (i : Fin n) (M : Matrix (Fin n) (Fin n) R) :
    (M.submatrix (Equiv.swap i (F.partner i)) id).det = F.sign i * M.det := by
  rw [Matrix.det_permute, Equiv.Perm.sign_swap', sign]
  by_cases hself : F.partner i = i
  · rw [if_pos hself, if_pos hself.symm]
    simp
  · rw [if_neg hself, if_neg (Ne.symm hself)]
    simp

/-- Each interchange brings a sign of its own, however they chain. -/
theorem det_undo (F : Factorization R n) (steps : List (Fin n)) (M : Matrix (Fin n) (Fin n) R) :
    (F.undo steps M).det = (steps.map F.sign).prod * M.det := by
  induction steps with
  | nil => rw [List.map_nil, List.prod_nil, one_mul]; rfl
  | cons i rest ih =>
    show ((F.undo rest M).submatrix (Equiv.swap i (F.partner i)) id).det = _
    rw [det_interchange, ih, List.map_cons, List.prod_cons, mul_assoc]

theorem det_original (F : Factorization R n) :
    F.original.det = ∏ i, F.sign i * F.entry i i := by
  calc F.original.det = ((List.finRange n).map F.sign).prod * (F.lower * F.upper).det :=
        F.det_undo _ _
    _ = (∏ i, F.sign i) * ∏ i, F.entry i i := by
        rw [← List.ofFn_eq_map, List.prod_ofFn, Matrix.det_mul, det_lower, det_upper, one_mul]
    _ = ∏ i, F.sign i * F.entry i i := Finset.prod_mul_distrib.symm

/-- The factor of step `i` is the diagonal element with the sign of the step. -/
theorem signedFactor_eq (F : Factorization R n) (i : Fin n) :
    signedFactor i.val (F.entry i i) (F.pivot i) = F.sign i * F.entry i i := by
  rw [signedFactor, sign]
  by_cases hself : F.pivot i = (i.val : Int) + 1
  · rw [if_pos hself, if_pos ((F.partner_eq_self_iff i).2 hself), one_mul]
  · rw [if_neg hself, if_neg fun h => hself ((F.partner_eq_self_iff i).1 h), neg_one_mul]

/-- A run over the buffers of a factorization multiplies the diagonal with its signs. -/
theorem determinant_eq_foldl (F : Factorization R n) (h : n * n < Size.limit) :
    determinant F.factors F.pivots n =
      .ok ((List.ofFn fun i => F.sign i * F.entry i i).foldl (· * ·) 1) := by
  -- the diagonal element of step `i` lies `i` columns and `i` rows away
  have hentry : ∀ (i : Nat) (hi : i < n),
      F.factors[i * (n + 1)]? = some (F.entry ⟨i, hi⟩ ⟨i, hi⟩) := by
    intro i hi
    rw [Nat.mul_succ]
    exact Array.getElem?_eq_getElem _
  have hpivot : ∀ (i : Nat) (hi : i < n), F.pivots[i]? = some (F.pivot ⟨i, hi⟩) := fun i hi =>
    Array.getElem?_eq_getElem _
  rw [determinant_eq_ok h F.factors_le F.pivots_le
    (x := fun i => if hi : i < n then F.entry ⟨i, hi⟩ ⟨i, hi⟩ else 1)
    (p := fun i => if hi : i < n then F.pivot ⟨i, hi⟩ else 1)
    (fun i hi => by rw [dif_pos hi, hentry i hi]) (fun i hi => by rw [dif_pos hi, hpivot i hi])]
  -- what is folded is the same list, step by step
  congr 2
  refine List.ext_getElem (by rw [List.length_map, List.length_range, List.length_ofFn]) ?_
  intro i hi _
  have hi' : i < n := by rwa [List.length_map, List.length_range] at hi
  rw [List.getElem_map, List.getElem_range, List.getElem_ofFn, dif_pos hi', dif_pos hi']
  exact F.signedFactor_eq ⟨i, hi'⟩

end Matrices

end Factorization

/-- **The determinant is that of the factored matrix**, over a commutative ring and for factors in a
buffer whose length is a machine size. Without rows it is one. -/
theorem determinant_eq_det_original {R : Type} [CommRing R] {n : Nat} (F : Factorization R n)
    (h : F.factors.size < Size.limit) :
    determinant F.factors F.pivots n = .ok F.original.det ∧
      (n = 0 → determinant F.factors F.pivots n = .ok 1) := by
  have hdet : determinant F.factors F.pivots n = .ok F.original.det := by
    rw [F.determinant_eq_foldl (Nat.lt_of_le_of_lt F.factors_le h), ← List.prod_eq_foldl,
      List.prod_ofFn, F.det_original]
  refine ⟨hdet, ?_⟩
  rintro rfl
  rw [hdet, Matrix.det_fin_zero]

/-- Three rows, of which the first two were exchanged with the last, and an element that has no part
in it. -/
theorem determinant_eq_det_original_three :
    ∃ F : Factorization Int 3, F.factors = #[2, 2, 3, 5, 3, 4, 1, 2, 4, 9] ∧
      F.pivots = #[3, 3, 3] ∧ F.factors.size < Size.limit ∧
      F.original = !![4, 13, 4; 6, 27, 15; 2, 5, 1] ∧
      determinant F.factors F.pivots 3 = .ok F.original.det ∧ F.original.det = 24 := by
  let F : Factorization Int 3 :=
    { factors := #[2, 2, 3, 5, 3, 4, 1, 2, 4, 9]
      pivots := #[3, 3, 3]
      factors_le := by decide
      pivots_le := by decide
      pivot_mem := by decide }
  have hsize : F.factors.size < Size.limit := by decide
  have hvalue : determinant F.factors F.pivots 3 = .ok 24 := by decide
  obtain ⟨hdet, -⟩ := determinant_eq_det_original F hsize
  refine ⟨F, rfl, rfl, hsize, by decide, hdet, ?_⟩
  rw [hvalue] at hdet
  exact (Except.ok.inj hdet).symm

end DenseKron
