import DenseKron.Buffer
import DenseKron.Size

/-!
# Determinants from a factorization

An LU factorization with row interchanges leaves a matrix of order `n` as packed column-major
factors (a unit lower triangle below the diagonal, an upper triangle on and above it) and a list
of pivots: step `i` exchanged rows `i` and `pivot i`, where pivots count from `1`. The
determinant is the product of the diagonal, with a change of sign for every step that did
exchange two rows.

The product is taken from the left, starting from `1`, in the order of the steps, and a change
of sign negates the factor: over floating-point numbers all of this shows in the result.

A pivot is a signed number of 32 bits and the number of a step a machine word. They can be compared
either way (`signedFactor_eq_of_word`).
-/

namespace DenseKron

variable {α : Type}

/-- The elements of a buffer that lie `step` apart, from the first on. -/
def strided (entries : Array α) (step : Nat) : List α :=
  (progression 0 step entries.size entries.size).filterMap (entries[·]?)

/-- The factor that step `i` contributes: its diagonal element, negated unless the pivot says
that the row stayed where it was. The pivot of a step is compared with the step's number as one
signed number with another; `signedFactor_eq_of_word` compares words. -/
def signedFactor [Neg α] (i : Nat) (diagonal : α) (pivot : Int) : α :=
  if pivot = (i : Int) + 1 then diagonal else -diagonal

/-- The word as which a pivot of 32 bits is compared. Its sign is extended to the bits that it has
not, so that a negative pivot becomes a word far above any place. -/
def pivotWord (p : BitVec 32) : BitVec 64 := p.signExtend 64

/-- No pivot but that of its own place becomes the word of a place that fits 32 bits. -/
theorem pivotWord_eq_iff {p : BitVec 32} {i : Nat} (hi : i < 0xFFFFFFFF) :
    pivotWord p = BitVec.ofNat 64 (i + 1) ↔ p.toInt = (i : Int) + 1 := by
  have hword : (pivotWord p).toInt = p.toInt := BitVec.toInt_signExtend_of_le (by decide)
  have hplace : (BitVec.ofNat 64 (i + 1)).toInt = (i : Int) + 1 := by
    rw [BitVec.toInt_eq_toNat_cond, BitVec.toNat_ofNat]
    omega
  rw [← BitVec.toInt_inj, hword, hplace]

/-- **Pivots as words.** It does not matter whether a pivot of 32 bits is compared as a number or as
a word, at any step of a matrix whose order fits 32 bits. -/
theorem signedFactor_eq_of_word [Neg α] {i : Nat} (hi : i < 0xFFFFFFFF) (x : α) (p : BitVec 32) :
    signedFactor i x p.toInt = if pivotWord p = BitVec.ofNat 64 (i + 1) then x else -x := by
  simp only [signedFactor, pivotWord_eq_iff hi]

/-- **Determinant.** The determinant of the matrix of order `n` with the factors `factors` and
the row interchanges `pivots`. What lies behind the first `n * n` factors and the first `n`
pivots has no part in it. -/
def determinant [One α] [Mul α] [Neg α] (factors : Array α) (pivots : Array Int) (n : Nat) :
    Except Fault α := do
  let required ← Size.mul n n
  require (required ≤ factors.size) (.shortFactors factors.size n required)
  require (n ≤ pivots.size) (.shortPivots pivots.size n)
  -- consecutive diagonal elements lie one column and one row apart
  let steps := ((strided factors (← Size.add n 1)).zip pivots.toList).take n
  return (steps.mapIdx fun i step => signedFactor i step.1 step.2).foldl (· * ·) 1

end DenseKron
