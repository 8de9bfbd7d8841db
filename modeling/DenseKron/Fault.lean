/-!
# Faults

A **fault** is a broken contract between a caller and a kernel: a size that does not fit a
machine word, a buffer shorter than the matrix it is said to hold, a leading dimension that
cannot step over a column. Faults stop the computation that meets them. They are told apart from
*refusals* (`DenseKron.Error`), which the checked entry points hand back to a caller who asked
for checking.

A fault is recorded as its cause, with the numbers that caused it; `Fault.message` is the one
place that holds the wording.
-/

namespace DenseKron

/-- **Causes of a fault.** One constructor per contract. -/
inductive Fault where
  /-- A product of sizes does not fit a machine word. -/
  | mulOverflow
  /-- A sum of sizes does not fit a machine word. -/
  | addOverflow
  /-- A difference of sizes would be negative. -/
  | subOverflow
  /-- A layout's leading dimension is smaller than its row count. -/
  | narrowLayout (ld rows : Nat)
  /-- The source's leading dimension is smaller than one of its columns. -/
  | narrowSource (lda height : Nat)
  /-- The destination's leading dimension is smaller than one of its columns. -/
  | narrowDestination (ldb height : Nat)
  /-- The source buffer ends before the last element of the block. -/
  | shortSource (length rows cols lda required : Nat)
  /-- The destination buffer ends before the last element of the block. -/
  | shortDestination (length rows cols ldb required : Nat)
  /-- The right factor's buffer is shorter than its shape. -/
  | shortRightFactor
  /-- The destination is shorter than the product of two matrices. -/
  | shortProduct
  /-- The destination is shorter than the product with an identity. -/
  | shortIdentityProduct
  /-- The factored matrix is shorter than its order requires. -/
  | shortFactors (length order required : Nat)
  /-- There are fewer row interchanges than rows. -/
  | shortPivots (length order : Nat)
  /-- A range ends behind the buffer it is cut from. -/
  | rangeEnd (stop length : Nat)
  /-- A range starts behind the buffer it is cut from. -/
  | rangeStart (start length : Nat)
  /-- A single access lies behind the buffer. -/
  | outOfBounds (index length : Nat)
  /-- A new buffer would exceed the largest allocation. -/
  | capacity
  deriving DecidableEq, Repr

namespace Fault

/-- The text of a fault. Contracts that a kernel states in terms of its own parameters are
reported as the failed condition, the others in words. -/
def message : Fault → String
  | mulOverflow => "attempt to multiply with overflow"
  | addOverflow => "attempt to add with overflow"
  | subOverflow => "attempt to subtract with overflow"
  | narrowLayout ld rows =>
    s!"leading dimension {ld} is smaller than row count {rows}"
  | narrowSource lda height =>
    s!"omatcopy: lda {lda} is smaller than the {height} elements of a source column"
  | narrowDestination ldb height =>
    s!"omatcopy: ldb {ldb} is smaller than the {height} elements of a destination column"
  | shortSource length rows cols lda required =>
    s!"omatcopy: a slice length {length} is insufficient for a {rows}x{cols} block " ++
      s!"with lda={lda}. Required: {required}"
  | shortDestination length rows cols ldb required =>
    s!"omatcopy: b slice length {length} is insufficient for a {rows}x{cols} block " ++
      s!"with ldb={ldb}. Required: {required}"
  | shortRightFactor => "assertion failed: b.len() >= b_rows * b_cols"
  | shortProduct => "assertion failed: dst.len() >= a_rows * b_rows * a_cols * b_cols"
  | shortIdentityProduct => "assertion failed: dst.len() >= len"
  | shortFactors length order required =>
    s!"det_from_lu: lu slice length {length} is insufficient for n={order}. Required: {required}"
  | shortPivots length order =>
    s!"det_from_lu: ipiv slice length {length} is insufficient for n={order}"
  | rangeEnd stop length =>
    s!"range end index {stop} out of range for slice of length {length}"
  | rangeStart start length =>
    s!"range start index {start} out of range for slice of length {length}"
  | outOfBounds index length =>
    s!"index out of bounds: the len is {length} but the index is {index}"
  | capacity => "capacity overflow"

end Fault

/-- A contract that has to hold before the computation goes on: `fault` stops it otherwise. -/
def require (condition : Prop) [Decidable condition] (fault : Fault) : Except Fault Unit :=
  if condition then .ok () else .error fault

@[simp] theorem require_eq_ok_iff {condition : Prop} [Decidable condition] {fault : Fault} :
    require condition fault = .ok () ↔ condition := by
  simp only [require]
  split <;> simp_all

theorem require_of_not {condition : Prop} [Decidable condition] {fault : Fault}
    (h : ¬ condition) : require condition fault = .error fault := by
  simp [require, h]

end DenseKron
