import DenseKron.Fault

/-!
# Machine sizes

Row counts, column counts, strides and buffer lengths are natural numbers below `Size.limit`.
Their arithmetic is exact, and a result that does not fit a machine word is a fault where it
arises: a product is faulty at its *first* factor pair that does not fit, even when a later
factor is zero. That is why a chain of sizes is written as a chain of `Size.mul`, in the order
of evaluation, and not as one product of naturals with one test at the end.

`Size.mul?` is the same multiplication for a caller who wants to refuse, not to stop.
-/

namespace DenseKron.Size

/-- Sizes are below this bound, the 64th power of two: they are 64-bit words. -/
def limit : Nat := 0x10000000000000000

/-- The largest count of bytes, and of array elements, that an allocation may have. -/
def allocationLimit : Nat := 0x7FFFFFFFFFFFFFFF

/-- The sum of two sizes. -/
def add (x y : Nat) : Except Fault Nat :=
  if x + y < limit then .ok (x + y) else .error .addOverflow

/-- The product of two sizes. -/
def mul (x y : Nat) : Except Fault Nat :=
  if x * y < limit then .ok (x * y) else .error .mulOverflow

/-- The difference of two sizes. -/
def sub (x y : Nat) : Except Fault Nat :=
  if y ≤ x then .ok (x - y) else .error .subOverflow

/-- The product of two sizes, if it is one. -/
def mul? (x y : Nat) : Option Nat :=
  if x * y < limit then some (x * y) else none

theorem add_eq_ok_iff {x y z : Nat} : add x y = .ok z ↔ x + y < limit ∧ z = x + y := by
  by_cases h : x + y < limit <;> simp [add, h, eq_comm]

theorem mul_eq_ok_iff {x y z : Nat} : mul x y = .ok z ↔ x * y < limit ∧ z = x * y := by
  by_cases h : x * y < limit <;> simp [mul, h, eq_comm]

theorem mul_of_limit_le {x y : Nat} (h : limit ≤ x * y) : mul x y = .error .mulOverflow :=
  if_neg (Nat.not_lt.2 h)

theorem sub_eq_ok_iff {x y z : Nat} : sub x y = .ok z ↔ y ≤ x ∧ z = x - y := by
  by_cases h : y ≤ x <;> simp [sub, h, eq_comm]

end DenseKron.Size
