import DenseKron.Size

/-!
# Shapes

The shape of a matrix is its row count and its column count. The Kronecker product of an `r × c`
and a `p × q` matrix is `(r * p) × (c * q)`; the identity of order `n` is an `n × n` matrix, on
either side.

Each product shape comes in two forms. `Shape.kron` is faulty as soon as one of the two counts
does not fit a machine word and asks nothing about the number of entries; `Shape.kron?` gives no
shape when the row count, the column count or the number of entries does not fit.
-/

namespace DenseKron

/-- **Shape.** Rows and columns of a matrix. -/
structure Shape where
  rows : Nat
  cols : Nat
  deriving DecidableEq, Repr

namespace Shape

/-- The shape of a square matrix. -/
def square (n : Nat) : Shape := ⟨n, n⟩

/-- The shape of the transposed matrix. -/
def swap (s : Shape) : Shape := ⟨s.cols, s.rows⟩

@[simp] theorem square_rows (n : Nat) : (square n).rows = n := rfl
@[simp] theorem square_cols (n : Nat) : (square n).cols = n := rfl
@[simp] theorem swap_rows (s : Shape) : s.swap.rows = s.cols := rfl
@[simp] theorem swap_cols (s : Shape) : s.swap.cols = s.rows := rfl
@[simp] theorem swap_swap (s : Shape) : s.swap.swap = s := rfl

/-- The shape of a Kronecker product, rows first. -/
def kron (a b : Shape) : Except Fault Shape := do
  let rows ← Size.mul a.rows b.rows
  let cols ← Size.mul a.cols b.cols
  return ⟨rows, cols⟩

/-- The shape of the product with an identity of order `n`, on either side. -/
def kronIdentity (a : Shape) (n : Nat) : Except Fault Shape := a.kron (square n)

/-- The shape of a Kronecker product whose entries can be counted. -/
def kron? (a b : Shape) : Option Shape := do
  let rows ← Size.mul? a.rows b.rows
  let cols ← Size.mul? a.cols b.cols
  let _ ← Size.mul? rows cols
  return ⟨rows, cols⟩

/-- The shape of the product with an identity of order `n`, when its entries can be counted. -/
def kronIdentity? (a : Shape) (n : Nat) : Option Shape := a.kron? (square n)

/-- A shape is countable exactly when rows, columns and entries each fit a machine word. -/
theorem kron?_eq_some_iff {a b s : Shape} :
    a.kron? b = some s ↔
      a.rows * b.rows < Size.limit ∧ a.cols * b.cols < Size.limit ∧
        a.rows * b.rows * (a.cols * b.cols) < Size.limit ∧
        s = ⟨a.rows * b.rows, a.cols * b.cols⟩ := by
  simp only [kron?, Size.mul?]
  by_cases hr : a.rows * b.rows < Size.limit <;>
    by_cases hc : a.cols * b.cols < Size.limit <;>
    by_cases he : a.rows * b.rows * (a.cols * b.cols) < Size.limit <;>
    simp [hr, hc, he, eq_comm]

end Shape

end DenseKron
