import DenseKron.Layout
import DenseKron.Shape

/-!
# Planning a block copy

A **block copy** computes `B := alpha * op(A)` between two strided blocks, where `op` is the
identity or the transpose and both blocks have the same storage order. A `CopyRequest` is what a
caller asks for. `CopyRequest.plan` checks it against the lengths of the two buffers and reduces
it to a `CopyPlan`, which is always column-major: a row-major `rows × cols` block with leading
dimension `ld` is the very same memory as a column-major `cols × rows` block with leading
dimension `ld`, so that only the two counts trade places.

The checks stand in a fixed order: source stride, destination stride, source length, destination
length. A request for an empty block asks for nothing, and nothing about it is checked.
-/

namespace DenseKron

/-- The shape of the column-major block that occupies the memory of a block of shape `s`. -/
def StorageOrder.columnShape : StorageOrder → Shape → Shape
  | .colMajor, s => s
  | .rowMajor, s => s.swap

/-- The shape in which a block of shape `s` arrives. -/
def Transpose.shape : Transpose → Shape → Shape
  | .noTrans, s => s
  | .trans, s => s.swap

/-- **Copy request.** A block of `rows × cols` entries, the strides of its source and its
destination, their common storage order, and whether the block is transposed on the way. -/
structure CopyRequest where
  order : StorageOrder := .colMajor
  transpose : Transpose := .noTrans
  rows : Nat
  cols : Nat
  /-- The leading dimension of the source. -/
  lda : Nat
  /-- The leading dimension of the destination. -/
  ldb : Nat
  deriving DecidableEq, Repr

/-- **Copy plan.** A checked request in column-major terms: `rows × cols` is the shape of the
source block. -/
structure CopyPlan where
  transpose : Transpose
  rows : Nat
  cols : Nat
  lda : Nat
  ldb : Nat
  deriving DecidableEq, Repr

namespace CopyRequest

/-- The shape of the source block, read column-major. -/
def sourceShape (r : CopyRequest) : Shape := r.order.columnShape ⟨r.rows, r.cols⟩

/-- The shape of the destination block, read column-major. -/
def destinationShape (r : CopyRequest) : Shape := r.transpose.shape r.sourceShape

/-- A request for a block without entries. -/
def IsEmpty (r : CopyRequest) : Prop := r.rows = 0 ∨ r.cols = 0

instance (r : CopyRequest) : Decidable r.IsEmpty := inferInstanceAs (Decidable (_ ∨ _))

/-- The checks on a request for a block with entries. -/
def checks (r : CopyRequest) (sourceLength destinationLength : Nat) : Except Fault Unit := do
  let source := r.sourceShape
  let destination := r.destinationShape
  -- both leading dimensions, and only then the lengths
  require (source.rows ≤ r.lda) (.narrowSource r.lda source.rows)
  require (destination.rows ≤ r.ldb) (.narrowDestination r.ldb destination.rows)
  let required ← (← Layout.withLeading source.rows source.cols r.lda).span
  require (required ≤ sourceLength)
    (.shortSource sourceLength source.rows source.cols r.lda required)
  let required ← (← Layout.withLeading destination.rows destination.cols r.ldb).span
  require (required ≤ destinationLength)
    (.shortDestination destinationLength destination.rows destination.cols r.ldb required)

/-- **Plan.** The plan of a request whose checks hold, or `none` where there is nothing to copy.
-/
def plan (r : CopyRequest) (sourceLength destinationLength : Nat) :
    Except Fault (Option CopyPlan) :=
  if r.IsEmpty then .ok none
  else do
    r.checks sourceLength destinationLength
    return some
      { transpose := r.transpose, rows := r.sourceShape.rows, cols := r.sourceShape.cols
        lda := r.lda, ldb := r.ldb }

theorem plan_of_isEmpty {r : CopyRequest} (h : r.IsEmpty) (m n : Nat) :
    r.plan m n = .ok none := by
  simp [plan, h]

end CopyRequest

end DenseKron
