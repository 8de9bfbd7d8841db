import DenseKron.BlockCopy.Plan
import DenseKron.Buffer

/-!
# The serial block copy

One source column after the other, from top to bottom. Without transposition a source column
becomes a destination column: both are cut out of their buffers before the first element moves.
With transposition it becomes a destination *row*, whose elements lie a stride apart and are
read and written one by one.

**Scaling.** Without transposition a factor of `1` copies the elements as they are, and any
other factor multiplies them, on the left (`scale`). With transposition the factor multiplies
always. The elements need no law at all: over floating-point numbers `1 * x` and `x` may differ
in the bits of a NaN.
-/

namespace DenseKron

/-- **Scaled element.** The factor `1` leaves an element as it is. -/
def scale {α : Type} [One α] [Mul α] [DecidableEq α] (alpha x : α) : α :=
  if alpha = 1 then x else alpha * x

section

variable {α : Type} [One α] [Mul α] [DecidableEq α]

@[simp] theorem scale_one (x : α) : scale 1 x = x := by simp [scale]

theorem scale_of_ne_one {alpha : α} (h : alpha ≠ 1) (x : α) : scale alpha x = alpha * x := by
  simp [scale, h]

namespace CopyPlan

/-- The one store of a transposing copy that moves row `i` of source column `j`. -/
def scatter (p : CopyPlan) (alpha : α) (a : Array α) (w : Window) (i j : Nat) :
    Except Fault (Store α) := do
  let x ← read a (← offset i j p.lda)
  w.store (← offset j i p.ldb) (alpha * x)

/-- What becomes of source column `j`. -/
def column (p : CopyPlan) (alpha : α) (a : Array α) (w : Window) (j : Nat) : List (Action α) :=
  match p.transpose with
  | .noTrans => actions do
      -- the ends of both ranges are checked before the first element moves
      let source ← cut a (← offset 0 j p.lda) (← offset p.rows j p.lda)
      let top ← offset 0 j p.ldb
      w.range (← offset p.rows j p.ldb)
      return (source.mapIdx fun i x => ⟨w.start + top + i, scale alpha x⟩).toList
  | .trans => (List.range p.rows).map fun i => p.scatter alpha a w i j

/-- **Serial copy.** The columns of the source block, from left to right. -/
def serial (p : CopyPlan) (alpha : α) (a : Array α) (w : Window) : Write α Unit :=
  Guarded.each (fun j => Write.perform (p.column alpha a w j)) (List.range p.cols)

end CopyPlan

end

end DenseKron
