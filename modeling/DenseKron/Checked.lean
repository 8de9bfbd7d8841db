import DenseKron.Kernel.Products
import DenseKron.Log
import DenseKron.Text.Shown

/-!
# Checked products

The kernels trust their caller. The entry points of this module do not: they compare every
buffer with the shape that it is declared to hold, refuse what does not fit before anything is
written, and only then call the kernel. Each refusal is preceded by one event that says the
same.

Operands are checked from left to right, the shape before the length, and then the product's
shape and the destination's length.
-/

namespace DenseKron

/-- What a checked product reports. -/
inductive CheckEvent where
  /-- A buffer is refused for being too short. -/
  | undersized (operand : String) (required actual : Nat)
  /-- A shape is refused because it cannot be counted. -/
  | uncountable
  deriving DecidableEq, Repr

/-- The event in text form. -/
def CheckEvent.entry : CheckEvent → LogEntry
  | undersized operand required actual =>
    { level := .debug
      message := "rejecting undersized buffer"
      fields :=
        [("operand", Text.quoted operand), ("required", toString required),
          ("actual", toString actual)] }
  | uncountable =>
    { level := .debug
      message := "rejecting shape whose element count overflows usize"
      fields := [] }

/-- **Checked writes.** A computation on a caller's buffer that reports its refusals. -/
abbrev Checked (α : Type) : Type → Type := Observing Failure CheckEvent (Array α)

namespace Checked

open Observing

variable {α β : Type}

/-- Refuses a buffer with fewer than `required` elements. -/
def requireLength (operand : String) (required actual : Nat) : Checked α Unit :=
  if actual < required then do
    emit (.undersized operand required actual)
    refuse (.buffer operand required actual)
  else return ()

/-- Goes on with a count or a shape that exists and refuses one that does not. -/
def countable : Option β → Checked α β
  | some x => return x
  | none => do
    emit .uncountable
    refuse (.invalid .uncountable)

/-- The length of the destination. -/
def destinationLength : Checked α Nat := guarded Write.length

/-- Refuses an operand whose shape cannot be counted or whose buffer is too short for it. -/
def requireOperand (name : String) (a : Operand α) : Checked α Unit := do
  requireLength name (← countable (Size.mul? a.rows a.cols)) a.entries.size

/-- Refuses a destination that is too short for a product of the given shape. -/
def requireDestination (shape : Option Shape) : Checked α Unit := do
  let s ← countable shape
  requireLength "dst" (s.rows * s.cols) (← destinationLength)

variable [Zero α] [One α] [Mul α] [DecidableEq α]

omit [Zero α] in
/-- **Checked Kronecker product.** -/
def product (copier : Copier) (a b : Operand α) : Checked α Unit := do
  -- operands from left to right, then the destination; only then does the kernel run
  requireOperand "a" a
  requireOperand "b" b
  requireDestination (a.shape.kron? b.shape)
  guarded (DenseKron.product copier a b)

omit [One α] [Mul α] [DecidableEq α] in
/-- **Checked product with an identity on the right.** -/
def timesIdentity (a : Operand α) (n : Nat) : Checked α Unit := do
  requireOperand "a" a
  requireDestination (a.shape.kronIdentity? n)
  guarded (DenseKron.timesIdentity a n)

/-- **Checked product with an identity on the left.** -/
def identityTimes (copier : Copier) (a : Operand α) (n : Nat) : Checked α Unit := do
  requireOperand "a" a
  requireDestination (a.shape.kronIdentity? n)
  guarded (DenseKron.identityTimes copier a n)

end Checked

end DenseKron
