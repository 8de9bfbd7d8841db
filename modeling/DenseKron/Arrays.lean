import DenseKron.Kernel.Products
import DenseKron.Log
import DenseKron.Text.Shown
import DenseKron.View

/-!
# Products of views

The kernels once more, for callers who have matrices in any memory order and want a matrix back.
The operands are gathered, a destination is allocated, the kernel writes into it, and the
destination becomes the result: a column-major `Matrix`, whose entries are exactly what the
kernel wrote.

Three limits are met on the way, in this order: the product's shape has to be countable; its
entries have to fit into one allocation; and the nonzero sides of its shape must not multiply to
more than an allocation can count, which can only go wrong for a product without entries. The
kernel runs before the last of them is looked at. That limit is what is assumed of arrays here, with
the reading of a buffer column by column: entries are arranged in a shape (`Matrix.ofEntries`)
unless its nonzero sides multiply to more than an allocation can count (`Matrix.nonzeroExtent`), or
there are more or fewer of them than the shape has places.

The copies of the operands meet no limit. A view of a repeated row or column can have more entries
than an allocation, and then a program could not make the copy; here the call goes on. Where that
matters it is asked of the views that they can be packed.

Every call reports that it was made, whatever becomes of it.
-/

namespace DenseKron

/-- **Matrix.** Entries in column-major order, as many as the shape says. -/
structure Matrix (α : Type) where
  shape : Shape
  entries : Array α
  size_eq : entries.size = shape.rows * shape.cols

/-- How many bytes an element occupies in a buffer. -/
class ByteWidth (α : Type) where
  bytes : Nat

instance : ByteWidth Float := ⟨8⟩
instance : ByteWidth Float32 := ⟨4⟩

/-- What a product of views reports: which product was asked for, and of what. -/
inductive ProductCall where
  | product (a b : Shape)
  | timesIdentity (a : Shape) (n : Nat)
  | identityTimes (a : Shape) (n : Nat)
  deriving DecidableEq, Repr

/-- The text of a shape. -/
def Shape.text (s : Shape) : String := Text.tuple [toString s.rows, toString s.cols]

/-- The arguments of a call in text form, by name. -/
def ProductCall.fields : ProductCall → List (String × String)
  | product a b => [("a", a.text), ("b", b.text)]
  | timesIdentity a n => [("a", a.text), ("n", toString n)]
  | identityTimes a n => [("a", a.text), ("n", toString n)]

namespace Matrix

variable {α : Type}

/-- The product of the sides that are not zero. An array of this shape is refused if it is too
large, also if a zero among the sides makes the array empty. -/
def nonzeroExtent (s : Shape) : Nat :=
  (if s.rows = 0 then 1 else s.rows) * (if s.cols = 0 then 1 else s.cols)

/-- Arranges entries in a shape, column by column. The shape itself is looked at first. -/
def ofEntries (s : Shape) (entries : Array α) : Except ShapeProblem (Matrix α) :=
  if Size.allocationLimit < nonzeroExtent s then .error .overflow
  else if h : entries.size = s.rows * s.cols then .ok ⟨s, entries, h⟩
  else .error .mismatch

/-- A destination with `count` zeros. -/
def zeros [Zero α] [ByteWidth α] (count : Nat) : Except Fault (Array α) := do
  require (count * ByteWidth.bytes α ≤ Size.allocationLimit) .capacity
  return Array.replicate count 0

/-- Runs a kernel on a new destination and arranges what it wrote in a shape. -/
def build [Zero α] [ByteWidth α] (s : Shape) (kernel : Write α Unit) :
    Except Failure (Matrix α) :=
  match zeros (s.rows * s.cols) with
  | .error f => .error (.fault f)
  | .ok dst =>
    match kernel dst with
    | .error f _ => .error (.fault f)
    | .ok () dst' =>
      -- the kernel keeps the length of the buffer, so only the shape itself can be at fault
      match ofEntries s dst' with
      | .ok m => .ok m
      | .error reason => .error (.refused (.invalid (.unshapeable s reason)))

end Matrix

namespace View

variable {α : Type} [Zero α] [One α] [Mul α] [DecidableEq α] [ByteWidth α]

omit [One α] [Mul α] [DecidableEq α] in
/-- Reports a call and builds its result. Operands are gathered only for a countable shape,
which is why the kernel comes as a function. -/
def build (call : ProductCall) (shape : Option Shape) (kernel : Unit → Write α Unit) :
    Observing Failure ProductCall Unit (Matrix α) := do
  Observing.emit call
  match shape with
  | none => Observing.refuse (.invalid .uncountable)
  | some s =>
    match Matrix.build s (kernel ()) with
    | .ok m => return m
    | .error failure => throw failure

/-- **Kronecker product of views.** -/
def product (copier : Copier) (a b : View α) : Observing Failure ProductCall Unit (Matrix α) :=
  build (.product a.shape b.shape) (a.shape.kron? b.shape) fun _ =>
    DenseKron.product copier a.operand b.operand

omit [One α] [Mul α] [DecidableEq α] in
/-- **Product of a view with an identity on the right.** -/
def timesIdentity (a : View α) (n : Nat) : Observing Failure ProductCall Unit (Matrix α) :=
  build (.timesIdentity a.shape n) (a.shape.kronIdentity? n) fun _ =>
    DenseKron.timesIdentity a.operand n

/-- **Product of a view with an identity on the left.** -/
def identityTimes (copier : Copier) (a : View α) (n : Nat) :
    Observing Failure ProductCall Unit (Matrix α) :=
  build (.identityTimes a.shape n) (a.shape.kronIdentity? n) fun _ =>
    DenseKron.identityTimes copier a.operand n

end View

end DenseKron
