import DenseKron.Shape
import DenseKron.Text.Shown

/-!
# Errors

An **error** is a refusal: a checked entry point, the settings or the ledger decline what was
asked, change nothing, and say why. (A `Fault`, by contrast, stops a kernel that was called
outside of its contract.) The type records the cause; the wording is in `Error.message`.

`Failure` joins the two, for computations that can end in either way.
-/

namespace DenseKron

/-- Why a buffer cannot be given a shape. -/
inductive ShapeProblem where
  /-- The nonzero sides of the shape multiply to more than an allocation can count. -/
  | overflow
  /-- The buffer does not have as many elements as the shape has entries. -/
  | mismatch
  deriving DecidableEq, Repr

/-- What is wrong with an input. -/
inductive Problem where
  /-- The rows, the columns or the entries of a shape cannot be counted. -/
  | uncountable
  /-- The entries of a product cannot be arranged in its shape. -/
  | unshapeable (shape : Shape) (reason : ShapeProblem)
  /-- No backend has this name. -/
  | unknownBackend (name : String)
  /-- The setting `key` is not a positive number. -/
  | badThreshold (key text : String)
  /-- Anything else, in the words of whoever found it. -/
  | other (text : String)
  deriving DecidableEq, Repr

/-- **Errors.** -/
inductive Error where
  /-- An operand's buffer is shorter than the shape that it is declared to hold. -/
  | buffer (operand : String) (required actual : Nat)
  /-- More bytes were released under an id than it has outstanding. -/
  | release (id : Int) (requested outstanding : Nat)
  /-- An input is not valid. -/
  | invalid (problem : Problem)
  deriving DecidableEq, Repr

namespace ShapeProblem

/-- The text of a shape problem. -/
def message : ShapeProblem → String
  | overflow => "ShapeError/Overflow: arithmetic overflow"
  | mismatch => "ShapeError/IncompatibleShape: incompatible shapes"

end ShapeProblem

namespace Problem

/-- The text of a problem. -/
def message : Problem → String
  | uncountable => "product shape overflows usize"
  | unshapeable shape reason =>
    s!"cannot shape product as ({shape.rows}, {shape.cols}): {reason.message}"
  | unknownBackend name =>
    s!"unknown copy backend `{name}` (expected `portable` or `parallel`)"
  | badThreshold key text => s!"{key} must be a positive integer, got `{text}`"
  | other text => text

end Problem

namespace Error

/-- The text of an error. -/
def message : Error → String
  | buffer operand required actual =>
    s!"Buffer too small: `{operand}` needs {required} elements, got {actual}"
  | release id requested outstanding =>
    s!"Release error: id {id} releases {requested} bytes but only {outstanding} are outstanding"
  | invalid problem => s!"Validation error: {problem.message}"

/-- The name of the kind of an error. -/
def kind : Error → String
  | buffer .. => "BufferError"
  | release .. => "ReleaseError"
  | invalid _ => "ValidationError"

/-- An error as a record of its parts. -/
def text (e : Error) : String :=
  Text.record e.kind <|
    match e with
    | buffer operand required actual =>
      [("operand", Text.quoted operand), ("required", toString required),
        ("actual", toString actual)]
    | release id requested outstanding =>
      [("id", toString id), ("requested", toString requested),
        ("outstanding", toString outstanding)]
    | invalid problem => [("message", Text.quoted problem.message)]

end Error

/-- **Failures.** How a computation can end without a result. -/
inductive Failure where
  /-- A contract was broken. -/
  | fault (fault : Fault)
  /-- The request was declined. -/
  | refused (error : Error)
  deriving DecidableEq, Repr

end DenseKron
