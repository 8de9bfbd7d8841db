import DenseKron.Checked
import DenseKron.Decimal.Fixed
import DenseKron.Determinant
import DenseKron.Ledger.Report
import DenseKron.Settings.Load

/-!
# A worked example

A program that prints the three products of small matrices, a determinant, and what is left on a
ledger. It is a function from the environment to what a process shows: the two output streams
and the exit code. With settings that cannot be read it prints nothing but the error.

The second destination of the example is never released, so that the ledger has something to
report.
-/

namespace DenseKron.Demo

/-- **What a process shows.** -/
structure Outcome where
  exitCode : Nat
  out : String
  err : String
  deriving DecidableEq, Repr

/-- One row of a printed matrix. -/
def row (rows cols : Nat) (entries : Array Float) (i : Nat) : String :=
  let value (j : Nat) : String :=
    Decimal.fixed 1 ((entries[i + j * rows]?).elim .notANumber BinaryValue.ofFloat)
  "  [" ++ ", ".intercalate ((List.range cols).map value) ++ "]\n"

/-- A matrix, packed column-major, under its name: one line per row. -/
def printed (name : String) (s : Shape) (entries : Array Float) : String :=
  s!"{name} ({s.rows}x{s.cols}, column-major):\n" ++
    if s.rows = 0 ∨ s.cols = 0 then "  []\n"
    else String.join ((List.range s.rows).map (row s.rows s.cols entries))

/-- The bytes of a matrix of doubles. -/
def bytes (s : Shape) : Nat := s.rows * s.cols * 8

/-- A destination of a given shape. -/
def zeros (s : Shape) : Array Float := Array.replicate (s.rows * s.cols) 0

/-- Everything that the example prints. -/
def transcript (copier : Copier) : Except Failure String := do
  let ledger := Ledger.empty
  let a : Operand Float := ⟨#[1, 3, 2, 4], 2, 2⟩
  let order := 2
  let shape : Shape := ⟨a.rows * order, a.cols * order⟩
  let (receipt, ledger) ← (Ledger.record (bytes shape) 1).result ledger
  let ((), right) ← (Checked.timesIdentity a order).result (zeros shape)
  let ((), left) ← (Checked.identityTimes copier a order).result right
  let ((), ledger) ← (Ledger.release receipt).result ledger
  let row : Operand Float := ⟨#[1, 2], 1, 2⟩
  let column : Operand Float := ⟨#[5, 6], 2, 1⟩
  let shape' : Shape := ⟨row.rows * column.rows, row.cols * column.cols⟩
  let (_, ledger) ← (Ledger.record (bytes shape') 2).result ledger
  let ((), both) ← (Checked.product copier row column).result (zeros shape')
  let factors : Array Float := #[3, 0, 1, 2]
  let det ← (determinant factors #[2, 2] 2).mapError Failure.fault
  let report ← ledger.report.mapError Failure.fault
  return printed "A" a.shape a.entries ++
    printed "kron_eye(A, 2)" shape right ++
    printed "eye_kron(A, 2)" shape left ++
    printed "kron(A, B)" shape' both ++
    s!"det from LU: {Decimal.exact (BinaryValue.ofFloat det)}\n" ++
    report.elim "" Report.text

/-- What a process shows that was stopped by an error. -/
def refused (e : Error) : Outcome := ⟨1, "", s!"Error: {e.text}\n"⟩

/-- **The example.** -/
def run (lookup : String → Option String) : Outcome :=
  match Settings.read lookup with
  | .error e => refused e
  | .ok settings =>
    match transcript settings.copier with
    | .ok out => ⟨0, out, ""⟩
    | .error (.refused e) => refused e
    | .error (.fault f) => ⟨101, "", s!"{f.message}\n"⟩

end DenseKron.Demo
