import DenseKron.Buffer
import DenseKron.Shape
import DenseKron.Size

/-!
# Operands and sweeps

An **operand** of a kernel is a flat buffer together with the shape that its caller says it has,
packed column-major. Nothing forces the buffer to be long enough; a kernel that reads an operand
cuts the declared part out first (`Operand.packed`), and whatever lies behind it is never looked
at.

A **sweep** visits the entries of an operand column by column and moves one cursor through the
destination. Each entry is acted upon at the cursor; the cursor then goes `step` down, and,
behind the last entry of a column, `jump` further on. For the products in this library the steps
lead from block to block down a block column, and the jump skips the rest of that block column.

The sweep does not know what it sweeps over: the state that `act` changes is arbitrary. Acting
on a buffer gives a kernel, and acting on a list of visits gives the closed form of the cursor.
-/

namespace DenseKron

/-- **Operand.** A buffer that is said to hold a packed column-major `rows × cols` matrix. -/
structure Operand (α : Type) where
  entries : Array α
  rows : Nat
  cols : Nat
  deriving DecidableEq, Repr

namespace Operand

variable {α : Type}

/-- The declared shape. -/
def shape (a : Operand α) : Shape := ⟨a.rows, a.cols⟩

@[simp] theorem shape_rows (a : Operand α) : a.shape.rows = a.rows := rfl
@[simp] theorem shape_cols (a : Operand α) : a.shape.cols = a.cols := rfl

/-- The entries that the shape declares, without what lies behind them. -/
def packed (a : Operand α) : Except Fault (Array α) := do
  cut a.entries 0 (← Size.mul a.rows a.cols)

/-- The columns of packed entries, each from top to bottom. -/
def columns (a : Operand α) (entries : Array α) : List (List α) :=
  (List.range a.cols).map fun j => (entries.extract (j * a.rows) ((j + 1) * a.rows)).toList

end Operand

namespace Sweep

variable {σ α : Type}

/-- One column: acts on each entry and moves the cursor one step down. The result is the cursor
below the last entry. -/
def column (step : Nat) (act : Nat → α → Guarded σ Unit) : Nat → List α → Guarded σ Nat
  | cursor, [] => return cursor
  | cursor, x :: rest => do
    act cursor x
    let next ← Size.add cursor step
    column step act next rest

/-- **Sweep.** All columns: the cursor jumps behind each of them. -/
def run (step : Nat) (jump : Except Fault Nat) (act : Nat → α → Guarded σ Unit) :
    Nat → List (List α) → Guarded σ Unit
  | _, [] => return ()
  | cursor, entries :: rest => do
    let bottom ← column step act cursor entries
    let next ← Size.add bottom (← jump)
    run step jump act next rest

/-- The visits of a sweep: which entry is met with the cursor at which place. -/
def visits (step : Nat) (jump : Except Fault Nat) (columns : List (List α)) :
    Guarded (List (Nat × α)) Unit :=
  run step jump (fun cursor x => modify (· ++ [(cursor, x)])) 0 columns

end Sweep

end DenseKron
