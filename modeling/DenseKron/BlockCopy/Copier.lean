import DenseKron.BlockCopy.Chunked

/-!
# Copiers

A **copier** is a way to carry out a block copy: serially throughout, or in chunks for every
block that has reached a threshold, counted in entries. Copiers differ in the order of their
stores and in nothing that a caller can see.

One type stands for every copier that a kernel can be given. The copier that is chosen while a
program runs (`Settings.copier`) holds a serial or a chunked one and hands each request on to it
unchanged, so it is that one; and the copy of doubles for which no copier is named is the serial
one. What a statement says of every `Copier` it says of all of these.
-/

namespace DenseKron

/-- **Copier.** How block copies are carried out, by a copier of its own kind or by one that was
chosen at run time. -/
inductive Copier where
  /-- One column after the other. -/
  | portable
  /-- In chunks, for blocks of at least `threshold` entries. -/
  | parallel (threshold : Nat)
  deriving DecidableEq, Repr

namespace Copier

/-- The number of entries from which on a copy in chunks is worth its overhead. -/
def defaultThreshold : Nat := 0x10000

/-- The serial copier is the one used where none is named. -/
instance : Inhabited Copier := ⟨.portable⟩

variable {α : Type} [One α] [Mul α] [DecidableEq α]

/-- Carries out a plan on a window of the buffer. -/
def run (c : Copier) (p : CopyPlan) (alpha : α) (a : Array α) (w : Window) : Write α Unit :=
  match c with
  | .portable => p.serial alpha a w
  | .parallel threshold => do
    -- a threshold of zero sends every block into chunks
    if threshold ≤ (← Size.mul p.rows p.cols) then p.chunked alpha a w else p.serial alpha a w

/-- **Block copy.** Writes `alpha * op(a)` into the buffer from `start` on, as `request` says.
The strides of the request are relative to that place, and so are the lengths that its checks
report. -/
def copy (c : Copier) (request : CopyRequest) (alpha : α) (a : Array α) (start : Nat) :
    Write α Unit := do
  let w ← Write.window start
  match ← request.plan a.size w.length with
  | none => return ()
  | some p => c.run p alpha a w

end Copier

end DenseKron
