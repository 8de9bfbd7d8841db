import DenseKron.BlockCopy.Serial

/-!
# The chunked block copy

The destination is cut into chunks of one leading dimension each, so that chunk `k` begins with
destination column `k`, and each chunk that meets the block gets a **task** of its own. Without
transposition the task of chunk `k` copies source column `k`; with transposition it *gathers*
source row `k`, where the serial copy would scatter. Chunks behind the block's last column get
no task.

The tasks are meant to run side by side. A task is a list of actions, so an execution of all
tasks is an interleaving of their lists; `CopyPlan.chunked` is the one that runs them to the end
one by one.
-/

namespace DenseKron.CopyPlan

variable {α : Type} [One α] [Mul α] [DecidableEq α]

/-- The number of destination columns that receive entries. -/
def destinationCols (p : CopyPlan) : Nat :=
  match p.transpose with
  | .noTrans => p.cols
  | .trans => p.rows

/-- The chunks of the destination that get a task, each with the number of its column. -/
def pieces (p : CopyPlan) (w : Window) : List (Window × Nat) :=
  ((w.chunks p.ldb).take p.destinationCols).zipIdx

/-- The one store of a transposing copy that moves column `j` of source row `k` into its chunk.
-/
def gather (p : CopyPlan) (alpha : α) (a : Array α) (chunk : Window) (k j : Nat) :
    Except Fault (Store α) := do
  let x ← read a (← offset k j p.lda)
  return ⟨chunk.start + j, alpha * x⟩

/-- **Task.** What is done to chunk `k` of the destination. -/
def task (p : CopyPlan) (alpha : α) (a : Array α) (chunk : Window) (k : Nat) : List (Action α) :=
  match p.transpose with
  | .noTrans => actions do
      -- the last chunk may be cut short by the end of the buffer, and still hold the column
      let source ← cut a (← offset 0 k p.lda) (← offset p.rows k p.lda)
      chunk.range p.rows
      return (source.mapIdx fun i x => ⟨chunk.start + i, scale alpha x⟩).toList
  | .trans =>
    match chunk.range p.cols with
    | .error f => [.error f]
    | .ok () => (List.range p.cols).map fun j => p.gather alpha a chunk k j

/-- The tasks of a copy, from the first destination column to the last. -/
def tasks (p : CopyPlan) (alpha : α) (a : Array α) (w : Window) : List (List (Action α)) :=
  (p.pieces w).map fun piece => p.task alpha a piece.1 piece.2

/-- **Chunked copy.** The tasks, one after the other. -/
def chunked (p : CopyPlan) (alpha : α) (a : Array α) (w : Window) : Write α Unit :=
  Guarded.each (fun piece => Write.perform (p.task alpha a piece.1 piece.2)) (p.pieces w)

end DenseKron.CopyPlan
