import DenseKron.Ledger.Accounts
import DenseKron.Log
import DenseKron.Size

/-!
# The ledger

A ledger keeps account of memory by caller-chosen ids. `record` adds bytes under an id and hands
out a `Receipt`; `release` takes a receipt and returns its bytes. A release of more than its id
has outstanding is refused and leaves the ledger as it was. Next to the balance of each id the
ledger keeps their total.

Every call that changes the ledger emits one event that says how, with the total it arrived at,
and every refusal emits one with the numbers that it was refused for: the events are a journal.
-/

namespace DenseKron

/-- **Receipt.** Witness of one recorded allocation. -/
structure Receipt where
  id : Int
  size : Nat
  deriving DecidableEq, Repr

/-- **Ledger.** The total, and the balance of each id. -/
structure Ledger where
  total : Nat
  accounts : Accounts
  deriving DecidableEq

/-- **Journal.** What happens to a ledger. -/
inductive LedgerEvent where
  /-- Bytes were recorded; `total` is the total behind it. -/
  | recorded (id : Int) (size total : Nat)
  /-- Bytes were released; `total` is the total behind it. -/
  | released (id : Int) (size total : Nat)
  /-- A release was refused. -/
  | overreleased (id : Int) (size outstanding : Nat)
  deriving DecidableEq, Repr

/-- The event in text form. -/
def LedgerEvent.entry : LedgerEvent → LogEntry
  | recorded id size total =>
    { level := .debug
      message := "allocation recorded"
      fields := [("id", toString id), ("size", toString size), ("total", toString total)] }
  | released id size total =>
    { level := .debug
      message := "allocation released"
      fields := [("id", toString id), ("size", toString size), ("total", toString total)] }
  | overreleased id size outstanding =>
    { level := .warn
      message := "trying to free more than was allocated"
      fields :=
        [("id", toString id), ("size", toString size), ("outstanding", toString outstanding)] }

/-- **Bookkeeping.** A computation on a ledger that keeps a journal. -/
abbrev Bookkeeping : Type → Type := Observing Failure LedgerEvent Ledger

namespace Ledger

open Observing

/-- The ledger on which nothing was recorded yet. -/
def empty : Ledger := ⟨0, .empty⟩

/-- The bytes recorded under an id and not yet released. -/
def outstanding (l : Ledger) (id : Int) : Nat := l.accounts.balance id

@[simp] theorem outstanding_empty (id : Int) : empty.outstanding id = 0 := rfl

/-- **Recording.** Adds `size` bytes to the total and then to the balance of `id`. -/
def record (size : Nat) (id : Int) : Bookkeeping Receipt := do
  let ledger ← state
  -- the total is an upper bound of every balance, so it is the sum that can fail to fit
  let total ← guarded (Guarded.check (Size.add ledger.total size))
  setState { ledger with total }
  let balance ← guarded (Guarded.check (Size.add (ledger.outstanding id) size))
  setState ⟨total, ledger.accounts.set id balance⟩
  emit (.recorded id size total)
  return ⟨id, size⟩

/-- **Releasing.** Takes the bytes of a receipt from the balance of its id and then from the
total. -/
def release (receipt : Receipt) : Bookkeeping Unit := do
  let ledger ← state
  let outstanding := ledger.outstanding receipt.id
  if outstanding < receipt.size then do
    emit (.overreleased receipt.id receipt.size outstanding)
    refuse (.release receipt.id receipt.size outstanding)
  else do
    let accounts := ledger.accounts.set receipt.id (outstanding - receipt.size)
    setState { ledger with accounts }
    let total ← guarded (Guarded.check (Size.sub ledger.total receipt.size))
    setState ⟨total, accounts⟩
    emit (.released receipt.id receipt.size total)

end Ledger

end DenseKron
