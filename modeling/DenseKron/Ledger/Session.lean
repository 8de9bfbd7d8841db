import DenseKron.Ledger.Report

/-!
# Sessions

A session is a set of named ledgers and named receipts, and a sequence of commands on them. A
name that was never used stands for an empty ledger, and for no receipt. A receipt is used up by
the command that releases it, whether the release is accepted or refused, and it may be released
on another ledger than the one that issued it; copying a ledger copies its history and no
receipts.
-/

namespace DenseKron

/-- **Command.** One step of a session. -/
inductive Command where
  /-- Records bytes and keeps the receipt under a name. -/
  | record (ledger : String) (size : Nat) (id : Int) (receipt : String)
  /-- Releases the receipt of a name. -/
  | release (ledger receipt : String)
  /-- Puts an empty ledger in the place of another. -/
  | reset (ledger : String)
  /-- Puts a copy of one ledger in the place of another. -/
  | copy (source target : String)
  deriving DecidableEq, Repr

/-- How a command can end without having done what it says. -/
inductive CommandProblem where
  /-- There is no receipt of that name. -/
  | noReceipt
  /-- The ledger did not go along with it. -/
  | failed (failure : Failure)
  deriving DecidableEq, Repr

/-- **Session.** Named ledgers and named receipts. The first of two equal names counts. -/
structure Session where
  ledgers : List (String × Ledger) := []
  receipts : List (String × Receipt) := []

namespace Session

/-- The ledger of a name. -/
def ledger (s : Session) (name : String) : Ledger := (s.ledgers.lookup name).getD .empty

/-- The receipt of a name. -/
def receipt? (s : Session) (name : String) : Option Receipt := s.receipts.lookup name

/-- Puts a ledger under a name. -/
def setLedger (s : Session) (name : String) (l : Ledger) : Session :=
  { s with ledgers := (name, l) :: s.ledgers.filter (·.1 != name) }

/-- Puts a receipt under a name. -/
def keep (s : Session) (name : String) (r : Receipt) : Session :=
  { s with receipts := (name, r) :: s.receipts.filter (·.1 != name) }

/-- Forgets the receipt of a name. -/
def forget (s : Session) (name : String) : Session :=
  { s with receipts := s.receipts.filter (·.1 != name) }

/-- Does bookkeeping on a named ledger and keeps the ledger that it leaves behind. -/
def onLedger {β : Type} (name : String) (act : Bookkeeping β) :
    Observing CommandProblem LedgerEvent Session β := fun s =>
  match act ⟨s.state.ledger name, s.events⟩ with
  | .ok x after => .ok x ⟨s.state.setLedger name after.state, after.events⟩
  | .error failure after =>
    .error (.failed failure) ⟨s.state.setLedger name after.state, after.events⟩

/-- **One step of a session.** A recording gives its receipt. -/
def step : Command → Observing CommandProblem LedgerEvent Session (Option Receipt)
  | .record ledger size id name => do
    let receipt ← onLedger ledger (Ledger.record size id)
    Observing.setState ((← Observing.state).keep name receipt)
    return some receipt
  | .release ledger name => do
    match (← Observing.state).receipt? name with
    | none => throw .noReceipt
    | some receipt =>
      -- a receipt is used up by the attempt, also if the ledger refuses it
      Observing.setState ((← Observing.state).forget name)
      onLedger ledger (Ledger.release receipt)
      return none
  | .reset name => do
    Observing.setState ((← Observing.state).setLedger name .empty)
    return none
  | .copy source target => do
    let session ← Observing.state
    Observing.setState (session.setLedger target (session.ledger source))
    return none

end Session

end DenseKron
