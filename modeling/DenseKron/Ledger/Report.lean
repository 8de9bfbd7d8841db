import DenseKron.Ledger.Basic
import DenseKron.Text.Shown

/-!
# Reports

What is left on a ledger: nothing, if its total is zero, and otherwise the balance of every
listed id with its share of the total in percent, rounded down. An id with a balance of zero is
listed too.
-/

namespace DenseKron

/-- One line of a report. -/
structure ReportEntry where
  id : Int
  bytes : Nat
  /-- The share of the total in percent, rounded down. -/
  percent : Nat
  deriving DecidableEq, Repr

/-- **Report.** The bytes that were never released, by ascending id. -/
structure Report where
  totalBytes : Nat
  entries : List ReportEntry
  deriving DecidableEq, Repr

namespace ReportEntry

/-- The line of one id. A hundredfold balance has to be a size, unless the balance is zero. -/
def ofBalance (total : Nat) (account : Int × Nat) : Except Fault ReportEntry :=
  if account.2 = 0 then .ok ⟨account.1, 0, 0⟩
  else do
    -- the product comes before the quotient, so that only the quotient is rounded
    let hundredfold ← Size.mul 100 account.2
    return ⟨account.1, account.2, hundredfold / total⟩

/-- The line in text form. -/
def text (e : ReportEntry) : String :=
  s!"id {Text.padLeft 3 (toString e.id)}   allocated {Text.padLeft 8 (toString e.bytes)} bytes  " ++
    s!"({e.percent}%)\n"

end ReportEntry

namespace Report

/-- The report in text form. -/
def text (r : Report) : String :=
  "MEMORY LEAKS\n" ++ s!"{r.totalBytes} bytes left unfreed\n" ++
    String.join (r.entries.map ReportEntry.text)

end Report

/-- **Reporting.** The report of a ledger, if anything is left on it. -/
def Ledger.report (l : Ledger) : Except Fault (Option Report) :=
  if l.total = 0 then .ok none
  else do
    let entries ← l.accounts.entries.mapM (ReportEntry.ofBalance l.total)
    return some ⟨l.total, entries⟩

end DenseKron
