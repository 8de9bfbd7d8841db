import DenseKron.Proofs.SessionHistory

/-!
# Reports by the books

A report is read off the total and the balances of a ledger, and nothing in it checks that they
agree. That it adds up follows from how a ledger is reached:

* The total is the sum of the balances (`Ledger.Balanced`). So there is nothing to report if and
  only if nothing is outstanding under any id, the lines of a report add up to its total, and their
  shares are shares of one whole.
* An id is listed as soon as a call on it has been admitted, be it the release of no bytes by a
  receipt from elsewhere, and it stays listed when its balance is zero again
  (`Books.Kept.mem_ids_iff`). The list is therefore not the list of leaks, and it tells ledgers
  apart that have the same outstanding bytes.
* A share is rounded down. It loses less than one percent, and that of a zero balance loses nothing,
  so that the shares fall short of a hundred by less than the number of ids with bytes left.

Only a hundredfold balance that is no size any more can stop a report.
-/

namespace DenseKron

/-! ### Listed ids -/

theorem Balances.lookup_of_mem {entries : List (Int × Nat)} (hasc : Ascending entries)
    {e : Int × Nat} (he : e ∈ entries) : entries.lookup e.1 = some e.2 := by
  induction entries with
  | nil => cases he
  | cons first rest ih =>
    obtain ⟨hbelow, hrest⟩ := List.pairwise_cons.1 hasc
    rcases List.mem_cons.1 he with rfl | he
    · exact List.lookup_cons_self
    -- the first id is smaller, so that it is not the one that is looked up
    · rw [List.lookup_cons, beq_eq_false_iff_ne.2 (Int.ne_of_gt (hbelow e he))]
      exact ih hrest he

namespace Accounts

variable {a : Accounts} {id other : Int}

/-- The listed ids. -/
def ids (a : Accounts) : List Int := a.entries.map Prod.fst

theorem mem_ids_iff : id ∈ a.ids ↔ a.balance? id ≠ none := by
  rw [balance?, Ne, List.lookup_eq_none_iff]
  simp [ids]

/-- Setting a balance lists its id, and takes no other from the list. -/
theorem mem_ids_set (a : Accounts) (id other : Int) (bytes : Nat) :
    other ∈ (a.set id bytes).ids ↔ other = id ∨ other ∈ a.ids := by
  rw [mem_ids_iff, mem_ids_iff, balance?_set]
  by_cases h : other = id
  · simp [h]
  · simp [h]

theorem balance_of_mem {e : Int × Nat} (he : e ∈ a.entries) : a.balance e.1 = e.2 := by
  rw [balance, balance?, Balances.lookup_of_mem a.ascending he, Option.getD_some]

/-- What is true of zero is true of all balances if it is true of those that are listed. -/
theorem forall_balance_iff {p : Nat → Prop} (hzero : p 0) :
    (∀ id, p (a.balance id)) ↔ ∀ e ∈ a.entries, p e.2 := by
  constructor
  · intro h e he
    rw [← balance_of_mem he]
    exact h e.1
  · intro h id
    cases hlookup : a.entries.lookup id with
    -- an id that is not listed has balance zero
    | none => rwa [balance, balance?, hlookup]
    | some bytes =>
      obtain ⟨front, back, hentries, -⟩ := List.lookup_eq_some_iff.1 hlookup
      rw [balance, balance?, hlookup]
      refine h (id, bytes) ?_
      rw [hentries]
      exact List.mem_append_right front List.mem_cons_self

theorem sum_eq_zero_iff : a.sum = 0 ↔ ∀ id, a.balance id = 0 := by
  refine ⟨fun h id => ?_, fun h => List.sum_eq_zero fun n hn => ?_⟩
  · have hle := a.balance_le_sum id
    omega
  · obtain ⟨e, he, rfl⟩ := List.mem_map.1 hn
    rw [← balance_of_mem he]
    exact h e.1

end Accounts

/-- The id that a call is about. -/
def Dealing.id : Dealing → Int
  | record _ id => id
  | release receipt => receipt.id

theorem Dealing.mem_ids_effect (l : Ledger) (d : Dealing) (id : Int) :
    id ∈ (d.effect l).accounts.ids ↔ id = d.id ∨ id ∈ l.accounts.ids := by
  cases d with
  | record size other => exact l.accounts.mem_ids_set other id _
  | release receipt => exact l.accounts.mem_ids_set receipt.id id _

namespace Books

variable {b : Books} {l : Ledger} {id : Int}

/-- An id is mentioned if a receipt with it was issued or taken back. -/
def Mentions (b : Books) (id : Int) : Prop := ∃ r ∈ b.issued ++ b.returned, r.id = id

theorem mentions_enter_iff (b : Books) (d : Dealing) (id : Int) :
    (b.enter d).Mentions id ↔ id = d.id ∨ b.Mentions id := by
  -- a call that is entered puts one receipt, with its own id, on one of the two lists
  cases d with
  | record size other =>
    simp only [Mentions, enter, Dealing.id, List.mem_append, List.mem_singleton]
    grind
  | release receipt =>
    simp only [Mentions, enter, Dealing.id, List.mem_append, List.mem_singleton]
    grind

/-- **Listed ids.** A ledger lists the ids that its books mention. -/
theorem Kept.mem_ids_iff (h : Kept l b) (id : Int) : id ∈ l.accounts.ids ↔ b.Mentions id := by
  induction h with
  | new => simp [Accounts.ids, Ledger.empty, Accounts.empty, Mentions]
  | @enter l b _ d _ ih => rw [Dealing.mem_ids_effect, mentions_enter_iff, ih]

end Books

/-! ### Lines -/

namespace ReportEntry

variable {total : Nat} {account : Int × Nat} {accounts : List (Int × Nat)}

/-- The line of an id, if a hundred times its balance is a size. -/
def line (total : Nat) (account : Int × Nat) : ReportEntry :=
  ⟨account.1, account.2, 100 * account.2 / total⟩

theorem ofBalance_of_lt (h : 100 * account.2 < Size.limit) :
    ofBalance total account = .ok (line total account) := by
  obtain ⟨id, bytes⟩ := account
  by_cases hzero : bytes = 0
  -- what is not multiplied has the same share as if it were
  · subst hzero
    rw [ofBalance, if_pos rfl, line, Nat.mul_zero, Nat.zero_div]
  · rw [ofBalance, if_neg hzero, Size.mul_eq_ok_iff.2 ⟨h, rfl⟩]
    rfl

theorem ofBalance_of_limit_le (h : Size.limit ≤ 100 * account.2) :
    ofBalance total account = .error .mulOverflow := by
  have hne : account.2 ≠ 0 := by
    intro hzero
    rw [hzero] at h
    exact absurd h (by decide)
  rw [ofBalance, if_neg hne, Size.mul_of_limit_le h]
  rfl

theorem mapM_ofBalance_of_lt (h : ∀ e ∈ accounts, 100 * e.2 < Size.limit) :
    accounts.mapM (ofBalance total) = .ok (accounts.map (line total)) := by
  induction accounts with
  | nil => rfl
  | cons e rest ih =>
    obtain ⟨he, hrest⟩ := List.forall_mem_cons.1 h
    rw [List.mapM_cons, ofBalance_of_lt he, ih hrest]
    rfl

theorem mapM_ofBalance_of_limit_le (h : ∃ e ∈ accounts, Size.limit ≤ 100 * e.2) :
    accounts.mapM (ofBalance total) = .error .mulOverflow := by
  -- on the accounts: the lines in front of the first overflow are computed
  induction accounts with
  | nil => simp at h
  | cons e rest ih =>
    rw [List.mapM_cons]
    by_cases he : Size.limit ≤ 100 * e.2
    · rw [ofBalance_of_limit_le he]
      rfl
    · obtain ⟨x, hx, hle⟩ := h
      have hrest : x ∈ rest := by
        rcases List.mem_cons.1 hx with rfl | hx
        · exact absurd hle he
        · exact hx
      rw [ofBalance_of_lt (Nat.not_le.1 he), ih ⟨x, hrest, hle⟩]
      rfl

end ReportEntry

/-! ### Shares -/

namespace Report

/-- The sum of the shares, in percent. -/
def percents (r : Report) : Nat := (r.entries.map ReportEntry.percent).sum

/-- How many of the listed ids have bytes left. -/
def leaks (r : Report) : Nat := r.entries.countP fun e => e.bytes ≠ 0

/-- The report of the given balances. -/
def of (total : Nat) (accounts : List (Int × Nat)) : Report :=
  ⟨total, accounts.map (ReportEntry.line total)⟩

variable (total : Nat) (accounts : List (Int × Nat))

theorem sum_bytes_of :
    ((of total accounts).entries.map ReportEntry.bytes).sum = (accounts.map Prod.snd).sum := by
  rw [of, List.map_map]
  rfl

theorem percents_of_cons (e : Int × Nat) :
    (of total (e :: accounts)).percents = 100 * e.2 / total + (of total accounts).percents := rfl

theorem leaks_of_cons (e : Int × Nat) :
    (of total (e :: accounts)).leaks = (of total accounts).leaks + if e.2 = 0 then 0 else 1 := by
  simp [of, leaks, List.countP_cons, ReportEntry.line]

/-- What is left is left under some id. -/
theorem leaks_of_pos (h : (accounts.map Prod.snd).sum ≠ 0) : 0 < (of total accounts).leaks := by
  refine List.countP_pos_iff.2 ?_
  by_contra hnone
  refine h (List.sum_eq_zero fun n hn => ?_)
  obtain ⟨e, he, rfl⟩ := List.mem_map.1 hn
  by_contra hne
  exact hnone ⟨ReportEntry.line total e, List.mem_map_of_mem he, decide_eq_true hne⟩

/-- Rounded down, the shares are no more than the hundredfold sum. -/
theorem total_mul_percents_le :
    total * (of total accounts).percents ≤ 100 * (accounts.map Prod.snd).sum := by
  induction accounts with
  | nil => exact Nat.zero_le _
  | cons e rest ih =>
    have he : total * (100 * e.2 / total) ≤ 100 * e.2 := Nat.mul_div_le _ _
    rw [percents_of_cons, List.map_cons, List.sum_cons, Nat.mul_add, Nat.mul_add]
    exact Nat.add_le_add he ih

/-- With one percent more for each id that has bytes left, they are more than that. -/
theorem mul_sum_add_leaks_le {total : Nat} (htotal : 0 < total) :
    100 * (accounts.map Prod.snd).sum + (of total accounts).leaks ≤
      total * ((of total accounts).percents + (of total accounts).leaks) := by
  induction accounts with
  | nil => exact Nat.zero_le _
  | cons e rest ih =>
    have he : 100 * e.2 < total * (100 * e.2 / total + 1) := Nat.lt_mul_div_succ _ htotal
    rw [percents_of_cons, leaks_of_cons, List.map_cons, List.sum_cons]
    simp only [Nat.mul_add] at ih he ⊢
    split
    -- nothing is lost by rounding zero
    · rename_i hzero
      rw [hzero, Nat.mul_zero, Nat.zero_div]
      omega
    · omega

end Report

/-! ### How a report ends -/

namespace Ledger

variable {l : Ledger}

theorem Balanced.total_eq_zero_iff (h : Balanced l) : l.total = 0 ↔ ∀ id, l.outstanding id = 0 := by
  rw [h.total_eq]
  exact l.accounts.sum_eq_zero_iff

theorem report_of_total_eq_zero (h : l.total = 0) : l.report = .ok none := by
  rw [report, if_pos h]

theorem report_of_lt_limit (hne : l.total ≠ 0)
    (h : ∀ id, 100 * l.outstanding id < Size.limit) :
    l.report = .ok (some (.of l.total l.accounts.entries)) := by
  have hlines : ∀ e ∈ l.accounts.entries, 100 * e.2 < Size.limit :=
    (Accounts.forall_balance_iff (p := fun n => 100 * n < Size.limit) (by decide)).1 h
  rw [report, if_neg hne, ReportEntry.mapM_ofBalance_of_lt hlines]
  rfl

theorem report_of_limit_le (hne : l.total ≠ 0) {id : Int}
    (h : Size.limit ≤ 100 * l.outstanding id) : l.report = .error .mulOverflow := by
  -- a balance that large is not zero, and so it has a line
  have hline : ∃ e ∈ l.accounts.entries, Size.limit ≤ 100 * e.2 := by
    by_contra hnone
    have hlt := (Accounts.forall_balance_iff (a := l.accounts)
      (p := fun n => ¬ Size.limit ≤ 100 * n) (by decide)).2 fun e he hle => hnone ⟨e, he, hle⟩
    exact hlt id h
  rw [report, if_neg hne, ReportEntry.mapM_ofBalance_of_limit_le hline]
  rfl

end Ledger

/-- **Faithful reports.** What a report says is so in the ledger, what is left out is not in its
books, and the shares are those of one whole, up to rounding. -/
structure Report.Faithful (r : Report) (l : Ledger) (b : Books) : Prop where
  total_pos : 0 < r.totalBytes
  total_eq : r.totalBytes = l.total
  total_eq_sum : r.totalBytes = (r.entries.map ReportEntry.bytes).sum
  ascending : r.entries.Pairwise fun e e' => e.id < e'.id
  listed_iff : ∀ id, (∃ e ∈ r.entries, e.id = id) ↔ b.Mentions id
  bytes_eq : ∀ e ∈ r.entries, e.bytes = l.outstanding e.id
  percent_eq : ∀ e ∈ r.entries, e.percent = 100 * e.bytes / r.totalBytes
  percent_le : ∀ e ∈ r.entries, e.percent ≤ 100
  percents_le : r.percents ≤ 100
  lt_percents_add_leaks : 100 < r.percents + r.leaks

/-- **Reporting by the books.** There is nothing to report if nothing is outstanding; a report stops
if a balance is too large to take its percentage; and every other one is faithful. -/
structure Ledger.ReportsBy (l : Ledger) (b : Books) : Prop where
  none_iff : l.report = .ok none ↔ ∀ id, l.outstanding id = 0
  error_iff : ∀ fault, l.report = .error fault ↔
    fault = .mulOverflow ∧ ∃ id, Size.limit ≤ 100 * l.outstanding id
  some_iff : (∃ r, l.report = .ok (some r)) ↔
    (∃ id, l.outstanding id ≠ 0) ∧ ∀ id, 100 * l.outstanding id < Size.limit
  faithful : ∀ r, l.report = .ok (some r) → r.Faithful l b

namespace Books

variable {b : Books} {l : Ledger}

theorem Kept.faithful (h : Kept l b) (hne : l.total ≠ 0) :
    (Report.of l.total l.accounts.entries).Faithful l b where
  total_pos := Nat.pos_of_ne_zero hne
  total_eq := rfl
  total_eq_sum := by
    rw [Report.sum_bytes_of]
    exact h.balanced.total_eq
  ascending := List.pairwise_map.2 l.accounts.ascending
  listed_iff id := by
    rw [← h.mem_ids_iff]
    simp [Report.of, ReportEntry.line, Accounts.ids]
  bytes_eq e he := by
    obtain ⟨account, haccount, rfl⟩ := List.mem_map.1 he
    exact (Accounts.balance_of_mem haccount).symm
  percent_eq e he := by
    obtain ⟨account, -, rfl⟩ := List.mem_map.1 he
    rfl
  percent_le e he := by
    obtain ⟨account, haccount, rfl⟩ := List.mem_map.1 he
    have hle : l.outstanding account.1 ≤ l.total := h.balanced.outstanding_le account.1
    rw [Ledger.outstanding, Accounts.balance_of_mem haccount] at hle
    exact Nat.div_le_of_le_mul (by
      rw [Nat.mul_comm l.total]
      exact Nat.mul_le_mul_left 100 hle)
  -- all lines together, multiplied by the total
  percents_le := by
    have hle := Report.total_mul_percents_le l.total l.accounts.entries
    rw [← Accounts.sum, ← h.balanced.total_eq, Nat.mul_comm 100] at hle
    exact Nat.le_of_mul_le_mul_left hle (Nat.pos_of_ne_zero hne)
  -- some line is not zero, and each of those rounds away less than one
  lt_percents_add_leaks := by
    have hle := Report.mul_sum_add_leaks_le l.accounts.entries (Nat.pos_of_ne_zero hne)
    have hsum : l.accounts.sum ≠ 0 := h.balanced.total_eq ▸ hne
    have hleaks := Report.leaks_of_pos l.total l.accounts.entries hsum
    rw [← Accounts.sum, ← h.balanced.total_eq, Nat.mul_comm 100] at hle
    refine Nat.lt_of_mul_lt_mul_left (a := l.total) (Nat.lt_of_lt_of_le ?_ hle)
    exact Nat.lt_add_of_pos_right hleaks

/-- The ledger that books are kept of reports by them. -/
theorem Kept.reportsBy (h : Kept l b) : l.ReportsBy b := by
  by_cases hzero : l.total = 0
  · have hreport := Ledger.report_of_total_eq_zero hzero
    have hall := h.balanced.total_eq_zero_iff.1 hzero
    have hlimit : Size.limit ≠ 0 := by decide
    exact ⟨by simp [hreport, hall], by simp [hreport, hall, hlimit], by simp [hreport, hall],
      by simp [hreport]⟩
  -- with bytes outstanding some balance is not zero
  have hsome : ∃ id, l.outstanding id ≠ 0 :=
    not_forall.1 fun hall => hzero (h.balanced.total_eq_zero_iff.2 hall)
  have hnotall : ¬ ∀ id, l.outstanding id = 0 := not_forall.2 hsome
  -- what is left to ask is whether all of the shares can be computed
  by_cases hfit : ∀ id, 100 * l.outstanding id < Size.limit
  · have hreport := Ledger.report_of_lt_limit hzero hfit
    have hnone : ∀ id, ¬ Size.limit ≤ 100 * l.outstanding id := fun id => Nat.not_le.2 (hfit id)
    refine ⟨by simp [hreport, hnotall], by simp [hreport, hnone], by simp [hreport, hsome, hfit],
      fun r hr => ?_⟩
    rw [hreport] at hr
    cases hr
    exact h.faithful hzero
  · obtain ⟨id, hlt⟩ := not_forall.1 hfit
    have hlarge : ∃ id, Size.limit ≤ 100 * l.outstanding id := ⟨id, Nat.not_lt.1 hlt⟩
    have hreport := Ledger.report_of_limit_le hzero (Nat.not_lt.1 hlt)
    exact ⟨by simp [hreport, hnotall], by simp [hreport, hlarge, eq_comm],
      by simp [hreport, hfit], by simp [hreport]⟩

end Books

/-! ### Reports of a session -/

/-- **Reports.** Every ledger of a session, after any commands, reports by its books: for a copy
they start with those of its original. The report is nothing if and only if nothing is outstanding
under any id, and it is stopped, by the overflow of a product, if and only if under some id a
hundred times the outstanding bytes are no size. Otherwise there is a report, and it is faithful.
Its ids ascend; they are those that the ledger ever recorded or took back bytes under, also if no
bytes are left, or never were any; each has its outstanding bytes and its share in percent, rounded
down. The bytes add up to the total of the ledger. The shares add up to a hundred at most, and they
fall short of it by less than the number of ids with bytes left. -/
theorem sessions_report_by_their_books (commands : List Command) (x : String) :
    ((Session.run commands).state.ledger x).ReportsBy ((Chronicle.after commands).books x) := by
  have hsound := Chronicle.sound_after commands x
  rw [Chronicle.session, Chronicle.run_after] at hsound
  exact hsound.reportsBy

/-- A copy that takes back a receipt of its original, and one of no bytes from another ledger. -/
theorem sessions_report_by_their_books_copy :
    ∃ commands r, commands = [Command.record "a" 16 3 "r", .record "a" 8 (-1) "s",
        .record "a" 4 7 "t", .record "b" 0 5 "z", .copy "a" "c", .release "c" "t",
        .release "c" "z"] ∧
      r = ⟨24, [⟨-1, 8, 33⟩, ⟨3, 16, 66⟩, ⟨5, 0, 0⟩, ⟨7, 0, 0⟩]⟩ ∧
      ((Session.run commands).state.ledger "c").report = .ok (some r) ∧
      r.Faithful ((Session.run commands).state.ledger "c")
        ((Chronicle.after commands).books "c") := by
  refine ⟨_, _, rfl, rfl, by decide +kernel, ?_⟩
  exact (sessions_report_by_their_books _ "c").faithful _ (by decide +kernel)

example :
    ((Session.run [.record "a" (Size.limit / 100 + 1) 0 "r"]).state.ledger "a").report =
      .error .mulOverflow := by
  decide +kernel

end DenseKron
