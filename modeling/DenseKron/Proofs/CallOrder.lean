import DenseKron.Proofs.Journal
import DenseKron.Proofs.Reports
import Mathlib.Algebra.BigOperators.Group.List.Basic
import Mathlib.Algebra.Ring.Int.Defs

/-!
# The order of calls

The same calls, made in another order, lead to the same ledger, as long as none of them is stopped
or refused. It is tempting to prove this by exchanging neighbours, but the runs that lie between the
two orders need not go through: a release may have come to stand in front of its recording.

So each run is summed up on its own. A call that goes through adds its `change` to the total and to
the balance of its id, and lists that id. Where a run arrives (`Ledger.Arrives`) is given by sums
over all calls, and a sum does not depend on the order; neither does the set of listed ids. Accounts
are sorted, so that these numbers and the listed ids make up the whole ledger
(`Accounts.eq_of_balances`).

What a call on one id does to the other ids is nothing, however it ends. Whether a release is
refused is therefore decided by the calls on its own id (`refuses_run_iff`).
-/

namespace DenseKron

/-! ### Accounts, by what they list -/

namespace Accounts

variable {a a' : Accounts} {id : Int}

theorem mem_entries_iff {e : Int × Nat} : e ∈ a.entries ↔ a.balance? e.1 = some e.2 := by
  constructor
  · intro he
    exact Balances.lookup_of_mem a.ascending he
  · intro hlookup
    obtain ⟨front, back, hentries, -⟩ := List.lookup_eq_some_iff.1 hlookup
    rw [hentries]
    exact List.mem_append_right front List.mem_cons_self

theorem balance?_of_mem_ids (h : id ∈ a.ids) : a.balance? id = some (a.balance id) := by
  obtain ⟨bytes, hbytes⟩ := Option.ne_none_iff_exists'.1 (mem_ids_iff.1 h)
  rw [balance, hbytes, Option.getD_some]

theorem balance?_of_not_mem_ids (h : id ∉ a.ids) : a.balance? id = none :=
  not_not.1 (mt mem_ids_iff.2 h)

/-- Accounts that list the same ids with the same balances are equal: there is one order in which
they can be listed. -/
theorem eq_of_balances (hids : ∀ id, id ∈ a.ids ↔ id ∈ a'.ids)
    (hbalance : ∀ id, a.balance id = a'.balance id) : a = a' := by
  have hlookup : ∀ id, a.balance? id = a'.balance? id := by
    intro id
    by_cases hid : id ∈ a.ids
    · rw [balance?_of_mem_ids hid, balance?_of_mem_ids ((hids id).1 hid), hbalance]
    · rw [balance?_of_not_mem_ids hid, balance?_of_not_mem_ids (mt (hids id).2 hid)]
  have hnodup : ∀ b : Accounts, b.entries.Nodup := fun b =>
    b.ascending.imp fun hlt heq => absurd hlt (by rw [heq]; exact Int.lt_irrefl _)
  -- two ascending lists of the same entries are one list
  have hperm : a.entries.Perm a'.entries := by
    refine (List.perm_ext_iff_of_nodup (hnodup a) (hnodup a')).2 fun e => ?_
    rw [mem_entries_iff, mem_entries_iff, hlookup]
  have hentries : a.entries = a'.entries :=
    hperm.eq_of_pairwise (fun _ _ _ _ hlt hgt => absurd hlt (Int.lt_asymm hgt)) a.ascending
      a'.ascending
  obtain ⟨entries, hasc⟩ := a
  obtain ⟨entries', hasc'⟩ := a'
  subst hentries
  rfl

end Accounts

/-! ### Where calls lead -/

namespace Dealing

/-- What a call adds to a total, and to the balance of its id. -/
def change : Dealing → Int
  | record size _ => size
  | release receipt => -receipt.size

/-- What calls add to a total. -/
def changes (ds : List Dealing) : Int := (ds.map change).sum

/-- What calls add to the balance of an id. -/
def changesUnder (id : Int) (ds : List Dealing) : Int := changes (ds.filter fun d => d.id = id)

variable {ds ds' : List Dealing} {d : Dealing} {id : Int}

theorem changes_cons (d : Dealing) (ds : List Dealing) :
    changes (d :: ds) = d.change + changes ds := by
  rw [changes, List.map_cons, List.sum_cons]
  rfl

theorem changesUnder_cons (id : Int) (d : Dealing) (ds : List Dealing) :
    changesUnder id (d :: ds) = (if d.id = id then d.change else 0) + changesUnder id ds := by
  unfold changesUnder
  by_cases hid : d.id = id
  · rw [List.filter_cons_of_pos (by simpa using hid), changes_cons, if_pos hid]
  · rw [List.filter_cons_of_neg (by simpa using hid), if_neg hid, Int.zero_add]

theorem changes_perm (h : ds.Perm ds') : changes ds = changes ds' := (h.map change).sum_eq

theorem changesUnder_perm (h : ds.Perm ds') (id : Int) : changesUnder id ds = changesUnder id ds' :=
  changes_perm (h.filter _)

end Dealing

namespace Ledger

variable {l l' l'' : Ledger} {d : Dealing} {ds ds' : List Dealing}

/-- **Arrival.** A ledger is where calls lead from another if they have all been added up there, and
their ids are listed. -/
structure Arrives (l : Ledger) (ds : List Dealing) (l' : Ledger) : Prop where
  total_eq : (l'.total : Int) = l.total + Dealing.changes ds
  outstanding_eq : ∀ id, (l'.outstanding id : Int) = l.outstanding id + Dealing.changesUnder id ds
  listed_iff : ∀ id, id ∈ l'.accounts.ids ↔ id ∈ l.accounts.ids ∨ ∃ d ∈ ds, d.id = id

theorem arrives_nil (l : Ledger) : l.Arrives [] l where
  total_eq := (Int.add_zero _).symm
  outstanding_eq _ := (Int.add_zero _).symm
  listed_iff id := by simp

/-- A call that is admitted changes the balance of its id, and no other. -/
theorem outstanding_effect (hd : d.Admitted l) (id : Int) :
    ((d.effect l).outstanding id : Int) =
      l.outstanding id + if d.id = id then d.change else 0 := by
  cases d with
  | record size other =>
    show ((l.plus size other).outstanding id : Int) =
      l.outstanding id + if other = id then (size : Int) else 0
    rw [outstanding_plus]
    -- a call changes the balance under its own id and no other one
    by_cases hid : id = other
    · subst hid
      rw [if_pos rfl, if_pos rfl, Int.natCast_add]
    · rw [if_neg hid, if_neg (Ne.symm hid), Int.add_zero]
  | release receipt =>
    have hle : receipt.size ≤ l.outstanding receipt.id := hd
    show ((l.minus receipt).outstanding id : Int) =
      l.outstanding id + if receipt.id = id then -(receipt.size : Int) else 0
    rw [outstanding_minus]
    by_cases hid : id = receipt.id
    · subst hid
      rw [if_pos rfl, if_pos rfl]
      omega
    · rw [if_neg hid, if_neg (Ne.symm hid), Int.add_zero]

theorem total_effect (h : l.Balanced) (hd : d.Admitted l) :
    ((d.effect l).total : Int) = l.total + d.change := by
  cases d with
  | record size id => exact Int.natCast_add ..
  | release receipt =>
    -- what can be released under one id is part of the total
    have hle : receipt.size ≤ l.total := Nat.le_trans hd (h.outstanding_le receipt.id)
    show ((l.total - receipt.size : Nat) : Int) = l.total + -receipt.size
    omega

theorem Arrives.cons (h : l.Balanced) (hd : d.Admitted l) (ha : (d.effect l).Arrives ds l') :
    l.Arrives (d :: ds) l' where
  total_eq := by
    rw [ha.total_eq, total_effect h hd, Dealing.changes_cons, Int.add_assoc]
  outstanding_eq id := by
    rw [ha.outstanding_eq, outstanding_effect hd, Dealing.changesUnder_cons, Int.add_assoc]
  listed_iff id := by
    rw [ha.listed_iff, Dealing.mem_ids_effect, List.exists_mem_cons_iff, or_assoc, or_left_comm,
      eq_comm]

/-- Calls lead to one ledger, in whatever order they are listed. -/
theorem Arrives.eq_of_perm (ha : l.Arrives ds l') (ha' : l.Arrives ds' l'') (hp : ds.Perm ds') :
    l' = l'' := by
  -- sums do not depend on the order of their terms, and the sums determine the ledger
  have htotal : l'.total = l''.total := by
    have hsum := ha.total_eq
    rw [Dealing.changes_perm hp, ← ha'.total_eq] at hsum
    exact Int.ofNat_inj.1 hsum
  have haccounts : l'.accounts = l''.accounts := by
    refine Accounts.eq_of_balances (fun id => ?_) (fun id => ?_)
    · rw [ha.listed_iff, ha'.listed_iff]
      simp only [hp.mem_iff]
    · have hsum := ha.outstanding_eq id
      rw [Dealing.changesUnder_perm hp, ← ha'.outstanding_eq] at hsum
      exact Int.ofNat_inj.1 hsum
  obtain ⟨total, accounts⟩ := l'
  obtain ⟨total', accounts'⟩ := l''
  congr

end Ledger

/-! ### Smooth runs -/

namespace Ledger

variable {s s' : Observed LedgerEvent Ledger} {size : Nat} {id : Int} {r : Receipt}

/-- A ledger stops a recording. -/
def Stops (s : Observed LedgerEvent Ledger) (size : Nat) (id : Int) : Prop :=
  ∃ fault s', record size id s = .error (.fault fault) s'

/-- A ledger refuses a release. -/
def Refuses (s : Observed LedgerEvent Ledger) (r : Receipt) : Prop :=
  ∃ error s', release r s = .error (.refused error) s'

theorem stops_iff (h : s.state.Balanced) : Stops s size id ↔ Size.limit ≤ s.state.total + size := by
  constructor
  · rintro ⟨fault, s', hrecord⟩
    exact limit_le_of_record_eq_error h hrecord
  · intro hle
    exact ⟨_, _, record_of_limit_le hle s.events⟩

theorem refuses_iff (h : s.state.Balanced) :
    Refuses s r ↔ s.state.outstanding r.id < r.size := by
  constructor
  · rintro ⟨error, s', hrelease⟩
    exact outstanding_lt_of_release_eq_error h hrelease
  · intro hlt
    exact ⟨_, _, release_of_lt hlt s.events⟩

end Ledger

namespace Dealing

open Ledger (Stops Refuses)

variable {s s' : Observed LedgerEvent Ledger} {d : Dealing} {ds : List Dealing} {r : Receipt}

/-- A call goes through: it is no recording that is stopped and no release that is refused. -/
def GoesThrough (s : Observed LedgerEvent Ledger) : Dealing → Prop
  | record size id => ¬ Stops s size id
  | release receipt => ¬ Refuses s receipt

theorem goesThrough_iff (h : s.state.Balanced) : d.GoesThrough s ↔ d.Admitted s.state := by
  cases d with
  | record size id => exact (Ledger.stops_iff h).not.trans Nat.not_le
  | release receipt => exact (Ledger.refuses_iff h).not.trans Nat.not_lt

/-- **Smooth runs.** Each call goes through at its turn. -/
def Smooth : Observed LedgerEvent Ledger → List Dealing → Prop
  | _, [] => True
  | s, d :: ds => d.GoesThrough s ∧ Smooth (d.behind s) ds

theorem balanced_run (h : s.state.Balanced) (ds : List Dealing) :
    (run s ds).state.Balanced := by
  induction ds generalizing s with
  | nil => exact h
  | cons d ds ih => exact ih (balanced_behind h d)

theorem state_behind_congr (h : s.state.Balanced) (heq : s.state = s'.state) (d : Dealing) :
    (d.behind s).state = (d.behind s').state := by
  by_cases hd : d.Admitted s.state
  · rw [behind_of_admitted h hd, behind_of_admitted (heq ▸ h) (heq ▸ hd), heq]
  · rw [state_behind_of_not_admitted hd, state_behind_of_not_admitted (heq ▸ hd), heq]

theorem state_run_congr (h : s.state.Balanced) (heq : s.state = s'.state) (ds : List Dealing) :
    (run s ds).state = (run s' ds).state := by
  induction ds generalizing s s' with
  | nil => exact heq
  | cons d ds ih => exact ih (balanced_behind h d) (state_behind_congr h heq d)

/-- A smooth run arrives where its calls lead. -/
theorem arrives_of_smooth (h : s.state.Balanced) (hs : Smooth s ds) :
    s.state.Arrives ds (run s ds).state := by
  -- on the calls, from any balanced ledger: each of them hands on a balanced one
  induction ds generalizing s with
  | nil => exact Ledger.arrives_nil s.state
  | cons d ds ih =>
    obtain ⟨hthrough, hrest⟩ := hs
    have hd := (goesThrough_iff h).1 hthrough
    have hstate : (d.behind s).state = d.effect s.state :=
      congrArg Observed.state (behind_of_admitted h hd)
    have harrives := ih (balanced_behind h d) hrest
    rw [hstate] at harrives
    exact harrives.cons h hd

/-- A call on another id leaves the balance of an id alone, however the call ends. -/
theorem outstanding_behind_of_ne (h : s.state.Balanced) {id : Int} (hid : d.id ≠ id) :
    (d.behind s).state.outstanding id = s.state.outstanding id := by
  -- a call that is not admitted changes nothing at all
  by_cases hd : d.Admitted s.state
  · have hsame := Ledger.outstanding_effect hd id
    rw [if_neg hid, Int.add_zero] at hsame
    rw [behind_of_admitted h hd]
    exact Int.ofNat_inj.1 hsame
  · rw [state_behind_of_not_admitted hd]

theorem outstanding_run_of_ne (h : s.state.Balanced) {id : Int} (hid : ∀ d ∈ ds, d.id ≠ id) :
    (run s ds).state.outstanding id = s.state.outstanding id := by
  -- on the calls: none of them reaches the balance under this id
  induction ds generalizing s with
  | nil => rfl
  | cons d ds ih =>
    obtain ⟨hd, hds⟩ := List.forall_mem_cons.1 hid
    calc (run (d.behind s) ds).state.outstanding id
        = (d.behind s).state.outstanding id := ih (balanced_behind h d) hds
      _ = s.state.outstanding id := outstanding_behind_of_ne h hd

/-- Calls on other ids, however they end, do not change whether a release is refused. -/
theorem refuses_run_iff (h : s.state.Balanced) (hid : ∀ d ∈ ds, d.id ≠ r.id) :
    Refuses (run s ds) r ↔ Refuses s r := by
  rw [Ledger.refuses_iff (balanced_run h ds), Ledger.refuses_iff h,
    outstanding_run_of_ne h hid]

end Dealing

/-! ### The same calls in another order -/

/-- **Ledgers that answer alike.** Whatever is asked of them, and whatever they may have to stop or
to refuse, it comes out the same. -/
structure Ledger.AnswersAlike (s s' : Observed LedgerEvent Ledger) : Prop where
  state_eq : s.state = s'.state
  outstanding_eq : ∀ id, s.state.outstanding id = s'.state.outstanding id
  report_eq : s.state.report = s'.state.report
  stops_iff : ∀ size id, Stops s size id ↔ Stops s' size id
  refuses_iff : ∀ r, Refuses s r ↔ Refuses s' r

theorem Ledger.answersAlike_of_state_eq {s s' : Observed LedgerEvent Ledger}
    (h : s.state.Balanced) (heq : s.state = s'.state) : AnswersAlike s s' where
  state_eq := heq
  outstanding_eq id := by rw [heq]
  report_eq := by rw [heq]
  stops_iff size id := by rw [Ledger.stops_iff h, Ledger.stops_iff (heq ▸ h), heq]
  refuses_iff r := by rw [Ledger.refuses_iff h, Ledger.refuses_iff (heq ▸ h), heq]

/-- **The order of calls does not matter.** Two smooth runs of the same calls, from one ledger but
with whatever journals, lead to one ledger: to every balance its own calls were added, to the total
all of them, and the ids of all of them are listed, also those at zero. From there on the two answer
alike, behind any further calls.

And however the calls on other ids end, they do not change whether the release of a receipt is
refused. -/
theorem call_order_irrelevant {l : Ledger} (hl : l.Reachable) :
    (∀ ds ds' events events', ds.Perm ds' → Dealing.Smooth ⟨l, events⟩ ds →
      Dealing.Smooth ⟨l, events'⟩ ds' →
      l.Arrives ds (Dealing.run ⟨l, events⟩ ds).state ∧
      ∀ more, Ledger.AnswersAlike (Dealing.run ⟨l, events⟩ (ds ++ more))
        (Dealing.run ⟨l, events'⟩ (ds' ++ more))) ∧
    ∀ ds events r, (∀ d ∈ ds, d.id ≠ r.id) →
      (Ledger.Refuses (Dealing.run ⟨l, events⟩ ds) r ↔ Ledger.Refuses ⟨l, events⟩ r) := by
  have hbalanced := hl.balanced
  refine ⟨fun ds ds' events events' hperm hs hs' => ?_, fun ds events r hid => ?_⟩
  · have harrives := Dealing.arrives_of_smooth (s := ⟨l, events⟩) hbalanced hs
    have harrives' := Dealing.arrives_of_smooth (s := ⟨l, events'⟩) hbalanced hs'
    have heq := harrives.eq_of_perm harrives' hperm
    refine ⟨harrives, fun more => ?_⟩
    rw [Dealing.run_append, Dealing.run_append]
    -- one ledger behind both orders, so that whatever follows is answered alike
    have hbehind := Dealing.balanced_run (s := ⟨l, events⟩) hbalanced ds
    exact Ledger.answersAlike_of_state_eq (Dealing.balanced_run hbehind more)
      (Dealing.state_run_congr hbehind heq more)
  · exact Dealing.refuses_run_iff hbalanced hid

/-- One order in which a release goes back to a balance of zero before anything else is recorded,
and one in which it does so at the end. -/
theorem call_order_irrelevant_two_orders :
    ∃ l ds ds', l = ((Dealing.record 8 1).behind ⟨.empty, []⟩).state ∧
      ds = [Dealing.release ⟨1, 8⟩, .record 4 2, .release ⟨3, 0⟩] ∧
      ds' = [Dealing.release ⟨3, 0⟩, .record 4 2, .release ⟨1, 8⟩] ∧
      l.Reachable ∧ ds.Perm ds' ∧ Dealing.Smooth ⟨l, []⟩ ds ∧ Dealing.Smooth ⟨l, []⟩ ds' ∧
      (Dealing.run ⟨l, []⟩ ds).state = (Dealing.run ⟨l, []⟩ ds').state ∧
      (Dealing.run ⟨l, []⟩ ds).state.accounts.entries = [(1, 0), (2, 4), (3, 0)] ∧
      (Ledger.Refuses (Dealing.run ⟨l, []⟩ [.record 4 2]) ⟨1, 9⟩ ↔
        Ledger.Refuses ⟨l, []⟩ ⟨1, 9⟩) := by
  -- each of the calls ends well, as its evaluation shows
  have hs : Dealing.Smooth ⟨((Dealing.record 8 1).behind ⟨.empty, []⟩).state, []⟩
      [.release ⟨1, 8⟩, .record 4 2, .release ⟨3, 0⟩] := by
    refine ⟨?_, ?_, ?_, trivial⟩ <;> rintro ⟨_, _, hend⟩ <;> cases hend
  have hs' : Dealing.Smooth ⟨((Dealing.record 8 1).behind ⟨.empty, []⟩).state, []⟩
      [.release ⟨3, 0⟩, .record 4 2, .release ⟨1, 8⟩] := by
    refine ⟨?_, ?_, ?_, trivial⟩ <;> rintro ⟨_, _, hend⟩ <;> cases hend
  have hl : ((Dealing.record 8 1).behind ⟨.empty, []⟩).state.Reachable := .call .new _ _
  have hperm : [Dealing.release ⟨1, 8⟩, .record 4 2, .release ⟨3, 0⟩].Perm
      [.release ⟨3, 0⟩, .record 4 2, .release ⟨1, 8⟩] := by decide
  obtain ⟨horder, hrefusal⟩ := call_order_irrelevant hl
  obtain ⟨-, halike⟩ := horder _ _ [] [] hperm hs hs'
  exact ⟨_, _, _, rfl, rfl, rfl, hl, hperm, hs, hs', (halike []).state_eq, by decide,
    hrefusal _ [] ⟨1, 9⟩ (by decide)⟩

end DenseKron
