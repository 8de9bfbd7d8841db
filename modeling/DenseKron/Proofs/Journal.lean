import DenseKron.Proofs.Dealings
import Mathlib.Data.List.Induction

/-!
# The journal of a ledger

A ledger says of every call what became of it: one event if bytes were recorded, one if bytes were
released, and one, of another level, if a release was refused. Only a recording that is stopped goes
unmentioned. The events are emitted behind the changes, and what they tell is meant to be enough to
do without the ledger.

So the journal is **replayed** by somebody who knows nothing else (`LedgerEvent.replayAll`). The
replay starts with accounts that list nothing and gives up when more bytes are to be released under
an id than it has there. After any calls, whatever was refused or stopped on the way, it has not
given up and has arrived at the accounts of the ledger (`Accounted`): a call that goes through is
entered in both alike, and any other call in neither.
-/

namespace DenseKron

/-! ### Replay -/

namespace LedgerEvent

variable {a : Accounts} {events : List LedgerEvent} {e : LedgerEvent}

/-- **Replay of an event.** Bytes that were recorded are added under their id. Bytes that were
released are taken away there, if there are that many. -/
def replay (a : Accounts) : LedgerEvent → Option Accounts
  | recorded id size _ => some (a.set id (a.balance id + size))
  | released id size _ =>
    if size ≤ a.balance id then some (a.set id (a.balance id - size)) else none
  | overreleased .. => some a

/-- **Replay of a journal**, from accounts that list nothing. Warnings are not looked at. -/
def replayAll (events : List LedgerEvent) : Option Accounts :=
  (events.filter fun e => e.entry.level = .debug).foldlM replay .empty

theorem replayAll_concat (h : replayAll events = some a) (he : e.entry.level = .debug) :
    replayAll (events ++ [e]) = replay a e := by
  have hfilter : [e].filter (fun e => e.entry.level = .debug) = [e] :=
    List.filter_cons_of_pos (decide_eq_true he)
  rw [replayAll, List.filter_append, hfilter, List.foldlM_append, ← replayAll, h]
  exact bind_pure (replay a e)

theorem replayAll_concat_of_ne (he : e.entry.level ≠ .debug) :
    replayAll (events ++ [e]) = replayAll events := by
  have hfilter : [e].filter (fun e => e.entry.level = .debug) = [] :=
    List.filter_cons_of_neg (by simpa using he)
  rw [replayAll, List.filter_append, hfilter, List.append_nil, replayAll]

end LedgerEvent

/-! ### Ledgers and their journals -/

namespace Dealing

variable {s : Observed LedgerEvent Ledger} {size : Nat} {id : Int} {r : Receipt}

theorem behind_record_of_limit_le (hle : Size.limit ≤ s.state.total + size) :
    behind s (.record size id) = s := by
  have hrecord : Ledger.record size id s = _ := Ledger.record_of_limit_le hle s.events
  rw [behind, call, EStateM.bind_of_error hrecord]

theorem behind_release_of_lt (hlt : s.state.outstanding r.id < r.size) :
    behind s (.release r) =
      ⟨s.state, s.events ++ [.overreleased r.id r.size (s.state.outstanding r.id)]⟩ := by
  have hrelease : Ledger.release r s = _ := Ledger.release_of_lt hlt s.events
  rw [behind, call, hrelease]

end Dealing

/-- **A ledger that its journal accounts for.** It balances, and the replay of the journal ends in
its accounts. -/
structure Accounted (s : Observed LedgerEvent Ledger) : Prop where
  balanced : s.state.Balanced
  replayAll_eq : LedgerEvent.replayAll s.events = some s.state.accounts

namespace Accounted

variable {s : Observed LedgerEvent Ledger}

theorem new : Accounted ⟨.empty, []⟩ := ⟨Ledger.balanced_empty, rfl⟩

/-- What an admitted call does to the accounts is what the replay does on reading its event. -/
theorem replay_event {d : Dealing} (hd : d.Admitted s.state) :
    (d.event s.state).replay s.state.accounts = some (d.effect s.state).accounts := by
  cases d with
  | record size id => rfl
  | release receipt => exact if_pos hd

theorem behind (h : Accounted s) (d : Dealing) : Accounted (d.behind s) := by
  by_cases hd : d.Admitted s.state
  -- an admitted call leaves one event, and this is replayed to its effect
  · rw [Dealing.behind_of_admitted h.balanced hd]
    refine ⟨Dealing.balanced_effect h.balanced hd, ?_⟩
    have hlevel : (d.event s.state).entry.level = .debug := by cases d <;> rfl
    rw [LedgerEvent.replayAll_concat h.replayAll_eq hlevel]
    exact replay_event hd
  · cases d with
    -- a recording that is stopped is not mentioned, and a refusal is a warning
    | record size id =>
      rw [Dealing.behind_record_of_limit_le (Nat.not_lt.1 hd)]
      exact h
    | release receipt =>
      rw [Dealing.behind_release_of_lt (Nat.not_le.1 hd)]
      -- a replay passes over warnings
      have hlevel : ∀ n,
          (LedgerEvent.overreleased receipt.id receipt.size n).entry.level ≠ .debug :=
        fun _ hwarn => Level.noConfusion hwarn
      exact ⟨h.balanced, (LedgerEvent.replayAll_concat_of_ne (hlevel _)).trans h.replayAll_eq⟩

end Accounted

/-- The journal accounts for the ledger, whatever was called. -/
theorem accounted_run (ds : List Dealing) : Accounted (Dealing.run ⟨.empty, []⟩ ds) := by
  -- the induction is on the last call, with the invariant of the calls before it
  induction ds using List.reverseRecOn with
  | nil => exact .new
  | append_singleton ds d ih =>
    rw [Dealing.run_append]
    exact ih.behind d

/-! ### Faithful journals -/

/-- **A faithful journal.** Each call is going to be mentioned as it ends, and the events so far are
enough to know the ledger. -/
structure FaithfulJournal (s : Observed LedgerEvent Ledger) : Prop where
  /-- A recording that goes through emits one event, with the total behind it. -/
  recorded : ∀ size id, s.state.total + size < Size.limit → ∃ s',
    Ledger.record size id s = .ok ⟨id, size⟩ s' ∧ s'.state.Exceeds s.state size id ∧
      s'.events = s.events ++ [.recorded id size s'.state.total]
  /-- A recording that is stopped emits none and changes nothing. -/
  stopped : ∀ size id, Size.limit ≤ s.state.total + size →
    Ledger.record size id s = .error (.fault .addOverflow) s
  /-- A release that goes through emits one event, with the total behind it. -/
  released : ∀ r : Receipt, r.size ≤ s.state.outstanding r.id → ∃ s',
    Ledger.release r s = .ok () s' ∧ s.state.Exceeds s'.state r.size r.id ∧
      s'.events = s.events ++ [.released r.id r.size s'.state.total]
  /-- A refusal emits one event, with the numbers of the error, and changes nothing. -/
  refused : ∀ r : Receipt, s.state.outstanding r.id < r.size → ∃ s',
    Ledger.release r s =
        .error (.refused (.release r.id r.size (s.state.outstanding r.id))) s' ∧
      s'.state = s.state ∧
      s'.events = s.events ++ [.overreleased r.id r.size (s.state.outstanding r.id)]
  /-- The replay never wants for bytes, and ends with what is outstanding and with the total. -/
  replayed : ∃ a, LedgerEvent.replayAll s.events = some a ∧
    (∀ id, a.balance id = s.state.outstanding id) ∧ a.sum = s.state.total

theorem Accounted.faithful {s : Observed LedgerEvent Ledger} (h : Accounted s) :
    FaithfulJournal s where
  -- one call each, from accounts that balance
  recorded size id hlt := by
    have hrecord : Ledger.record size id s = _ := Ledger.record_of_lt_limit h.balanced hlt s.events
    exact ⟨_, hrecord, Ledger.exceeds_plus s.state size id, rfl⟩
  stopped size id hle := Ledger.record_of_limit_le hle s.events
  released r hle := by
    have hrelease : Ledger.release r s = _ := Ledger.release_of_le h.balanced hle s.events
    exact ⟨_, hrelease, Ledger.exceeds_minus h.balanced hle, rfl⟩
  refused r hlt := by
    have hrelease : Ledger.release r s = _ := Ledger.release_of_lt hlt s.events
    exact ⟨_, hrelease, rfl, rfl⟩
  replayed := ⟨s.state.accounts, h.replayAll_eq, fun _ => rfl, h.balanced.total_eq.symm⟩

/-- **The journal is faithful after any calls** on a new ledger, with receipts from wherever they
may come. A call that goes through is mentioned in one event of the level `debug`, with the total at
which it arrives, a refusal in one warning, with the numbers of its error, and a recording that is
stopped in none. The replay of the events of the level `debug`, from accounts that list nothing, never takes
more from an id than there is, and ends with what the ledger has outstanding under every id and in
total. -/
theorem journal_faithful (ds : List Dealing) :
    FaithfulJournal (Dealing.run ⟨.empty, []⟩ ds) ∧
    ∀ id size n, (LedgerEvent.recorded id size n).entry.level = .debug ∧
      (LedgerEvent.released id size n).entry.level = .debug ∧
      (LedgerEvent.overreleased id size n).entry.level = .warn :=
  ⟨(accounted_run ds).faithful, fun _ _ _ => ⟨rfl, rfl, rfl⟩⟩

/-- A foreign receipt that is refused, a recording that is stopped, and what the replay makes of the
rest. -/
theorem journal_faithful_refused_stopped :
    ∃ ds s, ds = [Dealing.record 8 1, .release ⟨2, 3⟩, .record Size.limit 2, .release ⟨1, 5⟩] ∧
      s = Dealing.run ⟨.empty, []⟩ ds ∧
      s.events = [.recorded 1 8 8, .overreleased 2 3 0, .released 1 5 3] ∧
      Ledger.record (Size.limit - 3) 1 s = .error (.fault .addOverflow) s ∧
      ∃ a, LedgerEvent.replayAll s.events = some a ∧ a.balance 1 = s.state.outstanding 1 ∧
        a.sum = s.state.total := by
  obtain ⟨hfaithful, -⟩ := journal_faithful
    [.record 8 1, .release ⟨2, 3⟩, .record Size.limit 2, .release ⟨1, 5⟩]
  obtain ⟨a, hreplay, hbalance, hsum⟩ := hfaithful.replayed
  exact ⟨_, _, rfl, rfl, by decide, hfaithful.stopped _ _ (by decide), a, hreplay, hbalance 1, hsum⟩

end DenseKron
