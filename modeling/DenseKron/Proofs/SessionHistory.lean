import DenseKron.Proofs.Dealings
import Mathlib.Data.List.Induction
import Mathlib.Logic.Function.Basic

/-!
# The history of a session

A command of a session finds a ledger and a receipt by their names, makes a call on the ledger, and
puts back what the call leaves. How each command ends, and in which session, follows from how the
call ends (`Session.step_record_of_lt_limit` and what comes after it).

A session forgets what led to it. A **chronicle** keeps the books of every ledger next to it, and
who issued each of the receipts, and what a command does to all three is said once, in `Move`.
Everything that is proved of sessions after this goes by the moves.

The books of a chronicle are kept of the ledger of the same name (`Chronicle.sound_after`), so that
no ledger of a session, whatever was done to it, is anything but the result of calls on a new one.
-/

namespace DenseKron

/-! ### Names -/

theorem lookup_filter_bne {β : Type} (entries : List (String × β)) (x y : String) :
    (entries.filter (·.1 != x)).lookup y = if y = x then none else entries.lookup y := by
  induction entries with
  | nil => simp
  | cons e rest ih =>
    obtain ⟨name, z⟩ := e
    by_cases hname : name = x
    -- the entry is gone, and it could only have been found under the name
    · subst hname
      rw [List.filter_cons_of_neg (by simp), ih]
      by_cases hy : y = name
      · rw [if_pos hy, if_pos hy]
      · rw [if_neg hy, if_neg hy, List.lookup_cons, beq_eq_false_iff_ne.2 hy]
    · rw [List.filter_cons_of_pos (by simpa using hname), List.lookup_cons, List.lookup_cons, ih]
      by_cases hy : y = x
      · subst hy
        rw [if_pos rfl, if_pos rfl, beq_eq_false_iff_ne.2 (Ne.symm hname)]
      · rw [if_neg hy, if_neg hy]

namespace Session

open Observing Function
open EStateM (bind_of_ok bind_of_error)

variable {s : Observed LedgerEvent Session} {x y t : String} {size : Nat} {id : Int} {r : Receipt}

theorem ledger_setLedger (s : Session) (x : String) (l : Ledger) :
    (s.setLedger x l).ledger = update s.ledger x l := by
  funext y
  rw [ledger, setLedger, List.lookup_cons, lookup_filter_bne]
  -- found in front under its own name, and else where it was
  by_cases hy : y = x
  · subst hy
    rw [beq_self_eq_true, update_self]
    rfl
  · rw [beq_eq_false_iff_ne.2 hy, if_neg hy, update_of_ne hy]
    rfl

/-! ### How a command ends -/

theorem onLedger_of_ok {β : Type} {act : Bookkeeping β} {z : β} {u : Observed LedgerEvent Ledger}
    (h : act ⟨s.state.ledger x, s.events⟩ = .ok z u) :
    onLedger x act s = .ok z ⟨s.state.setLedger x u.state, u.events⟩ := by
  rw [onLedger, h]

theorem onLedger_of_error {β : Type} {act : Bookkeeping β} {failure : Failure}
    {u : Observed LedgerEvent Ledger} (h : act ⟨s.state.ledger x, s.events⟩ = .error failure u) :
    onLedger x act s = .error (.failed failure) ⟨s.state.setLedger x u.state, u.events⟩ := by
  rw [onLedger, h]

theorem step_record_of_lt_limit (h : (s.state.ledger x).Balanced)
    (hlt : (s.state.ledger x).total + size < Size.limit) :
    step (.record x size id t) s =
      .ok (some ⟨id, size⟩)
        ⟨(s.state.setLedger x ((s.state.ledger x).plus size id)).keep t ⟨id, size⟩,
          s.events ++ [.recorded id size ((s.state.ledger x).total + size)]⟩ := by
  rw [step, bind_of_ok (onLedger_of_ok (Ledger.record_of_lt_limit h hlt s.events))]
  rfl

theorem step_record_of_limit_le (hle : Size.limit ≤ (s.state.ledger x).total + size) :
    step (.record x size id t) s =
      .error (.failed (.fault .addOverflow))
        ⟨s.state.setLedger x (s.state.ledger x), s.events⟩ := by
  rw [step, bind_of_error (onLedger_of_error (Ledger.record_of_limit_le hle s.events))]

theorem step_release_of_none (ht : s.state.receipt? t = none) :
    step (.release x t) s = .error .noReceipt s := by
  rw [step, bind_of_ok (state_apply s), ht]
  rfl

theorem step_release_of_le (ht : s.state.receipt? t = some r) (h : (s.state.ledger x).Balanced)
    (hle : r.size ≤ (s.state.ledger x).outstanding r.id) :
    step (.release x t) s =
      .ok none
        ⟨(s.state.setLedger x ((s.state.ledger x).minus r)).forget t,
          s.events ++ [.released r.id r.size ((s.state.ledger x).total - r.size)]⟩ := by
  have hrelease := Ledger.release_of_le h hle s.events
  rw [step, bind_of_ok (state_apply s), ht]
  dsimp only
  -- the receipt is forgotten first, which changes no ledger
  rw [bind_of_ok (state_apply s), bind_of_ok (setState_apply _ s),
    bind_of_ok (onLedger_of_ok (s := ⟨s.state.forget t, s.events⟩) hrelease)]
  rfl

theorem step_release_of_lt (ht : s.state.receipt? t = some r)
    (hlt : (s.state.ledger x).outstanding r.id < r.size) :
    step (.release x t) s =
      .error (.failed (.refused (.release r.id r.size ((s.state.ledger x).outstanding r.id))))
        ⟨(s.state.setLedger x (s.state.ledger x)).forget t,
          s.events ++ [.overreleased r.id r.size ((s.state.ledger x).outstanding r.id)]⟩ := by
  have hrelease := Ledger.release_of_lt hlt s.events
  rw [step, bind_of_ok (state_apply s), ht]
  dsimp only
  -- the receipt is forgotten although it is refused
  rw [bind_of_ok (state_apply s), bind_of_ok (setState_apply _ s),
    bind_of_error (onLedger_of_error (s := ⟨s.state.forget t, s.events⟩) hrelease)]
  rfl

/-! ### What a command leaves -/

/-- The session behind a command, however the command ends. -/
def behind (s : Observed LedgerEvent Session) (c : Command) : Observed LedgerEvent Session :=
  match step c s with
  | .ok _ after => after
  | .error _ after => after

/-- The session behind a run of commands. -/
def run (commands : List Command) : Observed LedgerEvent Session := commands.foldl behind ⟨{}, []⟩

/-- Whether a command does what it says. -/
def endsWell (s : Observed LedgerEvent Session) (c : Command) : Bool :=
  match step c s with
  | .ok .. => true
  | .error .. => false

theorem run_concat (commands : List Command) (c : Command) :
    run (commands ++ [c]) = behind (run commands) c := by
  rw [run, List.foldl_append]
  rfl

theorem behind_of_ok {z : Option Receipt} {u : Observed LedgerEvent Session} {c : Command}
    (h : step c s = .ok z u) : behind s c = u := by
  rw [behind, h]

theorem behind_of_error {problem : CommandProblem} {u : Observed LedgerEvent Session} {c : Command}
    (h : step c s = .error problem u) : behind s c = u := by
  rw [behind, h]

theorem endsWell_of_ok {z : Option Receipt} {u : Observed LedgerEvent Session} {c : Command}
    (h : step c s = .ok z u) : endsWell s c = true := by
  rw [endsWell, h]

theorem endsWell_of_error {problem : CommandProblem} {u : Observed LedgerEvent Session}
    {c : Command} (h : step c s = .error problem u) : endsWell s c = false := by
  rw [endsWell, h]

end Session

/-! ### Chronicles -/

/-- **Chronicle.** A session, with the books of the ledger of each name, and with the name of the
ledger that issued the receipt kept under a name, as long as that ledger is in its place. -/
structure Chronicle where
  run : Observed LedgerEvent Session := ⟨{}, []⟩
  books : String → Books := fun _ => {}
  issuer : String → Option String := fun _ => none

namespace Chronicle

open Function Session

variable {h : Chronicle}

/-- The session that the chronicle is kept of. -/
def session (h : Chronicle) : Session := h.run.state

/-- The books behind a command. A new ledger has new books, and the books of a copy start with those
of the original. -/
def enter (h : Chronicle) : Command → String → Books
  | .record x size id t =>
    if endsWell h.run (.record x size id t) then
      update h.books x ((h.books x).enter (.record size id))
    else h.books
  | .release x t =>
    match h.session.receipt? t with
    | none => h.books
    | some r =>
      if endsWell h.run (.release x t) then update h.books x ((h.books x).enter (.release r))
      else h.books
  | .reset x => update h.books x {}
  | .copy x y => update h.books y (h.books x)

/-- The issuers of receipts without a ledger that is replaced. -/
def revoke (h : Chronicle) (x t : String) : Option String :=
  if h.issuer t = some x then none else h.issuer t

/-- The issuers behind a command. -/
def assign (h : Chronicle) : Command → String → Option String
  | .record x size id t =>
    if endsWell h.run (.record x size id t) then update h.issuer t (some x) else h.issuer
  | .release _ t => update h.issuer t none
  | .reset x | .copy _ x => h.revoke x

/-- The chronicle behind a command. -/
def next (h : Chronicle) (c : Command) : Chronicle := ⟨behind h.run c, h.enter c, h.assign c⟩

/-- The chronicle of a run of commands. -/
def after (commands : List Command) : Chronicle := commands.foldl next {}

theorem after_concat (commands : List Command) (c : Command) :
    after (commands ++ [c]) = (after commands).next c := by
  rw [after, List.foldl_append]
  rfl

theorem run_after (commands : List Command) : (after commands).run = Session.run commands := by
  induction commands using List.reverseRecOn with
  | nil => rfl
  | append_singleton commands c ih =>
    rw [after_concat, run_concat, ← ih]
    rfl

/-- **Sound chronicles.** What a chronicle has under the name of a ledger are the books that are
kept of this ledger. -/
def Sound (h : Chronicle) : Prop := ∀ x, Books.Kept (h.session.ledger x) (h.books x)

/-- **Moves.** What a command does to a chronicle, in each of the ways in which it can end. -/
inductive Move (h : Chronicle) : Command → Chronicle → Prop
  /-- The receipt that had the name before is lost, if there was one. -/
  | recorded {x t : String} {size : Nat} {id : Int}
    (hd : (Dealing.record size id).Admitted (h.session.ledger x)) (events : List LedgerEvent) :
    Move h (.record x size id t)
      ⟨⟨(h.session.setLedger x ((Dealing.record size id).effect (h.session.ledger x))).keep t
          ⟨id, size⟩, events⟩,
        update h.books x ((h.books x).enter (.record size id)), update h.issuer t (some x)⟩
  /-- The total would not fit. -/
  | stopped {x t : String} {size : Nat} {id : Int}
    (hd : ¬ (Dealing.record size id).Admitted (h.session.ledger x)) (events : List LedgerEvent) :
    Move h (.record x size id t)
      ⟨⟨h.session.setLedger x (h.session.ledger x), events⟩, h.books, h.issuer⟩
  /-- The ledger need not be the one that issued the receipt. -/
  | released {x t : String} {r : Receipt} (ht : h.session.receipt? t = some r)
    (hd : (Dealing.release r).Admitted (h.session.ledger x)) (events : List LedgerEvent) :
    Move h (.release x t)
      ⟨⟨(h.session.setLedger x ((Dealing.release r).effect (h.session.ledger x))).forget t, events⟩,
        update h.books x ((h.books x).enter (.release r)), update h.issuer t none⟩
  /-- The receipt is used up all the same. -/
  | refused {x t : String} {r : Receipt} (ht : h.session.receipt? t = some r)
    (hd : ¬ (Dealing.release r).Admitted (h.session.ledger x)) (events : List LedgerEvent) :
    Move h (.release x t)
      ⟨⟨(h.session.setLedger x (h.session.ledger x)).forget t, events⟩, h.books,
        update h.issuer t none⟩
  /-- There is nothing to release. -/
  | missing {x t : String} (ht : h.session.receipt? t = none) :
    Move h (.release x t) ⟨h.run, h.books, update h.issuer t none⟩
  /-- The receipts of the old ledger have no issuer any more. -/
  | reset {x : String} (events : List LedgerEvent) :
    Move h (.reset x)
      ⟨⟨h.session.setLedger x .empty, events⟩, update h.books x {}, h.revoke x⟩
  /-- The receipts of the original are not receipts of the copy. -/
  | copied {x y : String} (events : List LedgerEvent) :
    Move h (.copy x y)
      ⟨⟨h.session.setLedger y (h.session.ledger x), events⟩, update h.books y (h.books x),
        h.revoke y⟩

theorem move_next (hs : h.Sound) (c : Command) : Move h c (h.next c) := by
  cases c with
  -- how the call ends says how the command ends, in which session, and that decides what is entered
  | record x size id t =>
    by_cases hd : (Dealing.record size id).Admitted (h.session.ledger x)
    · have hstep : step (.record x size id t) h.run = _ :=
        step_record_of_lt_limit (hs x).balanced hd
      rw [next, behind_of_ok hstep, enter, assign, endsWell_of_ok hstep]
      exact .recorded hd _
    · have hstep : step (.record x size id t) h.run = _ :=
        step_record_of_limit_le (Nat.not_lt.1 hd)
      rw [next, behind_of_error hstep, enter, assign, endsWell_of_error hstep]
      exact .stopped hd _
  | release x t =>
    cases ht : h.session.receipt? t with
    | none =>
      rw [next, behind_of_error (step_release_of_none ht), enter, assign, ht]
      exact .missing ht
    | some r =>
      by_cases hd : (Dealing.release r).Admitted (h.session.ledger x)
      · have hstep : step (.release x t) h.run = _ := step_release_of_le ht (hs x).balanced hd
        rw [next, behind_of_ok hstep, enter, assign, ht, endsWell_of_ok hstep]
        exact .released ht hd _
      · have hstep : step (.release x t) h.run = _ := step_release_of_lt ht (Nat.not_le.1 hd)
        rw [next, behind_of_error hstep, enter, assign, ht, endsWell_of_error hstep]
        exact .refused ht hd _
  | reset x => exact .reset _
  | copy x y => exact .copied _

theorem Sound.setLedger (hs : h.Sound) {l : Ledger} {b : Books} (hb : Books.Kept l b)
    (x y : String) : Books.Kept ((h.session.setLedger x l).ledger y) (update h.books x b y) := by
  rw [ledger_setLedger]
  -- one ledger is replaced together with its books
  by_cases hy : y = x
  · subst hy
    rw [update_self, update_self]
    exact hb
  · rw [update_of_ne hy, update_of_ne hy]
    exact hs y

theorem Sound.setLedger_self (hs : h.Sound) (x y : String) :
    Books.Kept ((h.session.setLedger x (h.session.ledger x)).ledger y) (h.books y) := by
  rw [ledger_setLedger, update_eq_self]
  exact hs y

theorem Sound.move {h' : Chronicle} {c : Command} (hs : h.Sound) (hm : Move h c h') : h'.Sound := by
  intro y
  -- what is entered is what the ledger has gone through
  cases hm with
  | recorded hd => exact hs.setLedger ((hs _).enter hd) _ y
  | stopped => exact hs.setLedger_self _ y
  | released _ hd => exact hs.setLedger ((hs _).enter hd) _ y
  | refused => exact hs.setLedger_self _ y
  | missing => exact hs y
  | reset => exact hs.setLedger .new _ y
  | copied => exact hs.setLedger (hs _) _ y

/-- Chronicles are sound, whatever was commanded. -/
theorem sound_after (commands : List Command) : (after commands).Sound := by
  -- on the last command, from a chronicle whose books are kept
  induction commands using List.reverseRecOn with
  | nil => exact fun _ => .new
  | append_singleton commands c ih =>
    rw [after_concat]
    exact ih.move (move_next ih c)

end Chronicle

/-! ### Ledgers of a session -/

theorem Session.reachable_ledger (commands : List Command) (x : String) :
    ((Session.run commands).state.ledger x).Reachable := by
  rw [← Chronicle.run_after]
  exact (Chronicle.sound_after commands x).reachable

/-- **A ledger keeps its balance.** In every ledger that was reached by recordings and releases, of
whatever receipts, and so in every ledger of a session, copies included, the total is the sum of the
balances. A recording is stopped if and only if the total would not fit. A release is refused if and
only if the receipt exceeds what its id has outstanding. Neither leaves anything changed behind, and
otherwise the total and the balance of the one id are changed by the size. -/
theorem reachable_ledgers_balance :
    (∀ commands x, ((Session.run commands).state.ledger x).Reachable) ∧
    ∀ l : Ledger, l.Reachable →
      l.total = (l.accounts.entries.map Prod.snd).sum ∧ l.total < Size.limit ∧
      (∀ size id events,
        ((∃ failure s, Ledger.record size id ⟨l, events⟩ = .error failure s) ↔
          Size.limit ≤ l.total + size) ∧
        (Size.limit ≤ l.total + size →
          Ledger.record size id ⟨l, events⟩ = .error (.fault .addOverflow) ⟨l, events⟩) ∧
        (l.total + size < Size.limit → ∃ l' : Ledger, l'.Exceeds l size id ∧
          Ledger.record size id ⟨l, events⟩ =
            .ok ⟨id, size⟩ ⟨l', events ++ [.recorded id size l'.total]⟩)) ∧
      ∀ r events,
        ((∃ s, Ledger.release r ⟨l, events⟩ =
            .error (.refused (.release r.id r.size (l.outstanding r.id))) s) ↔
          l.outstanding r.id < r.size) ∧
        (l.outstanding r.id < r.size →
          Ledger.release r ⟨l, events⟩ =
            .error (.refused (.release r.id r.size (l.outstanding r.id)))
              ⟨l, events ++ [.overreleased r.id r.size (l.outstanding r.id)]⟩) ∧
        (r.size ≤ l.outstanding r.id → ∃ l' : Ledger, l.Exceeds l' r.size r.id ∧
          Ledger.release r ⟨l, events⟩ =
            .ok () ⟨l', events ++ [.released r.id r.size l'.total]⟩) := by
  refine ⟨Session.reachable_ledger, fun l hl => ?_⟩
  have hbal := hl.balanced
  refine ⟨hbal.total_eq, hbal.total_lt, fun size id events => ?_, fun r events => ?_⟩
  -- for a recording: the cause of a stop, its ending, and the other ending
  · refine ⟨⟨?_, fun hle => ⟨_, _, Ledger.record_of_limit_le hle events⟩⟩,
      fun hle => Ledger.record_of_limit_le hle events,
      fun hlt => ⟨_, Ledger.exceeds_plus l size id, Ledger.record_of_lt_limit hbal hlt events⟩⟩
    rintro ⟨failure, s, herror⟩
    exact Ledger.limit_le_of_record_eq_error hbal herror
  -- for a release, the same three
  · refine ⟨⟨?_, fun hlt => ⟨_, Ledger.release_of_lt hlt events⟩⟩,
      fun hlt => Ledger.release_of_lt hlt events,
      fun hle => ⟨_, Ledger.exceeds_minus hbal hle, Ledger.release_of_le hbal hle events⟩⟩
    rintro ⟨s, herror⟩
    exact Ledger.outstanding_lt_of_release_eq_error hbal herror

/-- Eight bytes under one id. -/
theorem reachable_ledgers_balance_single :
    ∃ l : Ledger, l.Reachable ∧ l.total = 8 ∧ l.outstanding 1 = 8 ∧
      Ledger.record (Size.limit - 8) 2 ⟨l, []⟩ = .error (.fault .addOverflow) ⟨l, []⟩ ∧
      Ledger.release ⟨1, 16⟩ ⟨l, []⟩ =
        .error (.refused (.release 1 16 8)) ⟨l, [.overreleased 1 16 8]⟩ ∧
      ∃ l' : Ledger, l.Exceeds l' 5 1 ∧
        Ledger.release ⟨1, 5⟩ ⟨l, []⟩ = .ok () ⟨l', [.released 1 5 l'.total]⟩ := by
  have hl : ((Dealing.record 8 1).behind ⟨.empty, []⟩).state.Reachable := .call .new _ _
  obtain ⟨-, hbalance⟩ := reachable_ledgers_balance
  obtain ⟨-, -, hrecord, hrelease⟩ := hbalance _ hl
  obtain ⟨-, hstopped, -⟩ := hrecord (Size.limit - 8) 2 []
  obtain ⟨-, hrefused, -⟩ := hrelease ⟨1, 16⟩ []
  obtain ⟨-, -, haccepted⟩ := hrelease ⟨1, 5⟩ []
  exact ⟨_, hl, by decide, by decide, hstopped (by decide), hrefused (by decide),
    haccepted (by decide)⟩

end DenseKron
