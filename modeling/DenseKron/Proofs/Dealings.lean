import DenseKron.Ledger.Session
import Mathlib.Algebra.BigOperators.Group.List.Basic
import Mathlib.Algebra.Ring.Nat

/-!
# Dealings with a ledger

A ledger keeps its total next to the balances, and both are changed by every call, one after the
other. That the total is the sum of the balances (`Balanced`) is what a ledger starts with, what no
call breaks, and what decides how a call ends:

* no balance exceeds the total, so that a recording whose total fits has a balance that fits;
* a release that its balance covers is covered by the total.

So a call does all of what it says or nothing (`Dealing.call_of_admitted`,
`Dealing.exists_call_of_not_admitted`): it is never stopped between the two changes.

`Books` are the receipts that a ledger issued and took back, as somebody would list them who sees
the calls and how each of them ends. What is left of them is what the ledger has outstanding, under
every id and in total (`Books.Kept.outstanding_eq`, `Books.Kept.total_eq`).
-/

namespace DenseKron

/-! ### Sums of balances -/

namespace Balances

theorem lookup_eq_none_of_lt {entries : List (Int × Nat)} {id : Int}
    (h : ∀ e ∈ entries, id < e.1) : entries.lookup id = none := by
  rw [List.lookup_eq_none_iff]
  intro e he
  exact bne_iff_ne.2 (Int.ne_of_lt (h e he))

/-- Setting a balance changes the sum by as much as the balance. -/
theorem sum_set {entries : List (Int × Nat)} (hasc : Ascending entries) (id : Int) (bytes : Nat) :
    ((set id bytes entries).map Prod.snd).sum + (entries.lookup id).getD 0 =
      (entries.map Prod.snd).sum + bytes := by
  -- on the entries, from the smallest id on
  induction entries with
  | nil => simp [set]
  | cons e rest ih =>
    obtain ⟨other, balance⟩ := e
    obtain ⟨hbelow, hrest⟩ := List.pairwise_cons.1 hasc
    have ih := ih hrest
    by_cases hlt : id < other
    -- the ids ascend, so that none of them is the new one
    · have hnone : ((other, balance) :: rest).lookup id = none := by
        refine lookup_eq_none_of_lt fun x hx => ?_
        rcases List.mem_cons.1 hx with rfl | hx
        · exact hlt
        · exact Int.lt_trans hlt (hbelow x hx)
      rw [set, if_pos hlt, hnone, List.map_cons, List.sum_cons, Option.getD_none]
      omega
    · by_cases heq : id = other
      · subst heq
        rw [set, if_neg hlt, if_pos rfl, List.lookup_cons_self, List.map_cons, List.map_cons,
          List.sum_cons, List.sum_cons, Option.getD_some]
        omega
      · have hlookup : ((other, balance) :: rest).lookup id = rest.lookup id := by
          rw [List.lookup_cons, beq_eq_false_iff_ne.2 heq]
        rw [set, if_neg hlt, if_neg heq, hlookup, List.map_cons, List.map_cons, List.sum_cons,
          List.sum_cons]
        omega

theorem lookup_le_sum (entries : List (Int × Nat)) (id : Int) :
    (entries.lookup id).getD 0 ≤ (entries.map Prod.snd).sum := by
  induction entries with
  | nil => exact Nat.le_refl 0
  | cons e rest ih =>
    obtain ⟨other, balance⟩ := e
    rw [List.lookup_cons, List.map_cons, List.sum_cons]
    -- the balance is that of the first entry, or of one behind it
    cases id == other with
    | true => exact Nat.le_add_right balance _
    | false => exact Nat.le_add_left_of_le ih

end Balances

namespace Accounts

/-- The sum of all balances. -/
def sum (a : Accounts) : Nat := (a.entries.map Prod.snd).sum

theorem sum_set (a : Accounts) (id : Int) (bytes : Nat) :
    (a.set id bytes).sum + a.balance id = a.sum + bytes :=
  Balances.sum_set a.ascending id bytes

theorem balance_le_sum (a : Accounts) (id : Int) : a.balance id ≤ a.sum :=
  Balances.lookup_le_sum a.entries id

end Accounts

/-! ### Ledgers that balance -/

namespace Ledger

open Observing
open EStateM (bind_of_ok bind_of_error)

variable {l : Ledger} {size : Nat} {id : Int} {receipt : Receipt}

/-- **Balance.** The total is the sum of the balances, and a machine size. -/
structure Balanced (l : Ledger) : Prop where
  total_eq : l.total = l.accounts.sum
  total_lt : l.total < Size.limit

theorem balanced_empty : Balanced .empty := ⟨rfl, by decide⟩

theorem Balanced.outstanding_le (h : Balanced l) (id : Int) : l.outstanding id ≤ l.total :=
  h.total_eq ▸ l.accounts.balance_le_sum id

/-- A ledger with `size` more bytes under `id`. -/
def plus (l : Ledger) (size : Nat) (id : Int) : Ledger :=
  ⟨l.total + size, l.accounts.set id (l.outstanding id + size)⟩

/-- A ledger without the bytes of a receipt. -/
def minus (l : Ledger) (receipt : Receipt) : Ledger :=
  ⟨l.total - receipt.size, l.accounts.set receipt.id (l.outstanding receipt.id - receipt.size)⟩

@[simp] theorem outstanding_plus (l : Ledger) (size : Nat) (id other : Int) :
    (l.plus size id).outstanding other =
      if other = id then l.outstanding id + size else l.outstanding other :=
  l.accounts.balance_set id other _

@[simp] theorem outstanding_minus (l : Ledger) (receipt : Receipt) (other : Int) :
    (l.minus receipt).outstanding other =
      if other = receipt.id then l.outstanding receipt.id - receipt.size else l.outstanding other :=
  l.accounts.balance_set receipt.id other _

/-- **Excess.** A ledger has `size` bytes more under `id` than another, and no other bytes. -/
structure Exceeds (l' l : Ledger) (size : Nat) (id : Int) : Prop where
  total_eq : l'.total = l.total + size
  outstanding_eq : l'.outstanding id = l.outstanding id + size
  outstanding_of_ne : ∀ other, other ≠ id → l'.outstanding other = l.outstanding other

theorem exceeds_plus (l : Ledger) (size : Nat) (id : Int) : (l.plus size id).Exceeds l size id where
  total_eq := rfl
  outstanding_eq := by rw [outstanding_plus, if_pos rfl]
  outstanding_of_ne other hne := by rw [outstanding_plus, if_neg hne]

theorem exceeds_minus (h : Balanced l) (hle : receipt.size ≤ l.outstanding receipt.id) :
    l.Exceeds (l.minus receipt) receipt.size receipt.id where
  total_eq := (Nat.sub_add_cancel (Nat.le_trans hle (h.outstanding_le receipt.id))).symm
  outstanding_eq := by rw [outstanding_minus, if_pos rfl, Nat.sub_add_cancel hle]
  outstanding_of_ne other hne := by rw [outstanding_minus, if_neg hne]

/-- A ledger balances again when its total has changed by as much as one of its balances. -/
theorem Balanced.set (h : Balanced l) {total bytes : Nat}
    (htotal : total + l.outstanding id = l.total + bytes) (hlt : total < Size.limit) :
    Balanced ⟨total, l.accounts.set id bytes⟩ where
  total_eq := by
    -- the sum of the balances has changed by as much
    have hsum : (l.accounts.set id bytes).sum + l.outstanding id = _ := l.accounts.sum_set id bytes
    rw [← h.total_eq, ← htotal] at hsum
    exact (Nat.add_right_cancel hsum).symm
  total_lt := hlt

theorem Balanced.plus (h : Balanced l) (hlt : l.total + size < Size.limit) :
    Balanced (l.plus size id) :=
  h.set (by omega) hlt

theorem Balanced.minus (h : Balanced l) (hle : receipt.size ≤ l.outstanding receipt.id) :
    Balanced (l.minus receipt) := by
  have hcovered := h.outstanding_le receipt.id
  have hlt := h.total_lt
  exact h.set (by omega) (by omega)

/-! ### How a call ends -/

theorem record_of_limit_le (hle : Size.limit ≤ l.total + size) (events : List LedgerEvent) :
    record size id ⟨l, events⟩ = .error (.fault .addOverflow) ⟨l, events⟩ := by
  have htotal : Size.add l.total size = .error .addOverflow := if_neg (Nat.not_lt.2 hle)
  rw [record, bind_of_ok (state_apply _), htotal]
  exact bind_of_error (guarded_of_error (Guarded.check_error _ _)) _

theorem record_of_lt_limit (h : Balanced l) (hlt : l.total + size < Size.limit)
    (events : List LedgerEvent) :
    record size id ⟨l, events⟩ =
      .ok ⟨id, size⟩ ⟨l.plus size id, events ++ [.recorded id size (l.total + size)]⟩ := by
  have htotal : Size.add l.total size = .ok (l.total + size) := Size.add_eq_ok_iff.2 ⟨hlt, rfl⟩
  -- no balance exceeds the total
  have hbalance : Size.add (l.outstanding id) size = .ok (l.outstanding id + size) :=
    Size.add_eq_ok_iff.2
      ⟨Nat.lt_of_le_of_lt (Nat.add_le_add_right (h.outstanding_le id) size) hlt, rfl⟩
  rw [record, bind_of_ok (state_apply _), htotal,
    bind_of_ok (guarded_of_ok (Guarded.check_ok _ _)), bind_of_ok (setState_apply _ _), hbalance,
    bind_of_ok (guarded_of_ok (Guarded.check_ok _ _)), bind_of_ok (setState_apply _ _),
    bind_of_ok (emit_apply _ _)]
  rfl

theorem release_of_lt (hlt : l.outstanding receipt.id < receipt.size) (events : List LedgerEvent) :
    release receipt ⟨l, events⟩ =
      .error (.refused (.release receipt.id receipt.size (l.outstanding receipt.id)))
        ⟨l, events ++ [.overreleased receipt.id receipt.size (l.outstanding receipt.id)]⟩ := by
  rw [release, bind_of_ok (state_apply _), if_pos hlt, bind_of_ok (emit_apply _ _)]
  rfl

theorem release_of_le (h : Balanced l) (hle : receipt.size ≤ l.outstanding receipt.id)
    (events : List LedgerEvent) :
    release receipt ⟨l, events⟩ =
      .ok () ⟨l.minus receipt,
        events ++ [.released receipt.id receipt.size (l.total - receipt.size)]⟩ := by
  -- what the balance covers is covered by the total
  have htotal : Size.sub l.total receipt.size = .ok (l.total - receipt.size) :=
    Size.sub_eq_ok_iff.2 ⟨Nat.le_trans hle (h.outstanding_le receipt.id), rfl⟩
  rw [release, bind_of_ok (state_apply _), if_neg (Nat.not_lt.2 hle),
    bind_of_ok (setState_apply _ _), htotal, bind_of_ok (guarded_of_ok (Guarded.check_ok _ _)),
    bind_of_ok (setState_apply _ _), emit_apply]
  rfl

section Errors

variable {failure : Failure} {events : List LedgerEvent} {s : Observed LedgerEvent Ledger}

/-- A recording that does not end well was one too large for the total. -/
theorem limit_le_of_record_eq_error (h : Balanced l)
    (herror : record size id ⟨l, events⟩ = .error failure s) : Size.limit ≤ l.total + size := by
  by_contra hlt
  rw [record_of_lt_limit h (Nat.not_le.1 hlt)] at herror
  cases herror

/-- A release that does not end well was one of more than is outstanding. -/
theorem outstanding_lt_of_release_eq_error (h : Balanced l)
    (herror : release receipt ⟨l, events⟩ = .error failure s) :
    l.outstanding receipt.id < receipt.size := by
  by_contra hle
  rw [release_of_le h (Nat.not_lt.1 hle)] at herror
  cases herror

end Errors

end Ledger

/-! ### Calls -/

/-- **Dealing.** A call that changes a ledger, with a receipt from wherever it may come. -/
inductive Dealing where
  | record (size : Nat) (id : Int)
  | release (receipt : Receipt)
  deriving DecidableEq, Repr

namespace Dealing

variable {l : Ledger} {d : Dealing}

/-- The call itself. -/
def call : Dealing → Bookkeeping Unit
  | record size id => do let _ ← Ledger.record size id
  | release receipt => Ledger.release receipt

/-- Whether a ledger goes along with a call. -/
def Admitted (l : Ledger) : Dealing → Prop
  | record size _ => l.total + size < Size.limit
  | release receipt => receipt.size ≤ l.outstanding receipt.id

/-- The ledger behind an admitted call. -/
def effect (l : Ledger) : Dealing → Ledger
  | record size id => l.plus size id
  | release receipt => l.minus receipt

/-- The event of an admitted call. -/
def event (l : Ledger) : Dealing → LedgerEvent
  | record size id => .recorded id size (l.total + size)
  | release receipt => .released receipt.id receipt.size (l.total - receipt.size)

theorem balanced_effect (h : l.Balanced) (hd : d.Admitted l) : (d.effect l).Balanced := by
  cases d with
  | record size id => exact h.plus hd
  | release receipt => exact h.minus hd

/-- An admitted call does all of what it says. -/
theorem call_of_admitted (h : l.Balanced) (hd : d.Admitted l) (events : List LedgerEvent) :
    d.call ⟨l, events⟩ = .ok () ⟨d.effect l, events ++ [d.event l]⟩ := by
  cases d with
  | record size id =>
    rw [call, EStateM.bind_of_ok (Ledger.record_of_lt_limit h hd events)]
    rfl
  | release receipt => exact Ledger.release_of_le h hd events

/-- A call that is not admitted does nothing. -/
theorem exists_call_of_not_admitted (hd : ¬ d.Admitted l) (events : List LedgerEvent) :
    ∃ failure events', d.call ⟨l, events⟩ = .error failure ⟨l, events'⟩ := by
  cases d with
  | record size id =>
    exact ⟨_, _, EStateM.bind_of_error (Ledger.record_of_limit_le (Nat.not_lt.1 hd) events) _⟩
  | release receipt => exact ⟨_, _, Ledger.release_of_lt (Nat.not_le.1 hd) events⟩

/-! ### Calls, one after another -/

variable {s : Observed LedgerEvent Ledger}

/-- The ledger and its journal behind a call, however the call ends. -/
def behind (s : Observed LedgerEvent Ledger) (d : Dealing) : Observed LedgerEvent Ledger :=
  match d.call s with
  | .ok _ after => after
  | .error _ after => after

/-- The ledger and its journal behind a run of calls, however they end. -/
def run (s : Observed LedgerEvent Ledger) (ds : List Dealing) : Observed LedgerEvent Ledger :=
  ds.foldl behind s

theorem run_append (s : Observed LedgerEvent Ledger) (ds ds' : List Dealing) :
    run s (ds ++ ds') = run (run s ds) ds' :=
  List.foldl_append ..

theorem behind_of_admitted (h : s.state.Balanced) (hd : d.Admitted s.state) :
    d.behind s = ⟨d.effect s.state, s.events ++ [d.event s.state]⟩ := by
  have hcall : d.call s = _ := call_of_admitted h hd s.events
  rw [behind, hcall]

/-- The journal may have grown by a warning, but the ledger is as it was. -/
theorem state_behind_of_not_admitted (hd : ¬ d.Admitted s.state) :
    (d.behind s).state = s.state := by
  -- what the call leaves is the ledger that it found
  obtain ⟨failure, events', hcall⟩ := exists_call_of_not_admitted hd s.events
  have hcall : d.call s = _ := hcall
  rw [behind, hcall]

theorem balanced_behind (h : s.state.Balanced) (d : Dealing) : (d.behind s).state.Balanced := by
  -- a call goes through, or leaves the ledger alone
  by_cases hd : d.Admitted s.state
  · rw [behind_of_admitted h hd]
    exact balanced_effect h hd
  · rw [state_behind_of_not_admitted hd]
    exact h

end Dealing

/-! ### Reachable ledgers -/

namespace Ledger

/-- **Reachable ledgers.** A new ledger, and what any call leaves of a reachable one. -/
inductive Reachable : Ledger → Prop
  | new : Reachable .empty
  | call {l : Ledger} (h : Reachable l) (d : Dealing) (events : List LedgerEvent) :
    Reachable (d.behind ⟨l, events⟩).state

theorem Reachable.balanced {l : Ledger} (h : l.Reachable) : l.Balanced := by
  -- on the calls that have led there
  induction h with
  | new => exact balanced_empty
  | @call l _ d events ih => exact Dealing.balanced_behind (s := ⟨l, events⟩) ih d

end Ledger

/-! ### Books -/

namespace Receipt

/-- The bytes of receipts, over all ids. -/
def bytes (receipts : List Receipt) : Nat := (receipts.map size).sum

/-- The bytes of the receipts under one id. -/
def bytesUnder (id : Int) (receipts : List Receipt) : Nat :=
  bytes (receipts.filter fun r => r.id = id)

theorem bytes_concat (receipts : List Receipt) (r : Receipt) :
    bytes (receipts ++ [r]) = bytes receipts + r.size := by
  rw [bytes, List.map_append, List.sum_append, List.map_singleton, List.sum_singleton]
  rfl

theorem bytesUnder_concat (id : Int) (receipts : List Receipt) (r : Receipt) :
    bytesUnder id (receipts ++ [r]) =
      bytesUnder id receipts + if id = r.id then r.size else 0 := by
  rw [bytesUnder, List.filter_append, List.filter_singleton]
  by_cases h : r.id = id
  · rw [if_pos h.symm]
    simp only [h, decide_true, cond_true]
    exact bytes_concat _ r
  · rw [if_neg (Ne.symm h)]
    simp only [h, decide_false, cond_false, List.append_nil, Nat.add_zero]
    rfl

end Receipt

/-- **Books.** The receipts that a ledger issued, and those that it took back. -/
structure Books where
  issued : List Receipt := []
  returned : List Receipt := []
  deriving DecidableEq, Repr

namespace Books

variable {b : Books} {l : Ledger}

/-- Enters a call that ended well. -/
def enter (b : Books) : Dealing → Books
  | .record size id => { b with issued := b.issued ++ [⟨id, size⟩] }
  | .release receipt => { b with returned := b.returned ++ [receipt] }

/-- **Books of a ledger.** They are empty for a new ledger, and every call that is admitted is
entered. -/
inductive Kept : Ledger → Books → Prop
  | new : Kept .empty {}
  | enter {l : Ledger} {b : Books} (h : Kept l b) {d : Dealing} (hd : d.Admitted l) :
    Kept (d.effect l) (b.enter d)

theorem Kept.reachable (h : Kept l b) : l.Reachable := by
  -- an entry in the books is a call that went through
  induction h with
  | new => exact .new
  | @enter l b _ d hd ih =>
    have hbehind := Dealing.behind_of_admitted (s := ⟨l, []⟩) ih.balanced hd
    have hreachable := ih.call d []
    rw [hbehind] at hreachable
    exact hreachable

theorem Kept.balanced (h : Kept l b) : l.Balanced := h.reachable.balanced

/-- What a ledger has outstanding under an id is what it issued without what it took back. -/
theorem Kept.outstanding_eq (h : Kept l b) (id : Int) :
    l.outstanding id + Receipt.bytesUnder id b.returned = Receipt.bytesUnder id b.issued := by
  -- the induction is on the entries, each of which changes one side or moves bytes on the left one
  induction h with
  | new => rfl
  | @enter l b h d hd ih =>
    cases d with
    | record size other =>
      change (l.plus size other).outstanding id + Receipt.bytesUnder id b.returned =
        Receipt.bytesUnder id (b.issued ++ [⟨other, size⟩])
      simp only [Ledger.outstanding_plus, Receipt.bytesUnder_concat]
      by_cases heq : id = other
      · subst heq
        rw [if_pos rfl, if_pos rfl]
        omega
      · rw [if_neg heq, if_neg heq]
        omega
    | release receipt =>
      have hle : receipt.size ≤ l.outstanding receipt.id := hd
      change (l.minus receipt).outstanding id + Receipt.bytesUnder id (b.returned ++ [receipt]) =
        Receipt.bytesUnder id b.issued
      rw [Ledger.outstanding_minus, Receipt.bytesUnder_concat]
      by_cases heq : id = receipt.id
      · subst heq
        rw [if_pos rfl, if_pos rfl]
        omega
      · rw [if_neg heq, if_neg heq]
        omega

/-- The total of a ledger is what it issued without what it took back. -/
theorem Kept.total_eq (h : Kept l b) :
    l.total + Receipt.bytes b.returned = Receipt.bytes b.issued := by
  -- the same on the totals, where a release is covered by what balances
  induction h with
  | new => rfl
  | @enter l b h d hd ih =>
    cases d with
    | record size id =>
      change l.total + size + Receipt.bytes b.returned = Receipt.bytes (b.issued ++ [⟨id, size⟩])
      simp only [Receipt.bytes_concat]
      omega
    | release receipt =>
      have hle : receipt.size ≤ l.total :=
        Nat.le_trans hd (h.balanced.outstanding_le receipt.id)
      change l.total - receipt.size + Receipt.bytes (b.returned ++ [receipt]) =
        Receipt.bytes b.issued
      rw [Receipt.bytes_concat]
      omega

end Books

end DenseKron
