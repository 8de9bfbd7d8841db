import DenseKron.Checked
import DenseKron.Proofs.Stores

/-!
# What a checked product looks at

What a checked product can be refused for is a list of **grounds**, in the order in which they are
looked at: an operand's entries cannot be counted, its buffer is too short for them, the product
cannot be counted, the destination is too short for it (`Ground.product`, `Ground.identityProduct`).
Each ground is a condition on exact numbers, and comes with the event that reports it; the event
determines the refusal (`CheckEvent.error`).

A checked product is a `screen` for its grounds with a kernel behind it (`product_eq_screen` and its
siblings). The first ground that holds ends the request, in the buffer that it came with and with
one more event (`screen_of_first_eq_some`). A kernel is reached only if none holds, and then
everything is up to the kernel (`screen_bind_guarded_eq_fault_iff`).
-/

namespace DenseKron

/-- The refusal that an event announces. -/
def CheckEvent.error : CheckEvent → Error
  | undersized operand required actual => .buffer operand required actual
  | uncountable => .invalid .uncountable

theorem CheckEvent.level_entry (event : CheckEvent) : event.entry.level = .debug := by
  cases event with
  | undersized operand required actual => rfl
  | uncountable => rfl

/-! ### Grounds for a refusal -/

/-- **Ground for a refusal.** Whether it holds, and the event that reports it. -/
structure Ground where
  holds : Bool
  event : CheckEvent
  deriving DecidableEq, Repr

namespace Ground

variable {α : Type} {grounds grounds' : List Ground}

/-- A count that is no machine size. -/
def uncountable (count : Nat) : Ground := ⟨Size.limit ≤ count, .uncountable⟩

/-- A buffer that is too short. -/
def undersized (operand : String) (required actual : Nat) : Ground :=
  ⟨actual < required, .undersized operand required actual⟩

@[simp] theorem holds_uncountable (count : Nat) :
    (uncountable count).holds = decide (Size.limit ≤ count) := rfl

@[simp] theorem holds_undersized (operand : String) (required actual : Nat) :
    (undersized operand required actual).holds = decide (actual < required) := rfl

/-- What an operand can be refused for. -/
def operand (name : String) (a : Operand α) : List Ground :=
  [uncountable (a.rows * a.cols), undersized name (a.rows * a.cols) a.entries.size]

/-- What a destination can be refused for, as one for a product with `rows` rows and `cols`
columns. -/
def destination (rows cols length : Nat) : List Ground :=
  [uncountable rows, uncountable cols, uncountable (rows * cols),
    undersized "dst" (rows * cols) length]

/-- What the product of `a` and `b` in a destination of `length` elements can be refused for. -/
def product (a b : Operand α) (length : Nat) : List Ground :=
  operand "a" a ++ (operand "b" b ++ destination (a.rows * b.rows) (a.cols * b.cols) length)

/-- What the product of `a` and an identity of order `n`, on either side, can be refused for. -/
def identityProduct (a : Operand α) (n length : Nat) : List Ground :=
  operand "a" a ++ destination (a.rows * n) (a.cols * n) length

/-- The ground for the refusal, if there is one. -/
def first (grounds : List Ground) : Option Ground := grounds.find? holds

theorem first_append_eq_none_iff :
    first (grounds ++ grounds') = none ↔ first grounds = none ∧ first grounds' = none := by
  unfold first
  rw [List.find?_append, Option.or_eq_none_iff]

theorem first_operand_eq_none_iff {name : String} {a : Operand α} :
    first (operand name a) = none ↔
      a.rows * a.cols < Size.limit ∧ a.rows * a.cols ≤ a.entries.size := by
  simp [first, operand]

theorem first_destination_eq_none_iff {rows cols length : Nat} :
    first (destination rows cols length) = none ↔
      rows < Size.limit ∧ cols < Size.limit ∧ rows * cols < Size.limit ∧ rows * cols ≤ length := by
  simp [first, destination]

theorem first_product_eq_none_iff {a b : Operand α} {length : Nat} :
    first (product a b length) = none ↔
      (a.rows * a.cols < Size.limit ∧ a.rows * a.cols ≤ a.entries.size) ∧
      (b.rows * b.cols < Size.limit ∧ b.rows * b.cols ≤ b.entries.size) ∧
      a.rows * b.rows < Size.limit ∧ a.cols * b.cols < Size.limit ∧
      a.rows * b.rows * (a.cols * b.cols) < Size.limit ∧
      a.rows * b.rows * (a.cols * b.cols) ≤ length := by
  rw [product, first_append_eq_none_iff, first_append_eq_none_iff, first_operand_eq_none_iff,
    first_operand_eq_none_iff, first_destination_eq_none_iff]

theorem first_identityProduct_eq_none_iff {a : Operand α} {n length : Nat} :
    first (identityProduct a n length) = none ↔
      (a.rows * a.cols < Size.limit ∧ a.rows * a.cols ≤ a.entries.size) ∧
      a.rows * n < Size.limit ∧ a.cols * n < Size.limit ∧
      a.rows * n * (a.cols * n) < Size.limit ∧ a.rows * n * (a.cols * n) ≤ length := by
  rw [identityProduct, first_append_eq_none_iff, first_operand_eq_none_iff,
    first_destination_eq_none_iff]

theorem first_map_uncountable_eq_none_iff {counts : List Nat} :
    first (counts.map uncountable) = none ↔ ∀ count ∈ counts, count < Size.limit := by
  simp [first]

/-- Which one of several counts is no machine size cannot be told from the refusal. -/
theorem event_of_first_map_uncountable_eq_some {counts : List Nat} {g : Ground}
    (h : first (counts.map uncountable) = some g) : g.event = .uncountable := by
  obtain ⟨count, -, rfl⟩ := List.mem_map.1 (List.mem_of_find?_eq_some h)
  rfl

end Ground

open Ground

namespace Checked

open Observing
open EStateM (bind_of_ok bind_of_error bind_congr_run)

variable {α β : Type} {grounds : List Ground} {g : Ground} {s t : Observed CheckEvent (Array α)}

/-! ### Screening -/

/-- **Screen.** Refuses a request for the first of its grounds that holds. -/
def screen : List Ground → Checked α Unit
  | [] => return ()
  | g :: rest => if g.holds then do emit g.event; refuse g.event.error else screen rest

theorem screen_cons_of_holds (h : g.holds = true) (rest : List Ground) :
    (screen (g :: rest) : Checked α Unit) = (do emit g.event; refuse g.event.error) :=
  if_pos h

theorem screen_cons_of_not_holds (h : ¬ g.holds = true) (rest : List Ground) :
    (screen (g :: rest) : Checked α Unit) = screen rest :=
  if_neg h

theorem screen_of_first_eq_some (h : first grounds = some g)
    (s : Observed CheckEvent (Array α)) :
    screen grounds s = .error (.refused g.event.error) ⟨s.state, s.events ++ [g.event]⟩ := by
  unfold first at h
  -- `find?` and `screen` look at the same ground first
  induction grounds with
  | nil => cases h
  | cons g' rest ih =>
    by_cases hg' : g'.holds = true
    · rw [List.find?_cons_of_pos hg'] at h
      cases h
      rw [screen_cons_of_holds hg']
      rfl
    · rw [List.find?_cons_of_neg hg'] at h
      rw [screen_cons_of_not_holds hg']
      exact ih h

theorem screen_of_first_eq_none (h : first grounds = none) (s : Observed CheckEvent (Array α)) :
    screen grounds s = .ok () s := by
  unfold first at h
  -- no ground holds, and each of them is passed
  induction grounds with
  | nil => rfl
  | cons g' rest ih =>
    obtain ⟨hg', hrest⟩ := List.forall_mem_cons.1 (List.find?_eq_none.1 h)
    rw [screen_cons_of_not_holds hg']
    exact ih (List.find?_eq_none.2 hrest)

theorem screen_append (grounds grounds' : List Ground) :
    (screen (grounds ++ grounds') : Checked α Unit) =
      (screen grounds >>= fun _ => screen grounds') := by
  induction grounds with
  | nil => rfl
  | cons g rest ih =>
    rw [List.cons_append]
    by_cases hg : g.holds = true
    -- a refusal ends the sequence, so that what comes behind it is the same nothing on both sides
    · rw [screen_cons_of_holds hg, screen_cons_of_holds hg]
      rfl
    · rw [screen_cons_of_not_holds hg, screen_cons_of_not_holds hg, ih]

/-- What stands behind a screen is run from the state that the screen was given, or not at all. -/
theorem screen_bind_congr {next next' : Unit → Checked α β} (h : next () s = next' () s) :
    (screen grounds >>= next) s = (screen grounds >>= next') s := by
  -- what comes next matters only if nothing is refused
  cases hfirst : first grounds with
  | none =>
    have hscreen := screen_of_first_eq_none hfirst s
    rw [bind_of_ok hscreen, bind_of_ok hscreen, h]
  | some g =>
    have hscreen := screen_of_first_eq_some hfirst s
    rw [bind_of_error hscreen, bind_of_error hscreen]

/-! ### The checks as screens -/

theorem requireLength_eq_screen (operand : String) (required actual : Nat) :
    (requireLength operand required actual : Checked α Unit) =
      screen [undersized operand required actual] := by
  by_cases h : actual < required
  · rw [screen_cons_of_holds (decide_eq_true h), requireLength, if_pos h]
    rfl
  · rw [screen_cons_of_not_holds (by simpa using h), requireLength, if_neg h]
    rfl

/-- Something countable exists exactly if each of the counts on the way to it is a machine size. -/
theorem countable_bind_eq_screen_bind {o : Option β} {x : β} {counts : List Nat}
    (h : o = if ∀ count ∈ counts, count < Size.limit then some x else none)
    (next : β → Checked α Unit) :
    (countable o >>= next) = (screen (counts.map uncountable) >>= fun _ => next x) := by
  funext s
  cases hfirst : first (counts.map uncountable) with
  | none =>
    rw [h, if_pos (first_map_uncountable_eq_none_iff.1 hfirst),
      bind_of_ok (screen_of_first_eq_none hfirst s)]
    rfl
  | some g =>
    -- whichever count it is, its event is that of a shape that does not exist
    have hcounts : ¬ ∀ count ∈ counts, count < Size.limit := by
      rw [← first_map_uncountable_eq_none_iff, hfirst]
      exact Option.some_ne_none g
    rw [h, if_neg hcounts, bind_of_error (screen_of_first_eq_some hfirst s),
      event_of_first_map_uncountable_eq_some hfirst]
    rfl

theorem requireOperand_eq_screen (name : String) (a : Operand α) :
    requireOperand name a = screen (operand name a) := by
  have hcount : Size.mul? a.rows a.cols =
      if ∀ count ∈ [a.rows * a.cols], count < Size.limit then some (a.rows * a.cols) else none := by
    simp [Size.mul?]
  rw [show operand name a = [a.rows * a.cols].map uncountable ++ [undersized name _ _] from rfl,
    screen_append, requireOperand, countable_bind_eq_screen_bind hcount, requireLength_eq_screen]

/-- The product of two shapes is a shape exactly if its three counts are machine sizes. -/
theorem kron?_eq_if (a b : Shape) :
    a.kron? b =
      if ∀ count ∈ [a.rows * b.rows, a.cols * b.cols, a.rows * b.rows * (a.cols * b.cols)],
        count < Size.limit then some ⟨a.rows * b.rows, a.cols * b.cols⟩ else none := by
  have hiff : (∀ count ∈ [a.rows * b.rows, a.cols * b.cols, a.rows * b.rows * (a.cols * b.cols)],
      count < Size.limit) ↔ a.rows * b.rows < Size.limit ∧ a.cols * b.cols < Size.limit ∧
        a.rows * b.rows * (a.cols * b.cols) < Size.limit := by simp
  -- the three counts, one by one
  split
  · next h =>
    obtain ⟨hrows, hcols, hentries⟩ := hiff.1 h
    exact Shape.kron?_eq_some_iff.2 ⟨hrows, hcols, hentries, rfl⟩
  · next h =>
    refine Option.eq_none_iff_forall_ne_some.2 fun _ hshape => h (hiff.2 ?_)
    obtain ⟨hrows, hcols, hentries, -⟩ := Shape.kron?_eq_some_iff.1 hshape
    exact ⟨hrows, hcols, hentries⟩

/-- The length of the destination is that of the buffer in which the check is run. -/
theorem requireDestination_eq_screen (a b : Shape) (s : Observed CheckEvent (Array α)) :
    requireDestination (a.kron? b) s =
      screen (destination (a.rows * b.rows) (a.cols * b.cols) s.state.size) s := by
  rw [show destination (a.rows * b.rows) (a.cols * b.cols) s.state.size =
      [a.rows * b.rows, a.cols * b.cols, a.rows * b.rows * (a.cols * b.cols)].map uncountable ++
        [undersized "dst" _ _] from rfl,
    screen_append, requireDestination, countable_bind_eq_screen_bind (kron?_eq_if a b)]
  -- the counts leave the buffer alone, so that the length read behind them is that of `s`
  refine screen_bind_congr ?_
  rw [← requireLength_eq_screen]
  rfl

/-! ### A screen with a kernel behind it -/

variable {kernel : Write α Unit} {f : Fault}

theorem product_eq_screen [One α] [Mul α] [DecidableEq α] (c : Copier) (a b : Operand α)
    (s : Observed CheckEvent (Array α)) :
    product c a b s =
      (screen (Ground.product a b s.state.size) >>= fun _ =>
        guarded (DenseKron.product c a b)) s := by
  rw [product, requireOperand_eq_screen, requireOperand_eq_screen, Ground.product, screen_append,
    screen_append, bind_assoc, bind_assoc]
  exact screen_bind_congr
    (screen_bind_congr (bind_congr_run (requireDestination_eq_screen a.shape b.shape s) _))

theorem timesIdentity_eq_screen [Zero α] (a : Operand α) (n : Nat)
    (s : Observed CheckEvent (Array α)) :
    timesIdentity a n s =
      (screen (identityProduct a n s.state.size) >>= fun _ =>
        guarded (DenseKron.timesIdentity a n)) s := by
  rw [timesIdentity, requireOperand_eq_screen, identityProduct, screen_append, bind_assoc]
  exact screen_bind_congr
    (bind_congr_run (requireDestination_eq_screen a.shape (.square n) s) _)

theorem identityTimes_eq_screen [Zero α] [One α] [Mul α] [DecidableEq α] (c : Copier)
    (a : Operand α) (n : Nat) (s : Observed CheckEvent (Array α)) :
    identityTimes c a n s =
      (screen (identityProduct a n s.state.size) >>= fun _ =>
        guarded (DenseKron.identityTimes c a n)) s := by
  rw [identityTimes, requireOperand_eq_screen, identityProduct, screen_append, bind_assoc]
  exact screen_bind_congr
    (bind_congr_run (requireDestination_eq_screen a.shape (.square n) s) _)

/-- A screen that passes leaves everything to the kernel. -/
theorem screen_bind_guarded_of_ok (h : first grounds = none) {dst' : Array α}
    (hkernel : kernel s.state = .ok () dst') :
    (screen grounds >>= fun _ => guarded kernel) s = .ok () ⟨dst', s.events⟩ := by
  rw [bind_of_ok (screen_of_first_eq_none h s)]
  exact guarded_of_ok hkernel

/-- Faults come from the kernel, and only behind a screen that passes. -/
theorem screen_bind_guarded_eq_fault_iff :
    (screen grounds >>= fun _ => guarded kernel) s = .error (.fault f) t ↔
      first grounds = none ∧ ∃ dst', kernel s.state = .error f dst' ∧ t = ⟨dst', s.events⟩ := by
  cases hfirst : first grounds with
  -- a refusal is not a fault
  | some g => simp [bind_of_error (screen_of_first_eq_some hfirst s)]
  | none =>
    rw [bind_of_ok (screen_of_first_eq_none hfirst s)]
    cases hkernel : kernel s.state with
    | ok _ dst' => simp [guarded_of_ok hkernel]
    | error f' dst' =>
      rw [guarded_of_error hkernel]
      constructor
      · intro h
        cases h
        exact ⟨rfl, dst', rfl, rfl⟩
      · rintro ⟨-, u, hu, rfl⟩
        cases hu
        rfl

/-- If there is a condition under which the kernel stops behind the screen, at once and with the
fault `f'`, and otherwise it runs to its end, then `f'` is the one fault that there is. -/
theorem eq_fault_iff_of_eq_screen {act : Checked α Unit} {p : Prop} {f' : Fault}
    (hact : act s = (screen grounds >>= fun _ => guarded kernel) s)
    (hstop : first grounds = none → p → kernel s.state = .error f' s.state)
    (hrun : first grounds = none → ¬ p → ∃ dst', kernel s.state = .ok () dst') :
    act s = .error (.fault f) t ↔ first grounds = none ∧ p ∧ f = f' ∧ t = s := by
  rw [hact, screen_bind_guarded_eq_fault_iff]
  refine and_congr_right fun hnone => ?_
  -- the condition decides between a stopped kernel and one that ends well
  by_cases hp : p
  · rw [hstop hnone hp]
    constructor
    · rintro ⟨dst', hkernel, rfl⟩
      cases hkernel
      exact ⟨hp, rfl, rfl⟩
    · rintro ⟨-, rfl, rfl⟩
      exact ⟨t.state, rfl, rfl⟩
  · obtain ⟨dst', hok⟩ := hrun hnone hp
    simp [hok, hp]

end Checked

end DenseKron
