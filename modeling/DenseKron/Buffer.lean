import DenseKron.Fault

/-!
# Writing into a caller's buffer

A kernel never builds its result: it writes into a buffer that the caller owns. Two questions
about such a kernel are answered by its type here.

* *What is in the buffer if the kernel stops?* A kernel is an `EStateM Fault (Array α)` program
  (`Write`), whose result carries the buffer on both sides: `.ok () dst` after a full run, and
  `.error f dst` with whatever had been written before the fault `f`. That a faulty call writes
  nothing is thus a statement about the kernel and not a convention of the model.
* *Which elements does a step touch?* A step that writes is a list of `Action`s. Each is a
  `Store`, one element and the index it goes to, or the fault that stands in its place. The
  write set of a step is the list of its indices, and `Write.perform` is the only function that
  changes a buffer.

Buffers are used linearly, so that every store happens in place.

Three facts about sequences hold for programs on any state and for failures of any kind, and come
first.
-/

namespace EStateM

variable {φ σ β γ : Type} {act act' : EStateM φ σ β} {s s' t : σ}

/-- A sequence whose first part ends well goes on from the state that this part leaves. -/
theorem bind_of_ok {x : β} (h : act s = .ok x t) (next : β → EStateM φ σ γ) :
    (act >>= next) s = next x t := by
  change EStateM.bind act next s = next x t
  rw [EStateM.bind, h]

/-- A failure ends the sequence in the state in which it was met. -/
theorem bind_of_error {failure : φ} (h : act s = .error failure t) (next : β → EStateM φ σ γ) :
    (act >>= next) s = .error failure t := by
  change EStateM.bind act next s = .error failure t
  rw [EStateM.bind, h]

/-- A sequence depends on the run of its first part alone. -/
theorem bind_congr_run (h : act s = act' s') (next : β → EStateM φ σ γ) :
    (act >>= next) s = (act' >>= next) s' := by
  change EStateM.bind act next s = EStateM.bind act' next s'
  rw [EStateM.bind, EStateM.bind, h]

end EStateM

namespace DenseKron

/-! ### Guarded programs -/

/-- **Guarded programs.** A computation on a state that a fault can stop; the state reached is
kept either way. -/
abbrev Guarded (σ : Type) : Type → Type := EStateM Fault σ

/-- **Write programs.** A guarded computation on a buffer. -/
abbrev Write (α : Type) : Type → Type := Guarded (Array α)

/-- Runs end the same way or not, which can be told by looking. -/
instance instDecidableEqResult {φ σ β : Type} [DecidableEq φ] [DecidableEq σ] [DecidableEq β] :
    DecidableEq (EStateM.Result φ σ β)
  | .ok x s, .ok y t => decidable_of_iff (x = y ∧ s = t) (by simp)
  | .error f s, .error g t => decidable_of_iff (f = g ∧ s = t) (by simp)
  | .ok .., .error .. => isFalse nofun
  | .error .., .ok .. => isFalse nofun

namespace Guarded

variable {σ β ι : Type}

/-- A guard: goes on with the value of `e` or stops with its fault, in the state it found. -/
def check (e : Except Fault β) : Guarded σ β := fun s =>
  match e with
  | .ok x => .ok x s
  | .error f => .error f s

/-- Pure size arithmetic stands inside a guarded program as a guard. -/
instance : MonadLift (Except Fault) (EStateM Fault σ) := ⟨check⟩

@[simp] theorem check_ok (x : β) (s : σ) : (check (.ok x) : Guarded σ β) s = .ok x s := rfl

@[simp] theorem check_error (f : Fault) (s : σ) :
    (check (.error f) : Guarded σ β) s = .error f s := rfl

@[simp] theorem liftM_ok (x : β) (s : σ) :
    (liftM (Except.ok x : Except Fault β) : Guarded σ β) s = .ok x s := rfl

@[simp] theorem liftM_error (f : Fault) (s : σ) :
    (liftM (Except.error f : Except Fault β) : Guarded σ β) s = .error f s := rfl

/-- **Each.** Runs one program for every member of a list, in order, up to the first fault. -/
def each (act : ι → Guarded σ Unit) : List ι → Guarded σ Unit
  | [], s => .ok () s
  | i :: rest, s =>
    match act i s with
    | .ok () s' => each act rest s'
    | .error f s' => .error f s'

@[simp] theorem each_nil (act : ι → Guarded σ Unit) (s : σ) : each act [] s = .ok () s := rfl

theorem each_cons (act : ι → Guarded σ Unit) (i : ι) (rest : List ι) (s : σ) :
    each act (i :: rest) s = (act i >>= fun _ => each act rest) s := by
  cases h : act i s <;> simp [each, bind, EStateM.bind, h]

end Guarded

/-! ### Stores -/

/-- **Store.** One element on its way into a buffer. -/
structure Store (α : Type) where
  index : Nat
  value : α
  deriving DecidableEq, Repr

/-- **Action.** A store, or the fault that was met on the way to it. -/
abbrev Action (α : Type) : Type := Except Fault (Store α)

/-- The actions of a step whose stores are known only after its checks: all of the stores, or
the one fault that a check found. -/
def actions {α : Type} : Except Fault (List (Store α)) → List (Action α)
  | .ok stores => stores.map .ok
  | .error f => [.error f]

@[simp] theorem actions_ok {α : Type} (stores : List (Store α)) :
    actions (.ok stores) = stores.map .ok := rfl

@[simp] theorem actions_error {α : Type} (f : Fault) :
    actions (.error f : Except Fault (List (Store α))) = [.error f] := rfl

/-- **Window.** The part of a buffer from `start` on that a step may write to. -/
structure Window where
  start : Nat
  length : Nat
  deriving DecidableEq, Repr

namespace Window

/-- A range of a window has to end inside it. -/
def range (w : Window) (stop : Nat) : Except Fault Unit :=
  require (stop ≤ w.length) (.rangeEnd stop w.length)

/-- A store at a place counted from the window's start. The place has to lie inside the window.
-/
def store {α : Type} (w : Window) (place : Nat) (x : α) : Action α :=
  if place < w.length then .ok ⟨w.start + place, x⟩ else .error (.outOfBounds place w.length)

theorem range_eq_ok_iff {w : Window} {stop : Nat} : w.range stop = .ok () ↔ stop ≤ w.length :=
  require_eq_ok_iff

theorem store_of_lt {α : Type} {w : Window} {place : Nat} (h : place < w.length) (x : α) :
    w.store place x = .ok ⟨w.start + place, x⟩ := by
  simp [store, h]

/-- The window cut into pieces of `size` elements; the last piece is as short as it has to be.
-/
def chunks (w : Window) (size : Nat) : List Window :=
  (List.range ((w.length + size - 1) / size)).map fun k =>
    ⟨w.start + k * size, min size (w.length - k * size)⟩

end Window

namespace Write

variable {α : Type}

/-- **Perform.** Executes actions in order: stores are made one by one, and a fault stops the
rest. -/
def perform : List (Action α) → Write α Unit
  | [], dst => .ok () dst
  | .error f :: _, dst => .error f dst
  | .ok s :: rest, dst => perform rest (dst.setIfInBounds s.index s.value)

@[simp] theorem perform_nil (dst : Array α) : perform [] dst = .ok () dst := rfl

@[simp] theorem perform_error (f : Fault) (rest : List (Action α)) (dst : Array α) :
    perform (.error f :: rest) dst = .error f dst := rfl

@[simp] theorem perform_store (s : Store α) (rest : List (Action α)) (dst : Array α) :
    perform (.ok s :: rest) dst = perform rest (dst.setIfInBounds s.index s.value) := rfl

/-- Actions in two parts: the second part is executed unless the first met a fault. -/
theorem perform_append (first second : List (Action α)) (dst : Array α) :
    perform (first ++ second) dst = (perform first >>= fun _ => perform second) dst := by
  induction first generalizing dst with
  | nil => rfl
  | cons act rest ih =>
    cases act with
    | error f => rfl
    | ok s => exact ih _

/-- An element that no store goes to stays as it was. -/
theorem getElem?_of_perform {acts : List (Action α)} {dst dst' : Array α} {i : Nat}
    (h : perform acts dst = .ok () dst') (hi : ∀ s : Store α, .ok s ∈ acts → s.index ≠ i) :
    dst'[i]? = dst[i]? := by
  induction acts generalizing dst with
  | nil =>
    cases h
    rfl
  | cons act rest ih =>
    cases act with
    | error f => cases h
    | ok s =>
      rw [ih h fun t ht => hi t (List.mem_cons_of_mem _ ht),
        Array.getElem?_setIfInBounds_ne (hi s List.mem_cons_self)]

/-- The length of the buffer. -/
def length : Write α Nat := fun dst =>
  let n := dst.size
  .ok n dst

@[simp] theorem length_apply (dst : Array α) : length dst = .ok dst.size dst := rfl

/-- The window from `start` to the end of the buffer. -/
def window (start : Nat) : Write α Window := fun dst =>
  let n := dst.size
  if start ≤ n then .ok ⟨start, n - start⟩ dst else .error (.rangeStart start n) dst

theorem window_of_le {start : Nat} {dst : Array α} (h : start ≤ dst.size) :
    window start dst = .ok ⟨start, dst.size - start⟩ dst := by
  simp [window, h]

theorem window_of_lt {start : Nat} {dst : Array α} (h : dst.size < start) :
    window start dst = .error (.rangeStart start dst.size) dst := by
  simp [window, Nat.not_le.2 h]

/-- Stores one value at each of a list of places of the buffer. -/
def storeAll (x : α) : List Nat → Write α Unit
  | [], dst => .ok () dst
  | i :: rest, dst => storeAll x rest (dst.setIfInBounds i x)

/-- Storing one value at a list of places is performing that list of stores. -/
theorem storeAll_eq_perform (x : α) (places : List Nat) :
    storeAll x places = perform (places.map fun i => .ok ⟨i, x⟩) := by
  funext dst
  induction places generalizing dst with
  | nil => rfl
  | cons i rest ih => exact ih _

/-- **Fill.** Stores one value at every place before `stop`, which has to lie in the buffer. -/
def fill (stop : Nat) (x : α) : Write α Unit := do
  require (stop ≤ (← length)) (.rangeEnd stop (← length))
  storeAll x (List.range stop)

theorem fill_of_le {stop : Nat} {dst : Array α} (h : stop ≤ dst.size) (x : α) :
    fill stop x dst = storeAll x (List.range stop) dst := by
  simp [fill, bind, EStateM.bind, require, h]

/-- A fill that does not fit writes nothing. -/
theorem fill_of_lt {stop : Nat} {dst : Array α} (h : dst.size < stop) (x : α) :
    fill stop x dst = .error (.rangeEnd stop dst.size) dst := by
  simp [fill, bind, EStateM.bind, require, Nat.not_le.2 h]

end Write

/-! ### Reading a source -/

section Source

variable {α : Type}

/-- The elements of a source from `start` up to `stop`, which has to lie in the source. -/
def cut (source : Array α) (start stop : Nat) : Except Fault (Array α) := do
  require (stop ≤ source.size) (.rangeEnd stop source.size)
  return source.extract start stop

theorem cut_eq_ok_iff {source piece : Array α} {start stop : Nat} :
    cut source start stop = .ok piece ↔
      stop ≤ source.size ∧ piece = source.extract start stop := by
  by_cases h : stop ≤ source.size <;>
    simp [cut, require, h, bind, Except.bind, pure, Except.pure, eq_comm]

/-- One element of a source. -/
def read (source : Array α) (index : Nat) : Except Fault α :=
  if h : index < source.size then .ok source[index] else .error (.outOfBounds index source.size)

theorem read_eq_ok_iff {source : Array α} {index : Nat} {x : α} :
    read source index = .ok x ↔ source[index]? = some x := by
  by_cases h : index < source.size <;> simp [read, h]

/-- The first places `start`, `start + step`, … before `stop`, at most `count` of them. -/
def progression (start step count stop : Nat) : List Nat :=
  List.range' start (min count ((stop - start + (step - 1)) / step)) step

end Source

end DenseKron
