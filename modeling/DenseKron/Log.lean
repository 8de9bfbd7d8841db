import DenseKron.Error
import DenseKron.Buffer

/-!
# Observed computations

Some computations report what they do while they do it. An **observed** computation carries the
events it has emitted next to its state, in order of emission, and keeps both when it fails: an
event that was emitted before a failure has been emitted.

Each part of the library has an event type of its own, with the facts in their own types, so
that what is observed can be reasoned about. `LogEntry` is the form in which any event is shown:
a level, a text, and named values in text form.
-/

namespace DenseKron

/-- How much an event matters. -/
inductive Level where
  | debug
  | warn
  deriving DecidableEq, Repr

/-- **Log entry.** An event in text form. -/
structure LogEntry where
  level : Level
  message : String
  /-- The values that the event carries, by name. -/
  fields : List (String × String)
  deriving DecidableEq, Repr

/-- A state, and the events that were emitted on the way to it. -/
structure Observed (ε σ : Type) where
  state : σ
  events : List ε := []
  deriving DecidableEq, Repr

/-- **Observed computations.** A computation on a state `σ` that emits events `ε` and may fail
with `φ`. -/
abbrev Observing (φ ε σ : Type) : Type → Type := EStateM φ (Observed ε σ)

namespace Observing

variable {φ ε σ β : Type}

/-- Emits one event. -/
def emit (event : ε) : Observing φ ε σ Unit := fun s =>
  .ok () { s with events := s.events ++ [event] }

/-- The current state. -/
def state : Observing φ ε σ σ := fun s => .ok s.state s

/-- Replaces the state. -/
def setState (x : σ) : Observing φ ε σ Unit := fun s => .ok () { s with state := x }

/-- A guarded computation on the state, whose faults are failures. It emits nothing. -/
def guarded (act : Guarded σ β) : Observing Failure ε σ β := fun ⟨state, events⟩ =>
  match act state with
  | .ok x state' => .ok x ⟨state', events⟩
  | .error f state' => .error (.fault f) ⟨state', events⟩

/-- Runs a computation from a state on which nothing was observed yet, for its result and the
state that it leads to. -/
def result (act : Observing φ ε σ β) (s : σ) : Except φ (β × σ) :=
  match act ⟨s, []⟩ with
  | .ok x after => .ok (x, after.state)
  | .error failure _ => .error failure

/-- Declines a request. -/
def refuse (error : Error) : Observing Failure ε σ β := throw (.refused error)

@[simp] theorem emit_apply (event : ε) (s : Observed ε σ) :
    (emit event : Observing φ ε σ Unit) s = .ok () ⟨s.state, s.events ++ [event]⟩ := rfl

@[simp] theorem state_apply (s : Observed ε σ) :
    (state : Observing φ ε σ σ) s = .ok s.state s := rfl

@[simp] theorem setState_apply (x : σ) (s : Observed ε σ) :
    (setState x : Observing φ ε σ Unit) s = .ok () ⟨x, s.events⟩ := rfl

@[simp] theorem refuse_apply (error : Error) (s : Observed ε σ) :
    (refuse error : Observing Failure ε σ β) s = .error (.refused error) s := rfl

theorem guarded_of_ok {act : Guarded σ β} {s : Observed ε σ} {x : β} {u : σ}
    (h : act s.state = .ok x u) :
    (guarded act : Observing Failure ε σ β) s = .ok x ⟨u, s.events⟩ := by
  cases s
  simp [guarded, h]

theorem guarded_of_error {act : Guarded σ β} {s : Observed ε σ} {f : Fault} {u : σ}
    (h : act s.state = .error f u) :
    (guarded act : Observing Failure ε σ β) s = .error (.fault f) ⟨u, s.events⟩ := by
  cases s
  simp [guarded, h]

end Observing

end DenseKron
