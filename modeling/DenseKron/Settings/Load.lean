import DenseKron.Log
import DenseKron.Settings.Values
import DenseKron.Text.Shown

/-!
# Settings

What a user may choose without touching a program: the backend that copies blocks, and the size
from which on the parallel backend splits its work. Both come from texts that are looked up
under fixed keys, in the environment of the process or anywhere else. A key without a text keeps
its default.

The backend is read first, so a bad backend is reported whatever the threshold says. Loading
that succeeds reports what was loaded, and loading that fails reports nothing.
-/

namespace DenseKron

/-- **Settings.** -/
structure Settings where
  backend : Backend := .portable
  parallelThreshold : Nat := Copier.defaultThreshold
  deriving DecidableEq, Repr

/-- What the loading of settings reports. -/
inductive SettingsEvent where
  | loaded (settings : Settings)
  deriving DecidableEq, Repr

namespace Settings

/-- The key of the backend. -/
def backendKey : String := "KRONLY_COPY_BACKEND"

/-- The key of the threshold. -/
def thresholdKey : String := "KRONLY_PAR_THRESHOLD"

/-- The settings as a record. -/
def text (s : Settings) : String :=
  Text.record "KernelConfig"
    [("backend", s.backend.label), ("parallel_threshold", toString s.parallelThreshold)]

/-- The copier that the settings describe. -/
def copier (s : Settings) : Copier :=
  match s.backend with
  | .portable => .portable
  | .parallel => .parallel s.parallelThreshold

/-- The backend that is set. -/
def readBackend (lookup : String → Option String) : Except Error Backend :=
  match lookup backendKey with
  | none => .ok (Settings.backend {})
  | some text => Backend.parse text

/-- The threshold that is set. A bad one is reported as it was written. -/
def readThreshold (lookup : String → Option String) : Except Error Nat :=
  match lookup thresholdKey with
  | none => .ok (Settings.parallelThreshold {})
  | some text =>
    match Threshold.parse? text with
    | some t => .ok t
    | none => .error (.invalid (.badThreshold thresholdKey text))

/-- The settings that a lookup gives, or the first thing that is wrong with it. -/
def read (lookup : String → Option String) : Except Error Settings := do
  -- with a bad backend the threshold is not looked at
  let backend ← readBackend lookup
  let parallelThreshold ← readThreshold lookup
  return { backend, parallelThreshold }

/-- **Loading settings.** Reads them and reports what was read. -/
def load (lookup : String → Option String) : Observing Error SettingsEvent Unit Settings := do
  match read lookup with
  | .error e => throw e
  | .ok settings => do
    Observing.emit (.loaded settings)
    return settings

end Settings

/-- The event in text form. -/
def SettingsEvent.entry : SettingsEvent → LogEntry
  | loaded settings =>
    { level := .debug
      message := "kernel configuration loaded"
      fields := [("config", settings.text)] }

end DenseKron
