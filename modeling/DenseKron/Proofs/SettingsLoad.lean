import DenseKron.Proofs.BackendNames
import DenseKron.Proofs.Thresholds
import DenseKron.Settings.Load

/-!
# Loading settings

Loading looks up two texts and ends in one of two ways. This module says in which, for every lookup,
in terms of what the texts say:

* `SetsBackend` and `SetsThreshold` say what a text, or its absence, sets. Loading succeeds with
  just the settings that both texts set, and then reports them once (`load_eq_ok_iff`).
* `Refuses` says what is wrong with a lookup. Loading fails with just that, and then reports nothing
  (`load_eq_error_iff`). The two settings meet in one place only: a bad threshold goes unnoticed
  behind a bad backend.
-/

namespace DenseKron.Settings

open Text (Wraps)

/-- **The backend that is set.** Without a text it is the portable one. -/
def SetsBackend : Option String → Backend → Prop
  | none, b => b = .portable
  | some text, b => Backend.parse text = .ok b

/-- **The threshold that is set.** A text sets the positive machine word that it is a numeral of,
and without a text it is the 16th power of two. -/
def SetsThreshold : Option String → Nat → Prop
  | none, t => t = 65536
  | some text, t =>
    0 < t ∧ t < Size.limit ∧ ∃ core, Wraps text.toList core ∧ Threshold.IsNumeral t core

/-- **Refused lookups.** -/
inductive Refuses (lookup : String → Option String) : Error → Prop where
  /-- The backend is not known. -/
  | backend {text : String} {e : Error} :
    lookup backendKey = some text → Backend.parse text = .error e → Refuses lookup e
  /-- The backend is as it should be, but the threshold is none. -/
  | threshold {b : Backend} {text : String} :
    SetsBackend (lookup backendKey) b → lookup thresholdKey = some text →
      (∀ t, ¬ SetsThreshold (some text) t) →
        Refuses lookup (.invalid (.badThreshold thresholdKey text))

variable {lookup lookup' : String → Option String} {b : Backend} {t : Nat} {e : Error}
  {settings : Settings} {s after : Observed SettingsEvent Unit}

/-! ### One setting -/

theorem readBackend_eq_ok_iff : readBackend lookup = .ok b ↔ SetsBackend (lookup backendKey) b := by
  rw [readBackend]
  -- an absent text sets the default, and any other one what it is parsed to
  cases lookup backendKey with
  | none =>
    constructor
    · rintro ⟨⟩
      rfl
    · rintro rfl
      rfl
  | some text => exact Iff.rfl

theorem readBackend_eq_error_iff :
    readBackend lookup = .error e ↔
      ∃ text, lookup backendKey = some text ∧ Backend.parse text = .error e := by
  rw [readBackend]
  cases lookup backendKey with
  | none => simp
  | some text => simp

theorem parse?_eq_some_iff_sets {text : String} :
    Threshold.parse? text = some t ↔ SetsThreshold (some text) t := by
  rw [Threshold.parse?_eq_some_iff, SetsThreshold]

theorem parse?_eq_none_iff_sets {text : String} :
    Threshold.parse? text = none ↔ ∀ t, ¬ SetsThreshold (some text) t := by
  rw [Option.eq_none_iff_forall_ne_some]
  exact forall_congr' fun t => not_congr parse?_eq_some_iff_sets

theorem readThreshold_eq_ok_iff :
    readThreshold lookup = .ok t ↔ SetsThreshold (lookup thresholdKey) t := by
  rw [readThreshold]
  cases lookup thresholdKey with
  | none =>
    constructor
    · rintro ⟨⟩
      rfl
    · rintro rfl
      rfl
  | some text =>
    -- here the texts have been characterized already, by what `parse?` answers
    rw [← parse?_eq_some_iff_sets]
    cases hparse : Threshold.parse? text <;> simp [hparse]

theorem readThreshold_eq_error_iff :
    readThreshold lookup = .error e ↔ ∃ text, lookup thresholdKey = some text ∧
      (∀ t, ¬ SetsThreshold (some text) t) ∧ e = .invalid (.badThreshold thresholdKey text) := by
  rw [readThreshold]
  cases lookup thresholdKey with
  | none => simp
  | some text =>
    simp only [Option.some.injEq, exists_eq_left', ← parse?_eq_none_iff_sets]
    cases hparse : Threshold.parse? text <;> simp [eq_comm]

/-! ### Both settings -/

theorem read_of_ok (hbackend : readBackend lookup = .ok b)
    (hthreshold : readThreshold lookup = .ok t) : read lookup = .ok ⟨b, t⟩ := by
  rw [read, hbackend, hthreshold]
  rfl

/-- The backend is read first. -/
theorem read_of_backend_error (h : readBackend lookup = .error e) : read lookup = .error e := by
  rw [read, h]
  rfl

theorem read_of_threshold_error (hbackend : readBackend lookup = .ok b)
    (h : readThreshold lookup = .error e) : read lookup = .error e := by
  rw [read, hbackend, h]
  rfl

/-- Reading gives what is set or what is refused. -/
theorem read_cases (lookup : String → Option String) :
    (∃ settings : Settings, SetsBackend (lookup backendKey) settings.backend ∧
      SetsThreshold (lookup thresholdKey) settings.parallelThreshold ∧ read lookup = .ok settings) ∨
    ∃ e, Refuses lookup e ∧ read lookup = .error e := by
  -- the backend is read first, and refused whatever the threshold
  cases hbackend : readBackend lookup with
  | error e =>
    obtain ⟨text, htext, hparse⟩ := readBackend_eq_error_iff.1 hbackend
    exact .inr ⟨e, .backend htext hparse, read_of_backend_error hbackend⟩
  | ok b =>
    have hb := readBackend_eq_ok_iff.1 hbackend
    cases hthreshold : readThreshold lookup with
    | error e =>
      obtain ⟨text, htext, hbad, rfl⟩ := readThreshold_eq_error_iff.1 hthreshold
      exact .inr ⟨_, .threshold hb htext hbad, read_of_threshold_error hbackend hthreshold⟩
    | ok t =>
      exact .inl ⟨⟨b, t⟩, hb, readThreshold_eq_ok_iff.1 hthreshold, read_of_ok hbackend hthreshold⟩

theorem read_eq_ok_iff :
    read lookup = .ok settings ↔ SetsBackend (lookup backendKey) settings.backend ∧
      SetsThreshold (lookup thresholdKey) settings.parallelThreshold := by
  constructor
  · intro h
    obtain ⟨settings', hbackend, hthreshold, hread⟩ | ⟨e, -, hread⟩ := read_cases lookup
    · obtain rfl : settings' = settings := Except.ok.inj (hread.symm.trans h)
      exact ⟨hbackend, hthreshold⟩
    · exact absurd (hread.symm.trans h) nofun
  · rintro ⟨hbackend, hthreshold⟩
    exact read_of_ok (readBackend_eq_ok_iff.2 hbackend) (readThreshold_eq_ok_iff.2 hthreshold)

theorem read_eq_error_iff : read lookup = .error e ↔ Refuses lookup e := by
  constructor
  · intro h
    obtain ⟨settings, -, -, hread⟩ | ⟨e', hrefuses, hread⟩ := read_cases lookup
    · exact absurd (hread.symm.trans h) nofun
    · obtain rfl : e' = e := Except.error.inj (hread.symm.trans h)
      exact hrefuses
  · intro h
    -- each of the two refusals is the error of one of the readers
    cases h with
    | backend htext hparse =>
      exact read_of_backend_error (readBackend_eq_error_iff.2 ⟨_, htext, hparse⟩)
    | threshold hbackend htext hbad =>
      exact read_of_threshold_error (readBackend_eq_ok_iff.2 hbackend)
        (readThreshold_eq_error_iff.2 ⟨_, htext, hbad, rfl⟩)

/-- Every refusal is one of an invalid input. -/
theorem Refuses.kind_eq (h : Refuses lookup e) : e.kind = "ValidationError" := by
  cases h with
  | backend _ hparse =>
    obtain ⟨-, rfl⟩ := Backend.parse_eq_error_iff.1 hparse
    rfl
  | threshold => rfl

/-- Reading looks up two keys. -/
theorem read_congr (hbackend : lookup' backendKey = lookup backendKey)
    (hthreshold : lookup' thresholdKey = lookup thresholdKey) : read lookup' = read lookup := by
  rw [read, readBackend, readThreshold, hbackend, hthreshold]
  rfl

/-! ### Loading -/

theorem load_of_read_ok (h : read lookup = .ok settings) :
    load lookup s = .ok settings ⟨(), s.events ++ [.loaded settings]⟩ := by
  rw [load, h]
  rfl

theorem load_of_read_error (h : read lookup = .error e) : load lookup s = .error e s := by
  rw [load, h]
  rfl

/-- **Loaded settings.** Loading succeeds with what both texts set, and reports it once. -/
theorem load_eq_ok_iff :
    load lookup s = .ok settings after ↔
      SetsBackend (lookup backendKey) settings.backend ∧
      SetsThreshold (lookup thresholdKey) settings.parallelThreshold ∧
      after = ⟨(), s.events ++ [.loaded settings]⟩ := by
  rw [← and_assoc, ← read_eq_ok_iff]
  -- loading leaves an event behind what has been read, and nothing behind a refusal
  cases hread : read lookup with
  | error e => simp [load_of_read_error hread]
  | ok settings' =>
    rw [load_of_read_ok hread]
    constructor
    · rintro ⟨⟩
      exact ⟨rfl, rfl⟩
    · rintro ⟨⟨⟩, rfl⟩
      rfl

/-- **Refused settings.** Loading fails with what is wrong with the lookup, and reports nothing. -/
theorem load_eq_error_iff : load lookup s = .error e after ↔ Refuses lookup e ∧ after = s := by
  rw [← read_eq_error_iff]
  cases hread : read lookup with
  | error e' => simp [load_of_read_error hread, eq_comm]
  | ok settings => simp [load_of_read_ok hread]

/-- **Loading is decided by two texts.** It depends on the texts under the two keys and on nothing
else. It succeeds with just the settings that the two texts set, whose copier is the portable one,
or the parallel one with the threshold that was set, and adds one event. Otherwise it fails with
what `Refuses` says, an invalid input, and adds none; a bad backend is reported whatever the
threshold says. So every positive machine word is read back from its decimal form, with any number
of zeros, perhaps a plus sign, and white space around it. -/
theorem loading_decided_by_two_texts (lookup : String → Option String)
    (s : Observed SettingsEvent Unit) :
    (∀ lookup' : String → Option String, lookup' backendKey = lookup backendKey →
      lookup' thresholdKey = lookup thresholdKey → load lookup' s = load lookup s) ∧
    (∀ settings after, load lookup s = .ok settings after ↔
      SetsBackend (lookup backendKey) settings.backend ∧
      SetsThreshold (lookup thresholdKey) settings.parallelThreshold ∧
      after = ⟨(), s.events ++ [.loaded settings]⟩) ∧
    (∀ settings after, load lookup s = .ok settings after →
      settings.backend = .portable ∧ settings.copier = .portable ∨
      settings.backend = .parallel ∧ settings.copier = .parallel settings.parallelThreshold) ∧
    (∀ e after, load lookup s = .error e after ↔ Refuses lookup e ∧ after = s) ∧
    (∀ e after, load lookup s = .error e after → e.kind = "ValidationError") ∧
    (∀ text e, lookup backendKey = some text → Backend.parse text = .error e →
      load lookup s = .error e s) ∧
    ∀ (b : Backend) (t zeros : Nat) (before sign after : List Char),
      SetsBackend (lookup backendKey) b → 0 < t → t < Size.limit →
      Text.Blank before → Text.Blank after → sign = [] ∨ sign = ['+'] →
      lookup thresholdKey = some (String.ofList
        (before ++ (sign ++ (List.replicate zeros '0' ++ Nat.toDigits 10 t)) ++ after)) →
      load lookup s = .ok ⟨b, t⟩ ⟨(), s.events ++ [.loaded ⟨b, t⟩]⟩ := by
  refine ⟨?_, fun settings after => load_eq_ok_iff, ?_, fun e after => load_eq_error_iff,
    ?_, ?_, ?_⟩
  · intro lookup' hbackend hthreshold
    rw [load, load, read_congr hbackend hthreshold]
  -- only the parallel backend has a use for the threshold
  · rintro ⟨b, t⟩ after -
    cases b with
    | portable => exact .inl ⟨rfl, rfl⟩
    | parallel => exact .inr ⟨rfl, rfl⟩
  · intro e after h
    exact (load_eq_error_iff.1 h).1.kind_eq
  -- an unknown backend is refused before the threshold is looked at
  · intro text e htext hparse
    exact load_eq_error_iff.2 ⟨.backend htext hparse, rfl⟩
  · intro b t zeros before sign after hbackend hpos hlt hbefore hafter hsign hthreshold
    -- white space, a sign and leading zeros are no part of the number
    have hsets : SetsThreshold (lookup thresholdKey) t := by
      rw [hthreshold]
      refine ⟨hpos, hlt, _, ⟨before, after, ?_, hbefore, hafter⟩, sign, zeros, hsign, rfl⟩
      exact String.toList_ofList
    exact load_eq_ok_iff.2 ⟨hbackend, hsets, rfl⟩

/-- The largest threshold in a padded form, for the parallel backend; and the next larger number
behind a backend that is not known, in two lookups that differ under a third key. -/
theorem loading_decided_by_two_texts_largest_threshold :
    (load (fun key => if key = backendKey then some " Parallel" else
          some "\t+00018446744073709551615 ") ⟨(), []⟩ =
        .ok ⟨.parallel, 18446744073709551615⟩ ⟨(), [.loaded ⟨.parallel, 18446744073709551615⟩]⟩ ∧
      Settings.copier ⟨.parallel, 18446744073709551615⟩ = .parallel 18446744073709551615) ∧
    load (fun key => if key = backendKey then some "gpu" else some "18446744073709551616")
        ⟨(), []⟩ =
      .error (.invalid (.unknownBackend "gpu")) ⟨(), []⟩ ∧
    Error.kind (.invalid (.unknownBackend "gpu")) = "ValidationError" ∧
    load (fun key => if key = backendKey then some "gpu" else
        if key = thresholdKey then some "18446744073709551616" else none) ⟨(), []⟩ =
      load (fun key => if key = backendKey then some "gpu" else some "18446744073709551616")
        ⟨(), []⟩ := by
  have hparallel := loading_decided_by_two_texts (fun key => if key = backendKey then
    some " Parallel" else some "\t+00018446744073709551615 ") ⟨(), []⟩
  have hloaded := hparallel.2.2.2.2.2.2 .parallel 18446744073709551615 3 ['\t'] ['+'] [' '] rfl
    (by decide) (by decide) (by decide) (by decide) (.inr rfl) rfl
  have hcopier := (hparallel.2.2.1 _ _ hloaded).resolve_left fun h => absurd h.1 nofun
  have hgpu := loading_decided_by_two_texts (fun key => if key = backendKey then some "gpu" else
    some "18446744073709551616") ⟨(), []⟩
  have hrefused := hgpu.2.2.2.2.2.1 "gpu" (.invalid (.unknownBackend "gpu")) rfl rfl
  exact ⟨⟨hloaded, hcopier.2⟩, hrefused, hgpu.2.2.2.2.1 _ _ hrefused, hgpu.1 _ rfl rfl⟩

end DenseKron.Settings
