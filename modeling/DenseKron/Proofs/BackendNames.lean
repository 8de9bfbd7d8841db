import DenseKron.Proofs.LetterCase
import DenseKron.Settings.Values

/-!
# The names of the backends

A backend is chosen by a text, and reading the text goes through the lower-case mapping of Unicode.
This module says which texts are accepted, in terms of ASCII alone: a text **spells** a name if it
is the name, in any mixture of small and capital letters, with white space around it.

* The texts that are read as a backend are the spellings of its name, and any other text is refused
  in the form in which it was compared (`parse_eq_ok_iff`, `parse_eq_error_iff`).
* Neither the case of an ASCII letter nor white space around the text makes a difference to the
  outcome, and that includes the text of the refusal (`canonical_eq_of_case`,
  `canonical_eq_of_wraps`).
-/

namespace DenseKron.Backend

open Text (Wraps IsPlain isBlank)

/-- **Spellings.** A text is a name, up to the case of ASCII letters, with white space around it. -/
def Spells (name text : String) : Prop :=
  ∃ core, Wraps text.toList core ∧ core.map Char.toLower = name.toList

variable {name text text' : String}

/-! ### The form in which names are compared -/

/-- White space around a text is not compared. -/
theorem canonical_eq_of_wraps (h : Wraps text'.toList text.toList) :
    canonical text' = canonical text := by
  rw [canonical, canonical, h.trim_eq]

/-- The case of ASCII letters is not compared. -/
theorem canonical_eq_of_case
    (h : text'.toList.map Char.toLower = text.toList.map Char.toLower) :
    canonical text' = canonical text := by
  have hcase : ∀ t : String, canonical t = Text.lower (Text.trim (t.toList.map Char.toLower)) := by
    intro t
    rw [canonical, Text.trim_map Text.isBlank_toLower, Text.lower_map_toLower]
  rw [hcase, hcase, h]

/-- The texts that are compared as a plain name are its spellings. -/
theorem canonical_eq_iff_spells (hname : ∀ c ∈ name.toList, IsPlain c) :
    canonical text = name.toList ↔ Spells name text := by
  constructor
  -- what has been trimmed off is white space
  · intro h
    exact ⟨Text.trim text.toList, Text.wraps_trim _, (Text.lower_eq_iff hname _).1 h⟩
  · rintro ⟨core, hwraps, hcore⟩
    -- the white space goes, the case goes, and a plain name is its own lower-case form
    calc canonical text
        = Text.lower (Text.trim core) := by rw [canonical, hwraps.trim_eq]
      _ = Text.lower (Text.trim (core.map Char.toLower)) := by
          rw [Text.trim_map Text.isBlank_toLower, Text.lower_map_toLower]
      _ = Text.lower name.toList := by
          rw [hcore, Text.trim_eq_self_of_forall fun c hc => (hname c hc).isBlank_eq]
      _ = name.toList := (Text.lower_eq_iff hname _).2 (Text.map_toLower_of_isPlain hname)

/-- A spelling of a plain name has white space and letters of that name, and nothing else. -/
theorem Spells.letters (h : Spells name text) (hname : ∀ c ∈ name.toList, IsPlain c) :
    ∀ c ∈ text.toList, isBlank c = true ∨ c.isAlpha = true ∧ c.toLower ∈ name.toList := by
  obtain ⟨core, ⟨before, after, htext, hbefore, hafter⟩, hcore⟩ := h
  intro c hc
  -- before the name, in it, or behind it
  rw [htext, List.mem_append, List.mem_append] at hc
  obtain (hc | hc) | hc := hc
  · exact .inl (hbefore c hc)
  · have hmem : c.toLower ∈ name.toList := hcore ▸ List.mem_map_of_mem hc
    exact .inr ⟨(hname _ hmem).isAlpha_eq, hmem⟩
  · exact .inl (hafter c hc)

/-! ### The outcome of reading -/

/-- The names of the backends are plain words. -/
theorem isPlain_of_mem_name (b : Backend) : ∀ c ∈ b.name.toList, IsPlain c := by
  -- the letters of the two names, one after the other
  have hall : b.name.toList.all (fun c => decide (IsPlain c)) = true := by
    cases b with
    | portable => decide
    | parallel => decide
  intro c hc
  exact of_decide_eq_true (List.all_eq_true.1 hall c hc)

/-- No two backends have the same name. -/
theorem name_toList_inj : ∀ {b b' : Backend}, b.name.toList = b'.name.toList → b = b'
  | .portable, .portable, _ => rfl
  | .portable, .parallel, h => absurd h (by decide)
  | .parallel, .portable, h => absurd h (by decide)
  | .parallel, .parallel, _ => rfl

/-- The refusal of a text names what was compared. -/
def refusal (text : String) : Error := .invalid (.unknownBackend (String.ofList (canonical text)))

/-- Reading compares a text with every name. -/
theorem parse_cases (text : String) :
    (∃ b : Backend, canonical text = b.name.toList ∧ parse text = .ok b) ∨
      (∀ b : Backend, canonical text ≠ b.name.toList) ∧ parse text = .error (refusal text) := by
  -- the names are compared in this order, but no text is both
  by_cases hportable : canonical text = portable.name.toList
  · exact .inl ⟨portable, hportable, if_pos hportable⟩
  by_cases hparallel : canonical text = parallel.name.toList
  · exact .inl ⟨parallel, hparallel, (if_neg hportable).trans (if_pos hparallel)⟩
  · refine .inr ⟨?_, (if_neg hportable).trans (if_neg hparallel)⟩
    intro b
    cases b with
    | portable => exact hportable
    | parallel => exact hparallel

/-- **Accepted texts.** A text is read as a backend if it spells the name of that backend, and only
then. -/
theorem parse_eq_ok_iff (b : Backend) : parse text = .ok b ↔ Spells b.name text := by
  rw [← canonical_eq_iff_spells (isPlain_of_mem_name b)]
  -- a canonical form is the name of one backend at most
  obtain ⟨b', hform, hparse⟩ | ⟨hform, hparse⟩ := parse_cases text
  · rw [hparse, hform, Except.ok.injEq]
    exact ⟨fun h => h ▸ rfl, name_toList_inj⟩
  · rw [hparse]
    exact ⟨nofun, fun h => absurd h (hform b)⟩

/-- **Refused texts.** A text that spells no name is refused in the form that was compared. -/
theorem parse_eq_error_iff {e : Error} :
    parse text = .error e ↔ (∀ b : Backend, ¬ Spells b.name text) ∧ e = refusal text := by
  obtain ⟨b, -, hparse⟩ | ⟨hform, hparse⟩ := parse_cases text
  · rw [hparse]
    exact ⟨nofun, fun h => absurd ((parse_eq_ok_iff b).1 hparse) (h.1 b)⟩
  · have hspells : ∀ b : Backend, ¬ Spells b.name text := fun b h =>
      hform b ((canonical_eq_iff_spells (isPlain_of_mem_name b)).2 h)
    rw [hparse, Except.error.injEq]
    exact ⟨fun h => ⟨hspells, h.symm⟩, fun h => h.2.symm⟩

/-- Texts that are compared in one form are read alike. -/
theorem parse_eq_of_canonical (h : canonical text' = canonical text) :
    parse text' = parse text := by
  rw [parse, parse, h]

/-- **The texts that name a backend.** A text is read as the portable backend, or as the parallel
one, just if it is white space, the word `portable`, or `parallel`, in any mixture of small and
capital letters of ASCII, and white space again. So no other character is in an accepted text: none
that the lower-case mapping might turn into a letter of the word, and no space within the word. Any
other text is refused as invalid. The case of ASCII letters and white space around a text make no
difference to the outcome, whether it is a backend or a refusal. -/
theorem spellings_accepted (text : String) :
    (parse text = .ok .portable ↔ Spells "portable" text) ∧
    (parse text = .ok .parallel ↔ Spells "parallel" text) ∧
    (∀ b : Backend, parse text = .ok b →
      ∀ c ∈ text.toList, isBlank c = true ∨ c.isAlpha = true ∧ c.toLower ∈ b.name.toList) ∧
    (¬ Spells "portable" text → ¬ Spells "parallel" text →
      parse text = .error (refusal text) ∧ (refusal text).kind = "ValidationError") ∧
    (∀ text' : String, text'.toList.map Char.toLower = text.toList.map Char.toLower →
      parse text' = parse text) ∧
    ∀ text' : String, Wraps text'.toList text.toList → parse text' = parse text := by
  refine ⟨parse_eq_ok_iff .portable, parse_eq_ok_iff .parallel, ?_, ?_, ?_, ?_⟩
  · intro b h
    exact ((parse_eq_ok_iff b).1 h).letters (isPlain_of_mem_name b)
  · intro hportable hparallel
    refine ⟨parse_eq_error_iff.2 ⟨?_, rfl⟩, rfl⟩
    -- there are no other names
    intro b
    cases b with
    | portable => exact hportable
    | parallel => exact hparallel
  · exact fun text' h => parse_eq_of_canonical (canonical_eq_of_case h)
  · exact fun text' h => parse_eq_of_canonical (canonical_eq_of_wraps h)

/-- An ideographic space and a line break around a name, and a name with a zero-width space in it,
which is neither white space nor a letter. -/
theorem spellings_accepted_wide_space :
    (parse "\u3000pArAllEl\n" = .ok .parallel ∧
      ∀ c ∈ "\u3000pArAllEl\n".toList,
        isBlank c = true ∨ c.isAlpha = true ∧ c.toLower ∈ parallel.name.toList) ∧
    (parse "port\u200Bable" = .error (.invalid (.unknownBackend "port\u200Bable")) ∧
      parse "PORT\u200BABLE" = parse "port\u200Bable" ∧
      parse "\tport\u200Bable" = parse "port\u200Bable") := by
  have hspells : Spells "parallel" "\u3000pArAllEl\n" :=
    ⟨"pArAllEl".toList, ⟨['\u3000'], ['\n'], rfl, by decide, by decide⟩, rfl⟩
  have hparallel := (spellings_accepted "\u3000pArAllEl\n").2.1.2 hspells
  have hletters := (spellings_accepted "\u3000pArAllEl\n").2.2.1 _ hparallel
  have hform : canonical "port\u200Bable" = "port\u200Bable".toList := rfl
  have hrefused : ∀ b : Backend, ¬ Spells b.name "port\u200Bable" := by
    intro b
    rw [← canonical_eq_iff_spells (isPlain_of_mem_name b), hform]
    cases b <;> decide
  have h := (spellings_accepted "port\u200Bable").2.2.2
  exact ⟨⟨hparallel, hletters⟩, (h.1 (hrefused .portable) (hrefused .parallel)).1,
    h.2.1 "PORT\u200BABLE" (by decide),
    h.2.2 "\tport\u200Bable" ⟨['\t'], [], rfl, by decide, nofun⟩⟩

end DenseKron.Backend
