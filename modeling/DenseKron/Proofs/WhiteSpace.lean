import DenseKron.Text.CodePoints
import Mathlib.Data.List.TakeWhile

/-!
# White space around a text

A setting may have white space around it. Reading starts by taking it off (`Text.trim`), and this
module turns that step around: the texts that come out as `core` are those that are `core` with
white space around it, provided that `core` has none at its ends (`trim_eq_iff_wraps`).
-/

namespace DenseKron.Text

/-- Whether a text is nothing but white space. -/
def Blank (text : List Char) : Prop := ∀ c ∈ text, isBlank c = true

instance : DecidablePred Blank := fun text =>
  decidable_of_iff (text.all isBlank = true) List.all_eq_true

/-- **Wrapping.** A text is another one with white space around it. -/
def Wraps (text core : List Char) : Prop :=
  ∃ before after, text = before ++ core ++ after ∧ Blank before ∧ Blank after

variable {text core : List Char}

theorem blank_takeWhile (text : List Char) : Blank (text.takeWhile isBlank) :=
  fun _ hc => List.mem_takeWhile_imp hc

theorem Blank.reverse (h : Blank text) : Blank text.reverse :=
  fun c hc => h c (List.mem_reverse.1 hc)

/-- Every text is what is left when it is trimmed, with the white space put back. -/
theorem wraps_trim (text : List Char) : Wraps text (trim text) := by
  -- what is trimmed at the back is the front of the reversal
  let rest := text.dropWhile isBlank
  refine ⟨text.takeWhile isBlank, (rest.reverse.takeWhile isBlank).reverse, ?_,
    blank_takeWhile text, (blank_takeWhile rest.reverse).reverse⟩
  have hrest : trim text ++ (rest.reverse.takeWhile isBlank).reverse = rest := by
    rw [trim, ← List.reverse_append, List.takeWhile_append_dropWhile, List.reverse_reverse]
  rw [List.append_assoc, hrest, List.takeWhile_append_dropWhile]

/-- White space in front of a text is dropped. -/
theorem trim_blank_append {before : List Char} (h : Blank before) (text : List Char) :
    trim (before ++ text) = trim text := by
  rw [trim, List.dropWhile_append_of_pos h, trim]

/-- White space behind a text is dropped. -/
theorem trim_append_blank {after : List Char} (h : Blank after) (text : List Char) :
    trim (text ++ after) = trim text := by
  rw [trim, trim, List.dropWhile_append]
  split
  -- the text is white space itself
  · next hempty =>
    have hall : after.dropWhile isBlank = [] := List.dropWhile_eq_nil_iff.2 h
    rw [hall, List.isEmpty_iff.1 hempty]
  · rw [List.reverse_append, List.dropWhile_append_of_pos h.reverse]

theorem Wraps.trim_eq (h : Wraps text core) : trim text = trim core := by
  obtain ⟨before, after, rfl, hbefore, hafter⟩ := h
  rw [List.append_assoc, trim_blank_append hbefore, trim_append_blank hafter]

/-- A text that trimming leaves alone is the trimmed form of the texts that wrap it. -/
theorem trim_eq_iff_wraps (hcore : trim core = core) : trim text = core ↔ Wraps text core := by
  constructor
  · rintro rfl
    exact wraps_trim text
  · intro h
    rw [h.trim_eq, hcore]

/-- A text without white space has none to lose. -/
theorem trim_eq_self_of_forall (h : ∀ c ∈ text, isBlank c = false) : trim text = text :=
  trim_eq_self (fun c hc => h c (List.mem_of_mem_head? hc))
    fun c hc => h c (List.mem_of_mem_getLast? hc)

/-- Trimming looks at nothing but which characters are white space. -/
theorem trim_map {f : Char → Char} (hf : ∀ c, isBlank (f c) = isBlank c) (text : List Char) :
    trim (text.map f) = (trim text).map f := by
  have hcomp : isBlank ∘ f = isBlank := funext hf
  rw [trim, List.dropWhile_map, hcomp, ← List.map_reverse, List.dropWhile_map, hcomp,
    ← List.map_reverse, trim]

end DenseKron.Text
