import DenseKron.Proofs.WhiteSpace
import DenseKron.Settings.Values
import Mathlib.Data.List.Induction

/-!
# Thresholds in decimal

A threshold is read digit by digit. This module says what is read in terms of how a number is
written: a **numeral** of `t` is the decimal form of `t`, with zeros in front of it and perhaps a
plus sign in front of those.

* A nonempty list of digits is the decimal form of its value, up to zeros in front
  (`digits_iff_exists_zeros`). The induction is on the last digit, as that of the decimal form is.
* The texts that are read as `t` are the numerals of `t` with white space around them, for every
  positive `t` that is a machine word, and for no other (`parse?_eq_some_iff`).
-/

namespace DenseKron.Threshold

open Text (Wraps isBlank)

/-- **Numerals.** The decimal form of a number, behind any number of zeros and perhaps a plus. -/
def IsNumeral (t : Nat) (text : List Char) : Prop :=
  ∃ sign zeros, (sign = [] ∨ sign = ['+']) ∧
    text = sign ++ (List.replicate zeros '0' ++ Nat.toDigits 10 t)

variable {t : Nat} {c : Char} {text digits : List Char}

/-! ### Digits -/

/-- A digit is one of ten. -/
theorem exists_digitChar (h : isDigit c = true) : ∃ d < 10, c = Nat.digitChar d := by
  -- the ten digits follow each other
  have hplace : ∀ d < 10, Char.ofNat (48 + d) = Nat.digitChar d := by decide
  obtain ⟨hge, hle⟩ := Char.isDigit_iff_toNat.1 h
  change 48 ≤ c.toNat at hge
  change c.toNat ≤ 57 at hle
  have hlt : c.toNat - 48 < 10 := by omega
  refine ⟨c.toNat - 48, hlt, ?_⟩
  rw [← hplace _ hlt, Nat.add_sub_cancel' hge, Char.ofNat_toNat]

theorem isDigit_of_mem_zeros_append {zeros : Nat}
    (h : c ∈ List.replicate zeros '0' ++ Nat.toDigits 10 t) : isDigit c = true := by
  obtain hzero | hdigit := List.mem_append.1 h
  · rw [List.eq_of_mem_replicate hzero]
    decide
  · exact Nat.isDigit_of_mem_toDigits (by decide) (by decide) hdigit

theorem value_eq_ofDigitChars (digits : List Char) : value digits = Nat.ofDigitChars 10 digits 0 :=
  Nat.ofDigitChars_eq_foldl.symm

theorem value_concat (digits : List Char) {d : Nat} (h : d < 10) :
    value (digits ++ [Nat.digitChar d]) = 10 * value digits + d := by
  rw [value_eq_ofDigitChars, Nat.ofDigitChars_append, Nat.ofDigitChars_cons_digitChar_of_lt_ten h,
    Nat.ofDigitChars_nil, value_eq_ofDigitChars]

/-- The decimal form of a number, with zeros in front, denotes that number. -/
theorem value_zeros_append (zeros t : Nat) :
    value (List.replicate zeros '0' ++ Nat.toDigits 10 t) = t := by
  rw [value_eq_ofDigitChars, Nat.ofDigitChars_append, Nat.ofDigitChars_replicate_zero, Nat.mul_zero,
    Nat.ofDigitChars_ten_toDigits]

/-- **Digits are decimal forms.** A list of digits is the decimal form of its value with zeros in
front. -/
theorem exists_zeros_of_digits (hne : digits ≠ []) (hdigits : ∀ c ∈ digits, isDigit c = true) :
    ∃ zeros, digits = List.replicate zeros '0' ++ Nat.toDigits 10 (value digits) := by
  -- on the last digit, which is also the last one of the decimal form
  induction digits using List.reverseRecOn with
  | nil => exact absurd rfl hne
  | append_singleton front c ih =>
    obtain ⟨d, hd, rfl⟩ := exists_digitChar (hdigits c (by simp))
    have hlast : Nat.toDigits 10 d = [Nat.digitChar d] := Nat.toDigits_of_lt_base hd
    rw [value_concat front hd]
    by_cases hfront : front = []
    · subst hfront
      refine ⟨0, ?_⟩
      change [Nat.digitChar d] = Nat.toDigits 10 (0 + d)
      rw [Nat.zero_add, hlast]
    obtain ⟨zeros, hzeros⟩ := ih hfront fun c hc => hdigits c (List.mem_append_left _ hc)
    -- in front of the last digit, the decimal form of zero is one more zero
    by_cases hvalue : value front = 0
    · refine ⟨zeros + 1, ?_⟩
      rw [hvalue, Nat.toDigits_zero] at hzeros
      rw [hvalue, Nat.mul_zero, Nat.zero_add, hlast, List.replicate_succ', ← hzeros]
    · refine ⟨zeros, ?_⟩
      rw [← Nat.toDigits_append_toDigits (by decide) (Nat.pos_of_ne_zero hvalue) hd, hlast,
        ← List.append_assoc, ← hzeros]

/-- A text of digits denotes `t` if it is the decimal form of `t` with zeros in front. -/
theorem digits_iff_exists_zeros :
    (digits ≠ [] ∧ (∀ c ∈ digits, isDigit c = true) ∧ value digits = t) ↔
      ∃ zeros, digits = List.replicate zeros '0' ++ Nat.toDigits 10 t := by
  constructor
  · rintro ⟨hne, hdigits, rfl⟩
    exact exists_zeros_of_digits hne hdigits
  · rintro ⟨zeros, rfl⟩
    exact ⟨List.append_ne_nil_of_right_ne_nil _ Nat.toDigits_ne_nil,
      fun c hc => isDigit_of_mem_zeros_append hc, value_zeros_append zeros t⟩

/-! ### Numerals -/

theorem unsigned_of_isDigit (h : ∀ c ∈ digits, isDigit c = true) : unsigned digits = digits := by
  unfold unsigned
  split
  · exact absurd (h '+' List.mem_cons_self) (by decide)
  · rfl

/-- What stands in front of the digits is a plus sign or nothing. -/
theorem exists_sign (text : List Char) :
    ∃ sign, (sign = [] ∨ sign = ['+']) ∧ text = sign ++ unsigned text := by
  unfold unsigned
  split
  · exact ⟨['+'], .inr rfl, rfl⟩
  · exact ⟨[], .inl rfl, rfl⟩

/-- **Reading a numeral.** The texts that denote a size are the numerals of that size. -/
theorem size?_eq_some_iff : size? text = some t ↔ t < Size.limit ∧ IsNumeral t text := by
  constructor
  · intro h
    rw [size?] at h
    split at h
    · next hsize =>
      obtain ⟨hne, hall, hlt⟩ := hsize
      obtain rfl : value (unsigned text) = t := Option.some.inj h
      obtain ⟨sign, hsign, htext⟩ := exists_sign text
      obtain ⟨zeros, hzeros⟩ :=
        digits_iff_exists_zeros.1 ⟨hne, fun c hc => List.all_eq_true.1 hall c hc, rfl⟩
      exact ⟨hlt, sign, zeros, hsign, hzeros ▸ htext⟩
    · exact absurd h nofun
  · rintro ⟨hlt, sign, zeros, hsign, htext⟩
    obtain ⟨hne, hdigits, hvalue⟩ := digits_iff_exists_zeros.2 ⟨zeros, rfl⟩
    rw [htext]
    -- no digit is taken for the sign
    have hunsigned : unsigned (sign ++ (List.replicate zeros '0' ++ Nat.toDigits 10 t)) =
        List.replicate zeros '0' ++ Nat.toDigits 10 t := by
      obtain rfl | rfl := hsign
      · exact unsigned_of_isDigit hdigits
      · rfl
    rw [size?, hunsigned, hvalue]
    exact if_pos ⟨hne, List.all_eq_true.2 hdigits, hlt⟩

/-- A numeral has no white space in it. -/
theorem IsNumeral.isBlank_eq (h : IsNumeral t text) : ∀ c ∈ text, isBlank c = false := by
  have hplus : isBlank '+' = false := by decide
  have hdigit : ∀ d < 10, isBlank (Nat.digitChar d) = false := by decide
  obtain ⟨sign, zeros, hsign, rfl⟩ := h
  intro c hc
  -- the sign, or one of the digits
  obtain hc | hc := List.mem_append.1 hc
  · obtain rfl | rfl := hsign
    · exact absurd hc List.not_mem_nil
    · rw [List.mem_singleton.1 hc, hplus]
  · obtain ⟨d, hd, rfl⟩ := exists_digitChar (isDigit_of_mem_zeros_append hc)
    exact hdigit d hd

/-- **Accepted thresholds.** A text is read as `t` if it is a numeral of `t` with white space around
it, where `t` is positive and a machine word, and only then. -/
theorem parse?_eq_some_iff {text : String} :
    parse? text = some t ↔
      0 < t ∧ t < Size.limit ∧ ∃ core, Wraps text.toList core ∧ IsNumeral t core := by
  rw [parse?, Option.filter_eq_some_iff, size?_eq_some_iff, decide_eq_true_eq]
  constructor
  · rintro ⟨⟨hlt, hnumeral⟩, hpos⟩
    exact ⟨hpos, hlt, _, Text.wraps_trim _, hnumeral⟩
  · rintro ⟨hpos, hlt, core, hwraps, hnumeral⟩
    -- a numeral has no white space of its own to lose
    have htrim : Text.trim text.toList = core :=
      (Text.trim_eq_iff_wraps (Text.trim_eq_self_of_forall hnumeral.isBlank_eq)).2 hwraps
    exact ⟨⟨hlt, htrim.symm ▸ hnumeral⟩, hpos⟩

end DenseKron.Threshold
