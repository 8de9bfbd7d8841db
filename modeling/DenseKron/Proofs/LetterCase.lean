import DenseKron.Proofs.WhiteSpace
import DenseKron.Text.LowerCase
import Mathlib.Data.List.Basic

/-!
# Letter case and plain words

The lower-case form of a text is that of the full mapping of Unicode, which knows more letters than
those of ASCII, expands one of them, and looks at the neighbours of another. This module compares it
with `Char.toLower`, which moves the 26 capitals of ASCII and nothing else.

* The mapping does not tell an ASCII capital from its small letter: neither in the letter itself
  nor in what it makes of the letters around it (`lower_map_toLower`).
* A **plain** word, of small ASCII letters, is the lower-case form of its spellings in ASCII letters
  and of no other text (`lower_eq_iff`). This is a fact about all rules of the mapping at once
  (`rule_cases`): one of them takes the ASCII capitals to the small letters, and the others lead out
  of ASCII. The exception is the Kelvin sign, whose small letter is an ASCII `k`, so that a plain
  word has none.
-/

namespace DenseKron.Text

/-! ### The capitals of ASCII -/

/-- The capitals are 26 code points in a row. -/
theorem exists_capital {c : Char} (hge : 65 ≤ c.toNat) (hle : c.toNat ≤ 90) :
    ∃ n < 26, c = Char.ofNat (65 + n) := by
  refine ⟨c.toNat - 65, by omega, ?_⟩
  rw [Nat.add_sub_cancel' hge, Char.ofNat_toNat]

/-- A character is a capital, or `Char.toLower` leaves it as it is. -/
theorem toLower_eq_self_or (c : Char) : c.toLower = c ∨ ∃ n < 26, c = Char.ofNat (65 + n) := by
  unfold Char.toLower
  split
  · next hcapital => exact .inr (exists_capital hcapital.1 hcapital.2)
  · exact .inl rfl

/-- What is the same for every capital and its small letter is not changed by `Char.toLower`. -/
theorem apply_toLower {β : Type} {q : Char → β}
    (h : ∀ n < 26, q (Char.ofNat (65 + n)).toLower = q (Char.ofNat (65 + n))) (c : Char) :
    q c.toLower = q c := by
  obtain hself | ⟨n, hn, rfl⟩ := toLower_eq_self_or c
  · rw [hself]
  · exact h n hn

theorem isBlank_toLower (c : Char) : isBlank c.toLower = isBlank c :=
  apply_toLower (by decide +kernel) c

theorem contains_cased_toLower (c : Char) : cased.contains c.toLower = cased.contains c :=
  apply_toLower (by decide +kernel) c

/-- A set whose ranges leave out a stretch of code points has no character from it. -/
theorem contains_eq_false_of_apart {set : CodePoints} {low high : Nat}
    (h : ∀ range ∈ set, range.2 < low ∨ high < range.1) {c : Char} (hlow : low ≤ c.toNat)
    (hhigh : c.toNat ≤ high) : set.contains c = false := by
  refine Bool.eq_false_iff.2 fun hcontains => ?_
  obtain ⟨range, hrange, hfirst, hlast⟩ := CodePoints.contains_eq_true_iff.1 hcontains
  have hapart := h range hrange
  omega

/-- No letter of ASCII is ignorable. -/
theorem contains_caseIgnorable_toLower (c : Char) :
    caseIgnorable.contains c.toLower = caseIgnorable.contains c := by
  -- each range is looked at once and not for every letter: the table is long
  have hcapitals : ∀ range ∈ caseIgnorable, range.2 < 65 ∨ 90 < range.1 := by decide +kernel
  have hsmall : ∀ range ∈ caseIgnorable, range.2 < 97 ∨ 122 < range.1 := by decide +kernel
  have hplaces : ∀ n < 26, (65 ≤ (Char.ofNat (65 + n)).toNat ∧ (Char.ofNat (65 + n)).toNat ≤ 90) ∧
      97 ≤ (Char.ofNat (65 + n)).toLower.toNat ∧ (Char.ofNat (65 + n)).toLower.toNat ≤ 122 := by
    decide +kernel
  refine apply_toLower (fun n hn => ?_) c
  obtain ⟨⟨hge, hle⟩, hge', hle'⟩ := hplaces n hn
  rw [contains_eq_false_of_apart hsmall hge' hle', contains_eq_false_of_apart hcapitals hge hle]

theorem toLower_eq_sigma_iff (c : Char) : c.toLower = '\u03A3' ↔ c = '\u03A3' :=
  decide_eq_decide.1 (apply_toLower (q := fun c => decide (c = '\u03A3')) (by decide +kernel) c)

theorem lowerChar_toLower (c : Char) : lowerChar c.toLower = lowerChar c :=
  apply_toLower (by decide +kernel) c

/-! ### Texts that differ in the case of ASCII letters -/

theorem meetsCased_map_toLower (text : List Char) :
    meetsCased (text.map Char.toLower) = meetsCased text := by
  have hcomp : caseIgnorable.contains ∘ Char.toLower = caseIgnorable.contains :=
    funext contains_caseIgnorable_toLower
  rw [meetsCased, meetsCased, List.dropWhile_map, hcomp]
  cases text.dropWhile caseIgnorable.contains with
  | nil => rfl
  | cons c rest => exact contains_cased_toLower c

theorem isWordFinal_map_toLower (before after : List Char) :
    isWordFinal (before.map Char.toLower) (after.map Char.toLower) = isWordFinal before after := by
  rw [isWordFinal, isWordFinal, meetsCased_map_toLower, meetsCased_map_toLower]

theorem lowerFrom_map_toLower (before text : List Char) :
    lowerFrom (before.map Char.toLower) (text.map Char.toLower) = lowerFrom before text := by
  induction text generalizing before with
  | nil => rfl
  | cons c rest ih =>
    have ih := ih (c :: before)
    rw [List.map_cons] at ih ⊢
    rw [lowerFrom, lowerFrom, ih]
    -- the case of the neighbours matters to a sigma only
    by_cases hsigma : c = '\u03A3'
    · rw [if_pos hsigma, if_pos ((toLower_eq_sigma_iff c).2 hsigma), isWordFinal_map_toLower]
    · rw [if_neg hsigma, if_neg (mt (toLower_eq_sigma_iff c).1 hsigma), lowerChar_toLower]

/-- Texts that differ in the case of ASCII letters have the same lower-case form. -/
theorem lower_map_toLower (text : List Char) : lower (text.map Char.toLower) = lower text :=
  lowerFrom_map_toLower [] text

/-! ### Plain words -/

/-- **Plain letters**: the small letters of ASCII, except for the one that is also the small letter
of the Kelvin sign. -/
def IsPlain (c : Char) : Prop := 97 ≤ c.toNat ∧ c.toNat ≤ 122 ∧ c ≠ 'k'

instance : DecidablePred IsPlain := fun _ => inferInstanceAs (Decidable (_ ∧ _ ∧ _))

theorem IsPlain.exists_small {c : Char} (h : IsPlain c) : ∃ n < 26, c = Char.ofNat (97 + n) := by
  obtain ⟨hge, hle, -⟩ := h
  refine ⟨c.toNat - 97, by omega, ?_⟩
  rw [Nat.add_sub_cancel' hge, Char.ofNat_toNat]

theorem IsPlain.toLower_eq {c : Char} (h : IsPlain c) : c.toLower = c := by
  obtain ⟨n, hn, rfl⟩ := h.exists_small
  revert n
  decide +kernel

theorem IsPlain.isBlank_eq {c : Char} (h : IsPlain c) : isBlank c = false := by
  obtain ⟨n, hn, rfl⟩ := h.exists_small
  revert n
  decide +kernel

/-- A plain letter, or its capital, is a letter in the sense of ASCII. -/
theorem IsPlain.isAlpha_eq {c : Char} (h : IsPlain c.toLower) : c.isAlpha = true := by
  have hsmall : ∀ n < 26, (Char.ofNat (97 + n)).isAlpha = true := by decide +kernel
  have hcase : c.toLower.isAlpha = c.isAlpha := apply_toLower (by decide +kernel) c
  obtain ⟨n, hn, heq⟩ := h.exists_small
  rw [← hcase, heq, hsmall n hn]

/-- A plain word has no capitals. -/
theorem map_toLower_of_isPlain {word : List Char} (h : ∀ d ∈ word, IsPlain d) :
    word.map Char.toLower = word :=
  calc word.map Char.toLower
      = word.map id := List.map_congr_left fun d hd => (h d hd).toLower_eq
    _ = word := List.map_id word

/-- **The rules of the mapping.** All but two lead out of ASCII. -/
theorem rule_cases : ∀ rule ∈ caseRules, rule = ⟨0x41, 0x5A, 1, 32⟩ ∨
    rule = ⟨0x212A, 0x212A, 1, -8383⟩ ∨ 128 ≤ (rule.first : Int) + rule.shift := by
  decide +kernel

theorem CaseRule.bounds_of_covers {rule : CaseRule} {c : Char} (h : rule.covers c = true) :
    rule.first ≤ c.toNat ∧ c.toNat ≤ rule.last := by
  simp only [covers, Bool.and_eq_true, decide_eq_true_eq] at h
  exact h.1

/-- A number that is no code point gives the null character. -/
theorem toNat_ofNat_or (n : Nat) : (Char.ofNat n).toNat = n ∨ (Char.ofNat n).toNat = 0 := by
  by_cases h : n.isValidChar
  · have hvalid : Char.ofNat n = Char.ofNatAux n h := dif_pos h
    exact .inl (congrArg Char.toNat hvalid)
  · have hnull : Char.ofNat n = '\u0000' := dif_neg h
    exact .inr (congrArg Char.toNat hnull)

/-- A letter that a rule turns into a plain one is a capital of ASCII. -/
theorem exists_of_isPlain_apply {rule : CaseRule} (hrule : rule ∈ caseRules) {c : Char}
    (hcovers : rule.covers c = true) (hplain : IsPlain (rule.apply c)) :
    ∃ n < 26, c = Char.ofNat (65 + n) := by
  obtain ⟨hfirst, hlast⟩ := CaseRule.bounds_of_covers hcovers
  obtain rfl | rfl | hout := rule_cases rule hrule
  · exact exists_capital hfirst hlast
  · have hkelvin : c.toNat = 0x212A := Nat.le_antisymm hlast hfirst
    have hk : CaseRule.apply ⟨0x212A, 0x212A, 1, -8383⟩ c = 'k' := by
      rw [CaseRule.apply, hkelvin]
      decide
    exact absurd hk hplain.2.2
  -- the rule leads out of ASCII, or to no letter at all
  · obtain ⟨hge, hle, -⟩ := hplain
    have hval := toNat_ofNat_or (c.toNat + rule.shift).toNat
    rw [CaseRule.apply] at hge hle
    omega

/-- The lower-case form of a plain letter, or of its capital, is that letter. -/
theorem lowerChar_of_isPlain {c : Char} (h : IsPlain c.toLower) : lowerChar c = [c.toLower] := by
  have hsmall : ∀ n < 26, lowerChar (Char.ofNat (97 + n)) = [Char.ofNat (97 + n)] := by
    decide +kernel
  obtain ⟨n, hn, heq⟩ := h.exists_small
  rw [← lowerChar_toLower, heq, hsmall n hn]

/-- No other letter has a lower-case form of plain letters. -/
theorem isPlain_of_lowerChar {c : Char} (h : ∀ d ∈ lowerChar c, IsPlain d) : IsPlain c.toLower := by
  -- among the capitals the mapping is that of ASCII
  have hcapital : ∀ n < 26,
      lowerChar (Char.ofNat (65 + n)) = [(Char.ofNat (65 + n)).toLower] := by
    decide +kernel
  have hplain : IsPlain c ∨ ∃ n < 26, c = Char.ofNat (65 + n) := by
    unfold lowerChar at h
    split at h
    -- the dot above that is left of the dotted capital is not plain
    · exact absurd (h '\u0307' (by simp)) (by decide)
    · split at h
      · next rule hfind =>
        have hcovers : rule.covers c = true := by simpa using List.find?_some hfind
        exact .inr (exists_of_isPlain_apply (List.mem_of_find?_eq_some hfind) hcovers
          (h _ List.mem_cons_self))
      · exact .inl (h c List.mem_cons_self)
  obtain hsmall | ⟨n, hn, rfl⟩ := hplain
  · obtain hself | ⟨n, hn, rfl⟩ := toLower_eq_self_or c
    · rwa [hself]
    · rw [hcapital n hn] at h
      exact h _ List.mem_cons_self
  · rw [hcapital n hn] at h
    exact h _ List.mem_cons_self

/-- A letter with a plain small letter stands for that letter, whatever is around it. -/
theorem lowerFrom_cons_of_isPlain {c : Char} (h : IsPlain c.toLower) (before rest : List Char) :
    lowerFrom before (c :: rest) = c.toLower :: lowerFrom (c :: before) rest := by
  have hsigma : c ≠ '\u03A3' := by
    rintro rfl
    exact absurd h (by decide)
  rw [lowerFrom, if_neg hsigma, lowerChar_of_isPlain h, List.singleton_append]

/-- A plain lower-case form begins with that of a letter with a plain small letter. -/
theorem isPlain_of_lowerFrom_cons {c : Char} {before rest : List Char}
    (h : ∀ d ∈ lowerFrom before (c :: rest), IsPlain d) : IsPlain c.toLower := by
  rw [lowerFrom] at h
  have hform := fun d hd => h d (List.mem_append_left _ hd)
  by_cases hsigma : c = '\u03A3'
  -- neither form of the sigma is plain
  · rw [if_pos hsigma] at hform
    have hhead := hform _ List.mem_cons_self
    split at hhead <;> exact absurd hhead (by decide)
  · rw [if_neg hsigma] at hform
    exact isPlain_of_lowerChar hform

/-- **Plain words.** The texts with a plain word as their lower-case form are its spellings in
ASCII letters. -/
theorem lowerFrom_eq_iff {word : List Char} (hword : ∀ d ∈ word, IsPlain d)
    (before text : List Char) : lowerFrom before text = word ↔ text.map Char.toLower = word := by
  -- on the text; what stands before it matters to a sigma only
  induction text generalizing before word with
  | nil => rfl
  | cons c rest ih =>
    rw [List.map_cons]
    constructor
    · rintro rfl
      -- a plain result has a plain beginning, so that the rest is plain as well
      have hc := isPlain_of_lowerFrom_cons hword
      rw [lowerFrom_cons_of_isPlain hc] at hword ⊢
      rw [(ih (fun d hd => hword d (List.mem_cons_of_mem _ hd)) (c :: before)).1 rfl]
    · rintro rfl
      have hrest := (ih (fun d hd => hword d (List.mem_cons_of_mem _ hd)) (c :: before)).2 rfl
      rw [lowerFrom_cons_of_isPlain (hword _ List.mem_cons_self), hrest]

/-- The lower-case form of a text is a plain word just if the text is that word in some mixture of
small and capital letters of ASCII. -/
theorem lower_eq_iff {word : List Char} (hword : ∀ d ∈ word, IsPlain d) (text : List Char) :
    lower text = word ↔ text.map Char.toLower = word :=
  lowerFrom_eq_iff hword [] text

end DenseKron.Text
