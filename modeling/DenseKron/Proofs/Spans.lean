import DenseKron.Proofs.CopyFaults

/-!
# What the span of a layout is

Every length check on a strided block compares a buffer with the span of a layout. This module says
that the span is the right number to compare with. A buffer of this length holds every entry, each
at a place of its own, and no shorter buffer does.

A layout can be built only if its leading dimension steps over a whole column (`Layout.built_iff`).
So the row of an entry is the remainder, and its column the quotient, of its place by the leading
dimension, and different entries lie apart. The rest is one sum: the span consists of the entries
and of the padding behind every column but the last (`Layout.span_eq_entries_add_padding`). Hence it
is at least the number of entries, and equal to it exactly if there is no padding or no column to
pad.

Machine sizes come in once. The span is one more than the last place, and the last place is the
largest one, so that if the span can be computed then so can all the places.
-/

namespace DenseKron

namespace Layout

variable {l : Layout} {r c k : Nat}

/-! ### Layouts that can be built -/

/-- **Built layouts.** Packed ones, and those whose leading dimension was accepted. -/
inductive Built : Layout → Prop
  /-- Nothing is asked of a packed layout. -/
  | packed (rows cols : Nat) : Built (Layout.packed rows cols)
  /-- A leading dimension is checked against the rows. -/
  | withLeading {rows cols ld : Nat} {l : Layout} (h : Layout.withLeading rows cols ld = .ok l) :
      Built l

/-- A leading dimension has to step over a column, if there is one. -/
theorem built_iff : l.Built ↔ l.cols = 0 ∨ l.rows ≤ l.ld := by
  constructor
  · intro h
    cases h with
    | packed rows cols => exact Or.inr (Nat.le_refl rows)
    | withLeading h =>
      obtain ⟨hld, rfl⟩ := withLeading_eq_ok_iff.1 h
      exact hld
  · intro h
    exact .withLeading (withLeading_eq_ok_iff.2 ⟨h, rfl⟩)

theorem isEmpty_eq_false (hrows : 0 < l.rows) (hcols : 0 < l.cols) : l.isEmpty = false := by
  unfold isEmpty
  rw [beq_eq_false_iff_ne.2 (Nat.ne_of_gt hrows), beq_eq_false_iff_ne.2 (Nat.ne_of_gt hcols)]
  rfl

/-! ### Places and padding -/

/-- The span of a layout with entries cannot be computed exactly if it is no machine size. -/
theorem exists_span_eq_error_iff (hrows : 0 < l.rows) (hcols : 0 < l.cols) :
    (∃ f, l.span = .error f) ↔ Size.limit ≤ (l.cols - 1) * l.ld + l.rows := by
  constructor
  · rintro ⟨f, hf⟩
    exact (span_eq_error hf).1
  · intro hle
    -- below the limit the span would have been computed
    cases hspan : l.span with
    | error f => exact ⟨f, rfl⟩
    | ok k =>
      obtain ⟨hlt, -⟩ := (span_eq_ok_iff (isEmpty_eq_false hrows hcols)).1 hspan
      exact absurd hlt (Nat.not_lt.2 hle)

/-- No place is computed with an overflow, if the span is not. -/
theorem offset_eq_place (hlt : (l.cols - 1) * l.ld + l.rows < Size.limit) (hr : r < l.rows)
    (hc : c < l.cols) : l.offset r c = .ok (c * l.ld + r) := by
  have hplace : c * l.ld + r < (l.cols - 1) * l.ld + l.rows := mul_add_lt_span hr hc
  exact offset_of_lt (Nat.lt_trans hplace hlt)

/-- **The span** is the number of entries, and the padding behind all columns but the last. -/
theorem span_eq_entries_add_padding (hld : l.rows ≤ l.ld) (hcols : 0 < l.cols) :
    (l.cols - 1) * l.ld + l.rows = l.rows * l.cols + (l.cols - 1) * (l.ld - l.rows) := by
  calc (l.cols - 1) * l.ld + l.rows
      = (l.cols - 1) * (l.rows + (l.ld - l.rows)) + l.rows := by rw [Nat.add_sub_cancel' hld]
    _ = (l.cols - 1) * l.rows + l.rows + (l.cols - 1) * (l.ld - l.rows) := by ring
    _ = l.rows * l.cols + (l.cols - 1) * (l.ld - l.rows) := by
      rw [pred_mul_add hcols, Nat.mul_comm l.cols]

/-- There is no padding in a layout with one column, and none in a packed one. -/
theorem entries_eq_span_iff (hld : l.rows ≤ l.ld) (hcols : 0 < l.cols) :
    l.rows * l.cols = (l.cols - 1) * l.ld + l.rows ↔ l.cols = 1 ∨ l.ld = l.rows := by
  rw [span_eq_entries_add_padding hld hcols, left_eq_add, Nat.mul_eq_zero]
  omega

/-- Without padding the places of the entries are all the places there are. -/
theorem exists_entry_iff_of_packed (hpacked : l.ld = l.rows) {t : Nat} :
    (∃ r < l.rows, ∃ c < l.cols, t = c * l.ld + r) ↔ t < l.rows * l.cols := by
  rw [hpacked, Nat.mul_comm]
  constructor
  · rintro ⟨r, hr, c, hc, rfl⟩
    exact mul_add_lt_mul hc hr
  · intro ht
    obtain ⟨c, hc, r, hr, rfl⟩ := exists_mul_add ht
    exact ⟨r, hr, c, hc, rfl⟩

/-! ### Spans -/

/-- **Spanned layouts.** The entries of the layout lie at different places below `k`, and the last
of these places is taken. The number of entries is at most `k`. -/
structure SpannedBy (l : Layout) (k : Nat) : Prop where
  place : ∀ r < l.rows, ∀ c < l.cols, ∃ t < k, l.offset r c = .ok t
  last : ∃ t, l.offset (l.rows - 1) (l.cols - 1) = .ok t ∧ t + 1 = k
  /-- A buffer with room for every entry has `k` elements. -/
  least : ∀ m, (∀ r < l.rows, ∀ c < l.cols, ∃ t < m, l.offset r c = .ok t) → k ≤ m
  apart : ∀ r < l.rows, ∀ c < l.cols, ∀ r' < l.rows, ∀ c' < l.cols,
    l.offset r c = l.offset r' c' → r = r' ∧ c = c'
  size_eq : l.size = .ok (l.rows * l.cols)
  size_le : l.rows * l.cols ≤ k
  size_eq_iff : l.rows * l.cols = k ↔ l.cols = 1 ∨ l.ld = l.rows
  /-- The places of a packed layout are those of its entries, counted through. -/
  packed : l.ld = l.rows →
    ∀ t, (∃ r < l.rows, ∃ c < l.cols, l.offset r c = .ok t) ↔ t < l.rows * l.cols

theorem spannedBy_of_span_eq_ok (hld : l.rows ≤ l.ld) (hrows : 0 < l.rows) (hcols : 0 < l.cols)
    (h : l.span = .ok k) : l.SpannedBy k := by
  obtain ⟨hlt, rfl⟩ := (span_eq_ok_iff (isEmpty_eq_false hrows hcols)).1 h
  have hlastRow : l.rows - 1 < l.rows := Nat.sub_lt hrows Nat.one_pos
  have hlastCol : l.cols - 1 < l.cols := Nat.sub_lt hcols Nat.one_pos
  -- every offset is a place, since the sums of it stay below the span
  have hlast := offset_eq_place hlt hlastRow hlastCol
  have hsize : l.rows * l.cols ≤ (l.cols - 1) * l.ld + l.rows := by
    rw [span_eq_entries_add_padding hld hcols]
    exact Nat.le_add_right _ _
  refine ⟨?place, ?last, ?least, ?apart, ?sizeEq, hsize, entries_eq_span_iff hld hcols, ?packed⟩
  case place =>
    intro r hr c hc
    exact ⟨_, mul_add_lt_span hr hc, offset_eq_place hlt hr hc⟩
  case last =>
    refine ⟨_, hlast, ?_⟩
    omega
  case least =>
    intro m hm
    -- the last entry alone needs that much
    obtain ⟨t, ht, hoffset⟩ := hm _ hlastRow _ hlastCol
    rw [hlast] at hoffset
    cases hoffset
    omega
  case apart =>
    intro r hr c hc r' hr' c' hc' heq
    rw [offset_eq_place hlt hr hc, offset_eq_place hlt hr' hc'] at heq
    -- a row is shorter than the leading dimension, and so the remainder of its place
    obtain ⟨hcol, hrow⟩ := mul_add_inj (Nat.lt_of_lt_of_le hr hld) (Nat.lt_of_lt_of_le hr' hld)
      (Except.ok.inj heq)
    exact ⟨hrow, hcol⟩
  case sizeEq => exact Size.mul_eq_ok_iff.2 ⟨Nat.lt_of_le_of_lt hsize hlt, rfl⟩
  case packed =>
    intro hpacked t
    -- without padding the places are all that there are
    rw [← exists_entry_iff_of_packed hpacked]
    constructor
    · rintro ⟨r, hr, c, hc, hoffset⟩
      rw [offset_eq_place hlt hr hc] at hoffset
      cases hoffset
      exact ⟨r, hr, c, hc, rfl⟩
    · rintro ⟨r, hr, c, hc, rfl⟩
      exact ⟨r, hr, c, hc, offset_eq_place hlt hr hc⟩

/-- **Spans are sound and tight.** Let a layout be built. If it has entries, then its span can be
computed exactly if it is a machine size, and the entries are spanned by it. If it has none, its
span is zero, and so is its size. -/
theorem span_sound_and_tight (h : l.Built) :
    (0 < l.rows → 0 < l.cols →
      ((∃ f, l.span = .error f) ↔ Size.limit ≤ (l.cols - 1) * l.ld + l.rows) ∧
        ∀ k, l.span = .ok k → l.SpannedBy k) ∧
    (l.rows = 0 ∨ l.cols = 0 → l.span = .ok 0 ∧ l.size = .ok 0) := by
  refine ⟨fun hrows hcols => ⟨exists_span_eq_error_iff hrows hcols, fun k hk => ?_⟩, fun h0 => ?_⟩
  -- what was built and has columns has room for its rows
  · have hld := (built_iff.1 h).resolve_left (Nat.ne_of_gt hcols)
    exact spannedBy_of_span_eq_ok hld hrows hcols hk
  -- without entries nothing is computed, whatever the leading dimension
  · have hempty : l.isEmpty = true := by
      unfold isEmpty
      rw [Bool.or_eq_true, beq_iff_eq, beq_iff_eq]
      exact h0
    have hsize : l.rows * l.cols = 0 := Nat.mul_eq_zero.2 h0
    refine ⟨span_of_isEmpty hempty, Size.mul_eq_ok_iff.2 ⟨?_, hsize.symm⟩⟩
    rw [hsize]
    decide

/-- Three columns so far apart that the span of three rows is the largest machine size. With one
more row it is none. -/
theorem span_sound_and_tight_largest :
    Built ⟨3, 3, 0x7FFFFFFFFFFFFFFE⟩ ∧ Built ⟨4, 3, 0x7FFFFFFFFFFFFFFE⟩ ∧
      SpannedBy ⟨3, 3, 0x7FFFFFFFFFFFFFFE⟩ 0xFFFFFFFFFFFFFFFF ∧
      ∃ f, span ⟨4, 3, 0x7FFFFFFFFFFFFFFE⟩ = .error f := by
  have hthree : Layout.withLeading 3 3 0x7FFFFFFFFFFFFFFE = .ok ⟨3, 3, 0x7FFFFFFFFFFFFFFE⟩ := rfl
  have hfour : Layout.withLeading 4 3 0x7FFFFFFFFFFFFFFE = .ok ⟨4, 3, 0x7FFFFFFFFFFFFFFE⟩ := rfl
  obtain ⟨-, hspanned⟩ := (span_sound_and_tight (.withLeading hthree)).1 (by decide) (by decide)
  obtain ⟨herror, -⟩ := (span_sound_and_tight (.withLeading hfour)).1 (by decide) (by decide)
  exact ⟨.withLeading hthree, .withLeading hfour, hspanned _ rfl, herror.2 (by decide)⟩

end Layout

end DenseKron
