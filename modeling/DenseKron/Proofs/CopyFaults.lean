import DenseKron.Proofs.Schedules

/-!
# When a block copy stops

A block copy checks four inequalities, and behind them it computes places in four loops without
looking back. This module is about both sides of the checks.

In front of them, the four inequalities are a statement about exact numbers (`CopyRequest.Unfit`),
while the checks compute with machine sizes. The two agree because a buffer is never longer than an
allocation: a span that does not fit a machine word is also longer than the buffer, so that an
overflow only says in other words that a buffer is too short (`Layout.lt_of_span_eq_error`). And the
layouts that the checks build are never refused, for their leading dimensions have been looked at
before.

Behind them, nothing can fail any more (`CopyPlan.Unfailing`): the two spans bound every place that
either way of copying computes. So a copy stops exactly when its plan does, in the buffer that it
found (`Copier.copy_eq_error_iff`).
-/

namespace DenseKron

/-! ### Computations that fail -/

theorem Fault.bind_eq_error_iff {β γ : Type} {e : Except Fault β} {next : β → Except Fault γ}
    {f : Fault} :
    (e >>= next) = .error f ↔ e = .error f ∨ ∃ x, e = .ok x ∧ next x = .error f := by
  cases e <;> simp [bind, Except.bind]

theorem Fault.require_bind_eq_error_iff {γ : Type} {c : Prop} [Decidable c] {f f' : Fault}
    {next : Unit → Except Fault γ} :
    (require c f >>= next) = .error f' ↔ ¬ c ∧ f' = f ∨ c ∧ next () = .error f' := by
  by_cases h : c <;> simp [require, h, bind, Except.bind, eq_comm]

theorem require_eq_error_iff {c : Prop} [Decidable c] {f f' : Fault} :
    require c f = .error f' ↔ ¬ c ∧ f' = f := by
  by_cases h : c <;> simp [require, h, eq_comm]

theorem Size.mul_eq_error_iff {x y : Nat} {f : Fault} :
    Size.mul x y = .error f ↔ Size.limit ≤ x * y ∧ f = .mulOverflow := by
  by_cases h : x * y < Size.limit <;> simp [Size.mul, h, eq_comm]
  omega

theorem Size.add_eq_error_iff {x y : Nat} {f : Fault} :
    Size.add x y = .error f ↔ Size.limit ≤ x + y ∧ f = .addOverflow := by
  by_cases h : x + y < Size.limit <;> simp [Size.add, h, eq_comm]
  omega

/-- What is not longer than a buffer is a machine size. -/
theorem Size.lt_limit_of_le {x n : Nat} (h : x ≤ n) (hn : n ≤ Size.allocationLimit) :
    x < Size.limit :=
  Nat.lt_of_le_of_lt (Nat.le_trans h hn) (by decide)

/-- The fault of a computation with sizes whose result does not fit a machine word. -/
def Fault.IsOverflow (f : Fault) : Prop := f = .mulOverflow ∨ f = .addOverflow

namespace Layout

variable {l : Layout} {f : Fault}

theorem span_eq_error (h : l.span = .error f) :
    Size.limit ≤ (l.cols - 1) * l.ld + l.rows ∧ f.IsOverflow := by
  unfold span at h
  split at h
  · cases h
  · obtain hmul | ⟨x, hx, hadd⟩ := Fault.bind_eq_error_iff.1 h
    -- the product has overflown, and the sum would have as well
    · obtain ⟨hle, rfl⟩ := Size.mul_eq_error_iff.1 hmul
      exact ⟨Nat.le_add_right_of_le hle, Or.inl rfl⟩
    -- the product is a size, and the sum is none
    · obtain ⟨-, rfl⟩ := Size.mul_eq_ok_iff.1 hx
      obtain ⟨hle, rfl⟩ := Size.add_eq_error_iff.1 hadd
      exact ⟨hle, Or.inr rfl⟩

/-- A span that cannot be computed is longer than any buffer. -/
theorem lt_of_span_eq_error (h : l.span = .error f) {n : Nat} (hn : n ≤ Size.allocationLimit) :
    n < (l.cols - 1) * l.ld + l.rows := by
  by_contra hle
  have hlt := Size.lt_limit_of_le (Nat.not_lt.1 hle) hn
  exact absurd (span_eq_error h).1 (Nat.not_le.2 hlt)

end Layout

/-! ### Requests that are turned down -/

namespace CopyRequest

variable {r : CopyRequest} {m n : Nat} {f : Fault}

/-- **A request that does not fit** a source of `m` elements and a destination of `n`, in exact
numbers. -/
def Unfit (r : CopyRequest) (m n : Nat) : Prop :=
  r.lda < r.sourceShape.rows ∨ r.ldb < r.destinationShape.rows ∨
    m < (r.sourceShape.cols - 1) * r.lda + r.sourceShape.rows ∨
    n < (r.destinationShape.cols - 1) * r.ldb + r.destinationShape.rows

theorem sourceShape_pos (hne : ¬ r.IsEmpty) : 0 < r.sourceShape.rows ∧ 0 < r.sourceShape.cols := by
  rw [isEmpty_iff] at hne
  omega

theorem destinationShape_pos (hne : ¬ r.IsEmpty) :
    0 < r.destinationShape.rows ∧ 0 < r.destinationShape.cols := by
  obtain ⟨hrows, hcols⟩ := sourceShape_pos hne
  unfold destinationShape
  cases r.transpose with
  | noTrans => exact ⟨hrows, hcols⟩
  | trans => exact ⟨hcols, hrows⟩

theorem not_unfit_iff (hne : ¬ r.IsEmpty) (hm : m ≤ Size.allocationLimit)
    (hn : n ≤ Size.allocationLimit) : ¬ r.Unfit m n ↔ r.columnPlan.Fits m n := by
  obtain ⟨hrows, hcols⟩ := sourceShape_pos hne
  rw [Unfit, destinationShape_rows, destinationShape_cols]
  constructor
  · intro h
    push Not at h
    obtain ⟨hlda, hldb, hsource, hdestination⟩ := h
    -- the two bounds below the limit are not among the inequalities, they follow from them
    exact
      { rows_pos := hrows
        cols_pos := hcols
        rows_le := hlda
        destinationRows_le := hldb
        source_lt := Size.lt_limit_of_le hsource hm
        source_le := hsource
        destination_lt := Size.lt_limit_of_le hdestination hn
        destination_le := hdestination }
  · rintro h (hlda | hldb | hsource | hdestination)
    · exact absurd h.rows_le (Nat.not_le.2 hlda)
    · exact absurd h.destinationRows_le (Nat.not_le.2 hldb)
    · exact absurd h.source_le (Nat.not_le.2 hsource)
    · exact absurd h.destination_le (Nat.not_le.2 hdestination)

theorem plan_eq_error_iff :
    r.plan m n = .error f ↔ ¬ r.IsEmpty ∧ r.checks m n = .error f := by
  -- an empty request is planned without being checked
  by_cases hempty : r.IsEmpty
  · rw [plan_of_isEmpty hempty]
    constructor
    · intro h
      cases h
    · exact fun h => absurd hempty h.1
  · rw [plan, if_neg hempty, Fault.bind_eq_error_iff]
    constructor
    · rintro (h | ⟨⟨⟩, -, h⟩)
      · exact ⟨hempty, h⟩
      · cases h
    · exact fun h => Or.inl h.2

/-- A layout that steps over a whole column is granted, and behind it the span can overflow. -/
theorem span_bind_eq_error {γ : Type} {rows cols ld : Nat} (hrows : 0 < rows) (hcols : 0 < cols)
    (hld : rows ≤ ld) {next : Nat → Except Fault γ}
    (h : (Layout.withLeading rows cols ld >>= fun l => l.span >>= next) = .error f) :
    Size.limit ≤ (cols - 1) * ld + rows ∧ f.IsOverflow ∨
      next ((cols - 1) * ld + rows) = .error f := by
  have hne : (Layout.mk rows cols ld).isEmpty = false := by
    simp [Layout.isEmpty, Nat.ne_of_gt hrows, Nat.ne_of_gt hcols]
  -- the leading dimension has been checked, so the layout is granted
  have hgranted : Layout.withLeading rows cols ld = .ok ⟨rows, cols, ld⟩ :=
    Layout.withLeading_eq_ok_iff.2 ⟨Or.inr hld, rfl⟩
  rw [hgranted] at h
  have h : ((Layout.mk rows cols ld).span >>= next) = .error f := h
  obtain hspan | ⟨required, hspan, hnext⟩ := Fault.bind_eq_error_iff.1 h
  · exact Or.inl (Layout.span_eq_error hspan)
  · obtain ⟨-, rfl⟩ := (Layout.span_eq_ok_iff hne).1 hspan
    exact Or.inr hnext

/-- **What a request is turned down for.** Each fault names the inequality that does not hold, with
the numbers in it, unless one of them is too large to be computed. -/
theorem checks_eq_error (hne : ¬ r.IsEmpty) (h : r.checks m n = .error f) :
    r.lda < r.sourceShape.rows ∧ f = .narrowSource r.lda r.sourceShape.rows ∨
    r.ldb < r.destinationShape.rows ∧ f = .narrowDestination r.ldb r.destinationShape.rows ∨
    Size.limit ≤ (r.sourceShape.cols - 1) * r.lda + r.sourceShape.rows ∧ f.IsOverflow ∨
    m < (r.sourceShape.cols - 1) * r.lda + r.sourceShape.rows ∧
      f = .shortSource m r.sourceShape.rows r.sourceShape.cols r.lda
        ((r.sourceShape.cols - 1) * r.lda + r.sourceShape.rows) ∨
    Size.limit ≤ (r.destinationShape.cols - 1) * r.ldb + r.destinationShape.rows ∧ f.IsOverflow ∨
    n < (r.destinationShape.cols - 1) * r.ldb + r.destinationShape.rows ∧
      f = .shortDestination n r.destinationShape.rows r.destinationShape.cols r.ldb
        ((r.destinationShape.cols - 1) * r.ldb + r.destinationShape.rows) := by
  obtain ⟨hrows, hcols⟩ := sourceShape_pos hne
  obtain ⟨hdrows, hdcols⟩ := destinationShape_pos hne
  -- one check after the other: it is the one that fails, or it holds and the next one is looked at
  rw [checks] at h
  obtain ⟨hlda, hf⟩ | ⟨hlda, h⟩ := Fault.require_bind_eq_error_iff.1 h
  · exact Or.inl ⟨Nat.not_le.1 hlda, hf⟩
  right
  obtain ⟨hldb, hf⟩ | ⟨hldb, h⟩ := Fault.require_bind_eq_error_iff.1 h
  · exact Or.inl ⟨Nat.not_le.1 hldb, hf⟩
  right
  obtain hover | h := span_bind_eq_error hrows hcols hlda h
  · exact Or.inl hover
  right
  obtain ⟨hshort, hf⟩ | ⟨-, h⟩ := Fault.require_bind_eq_error_iff.1 h
  · exact Or.inl ⟨Nat.not_le.1 hshort, hf⟩
  right
  obtain hover | h := span_bind_eq_error hdrows hdcols hldb h
  · exact Or.inl hover
  right
  obtain ⟨hshort, hf⟩ := require_eq_error_iff.1 h
  exact ⟨Nat.not_le.1 hshort, hf⟩

/-- Layouts are not what a request is turned down for. -/
theorem ne_narrowLayout_of_checks (hne : ¬ r.IsEmpty) (h : r.checks m n = .error f)
    (ld rows : Nat) : f ≠ .narrowLayout ld rows := by
  obtain ⟨-, rfl⟩ | ⟨-, rfl⟩ | ⟨-, rfl | rfl⟩ | ⟨-, rfl⟩ | ⟨-, rfl | rfl⟩ | ⟨-, rfl⟩ :=
    checks_eq_error hne h
  all_goals
    intro hlayout
    cases hlayout

end CopyRequest

/-! ### Plans that cannot fail -/

theorem Window.Contains.mono {α : Type} {inner outer : Window} {task : List (Action α)}
    (h : inner.Contains task) (hstart : outer.start ≤ inner.start)
    (hstop : inner.start + inner.length ≤ outer.start + outer.length) : outer.Contains task := by
  intro act hact
  obtain ⟨s, rfl, hle, hlt⟩ := h act hact
  exact ⟨s, rfl, Nat.le_trans hstart hle, Nat.lt_of_lt_of_le hlt hstop⟩

namespace CopyPlan

variable {α : Type} [One α] [Mul α] [DecidableEq α] {p : CopyPlan} {a : Array α} {w : Window}
  {x : Nat → Nat → α}

/-- **A plan that cannot fail** on a source and a window. All sizes that are computed on the way fit
a machine word, and either way of copying reads the source and writes to the window only where they
have elements. -/
structure Unfailing (p : CopyPlan) (alpha : α) (a : Array α) (w : Window) : Prop where
  /-- The number of entries, which is compared with the threshold. -/
  count : Size.mul p.rows p.cols = .ok (p.rows * p.cols)
  /-- Chunks have a length. -/
  chunk_pos : 0 < p.ldb
  source : ∀ j < p.cols, ∀ i ≤ p.rows,
    offset i j p.lda = .ok (j * p.lda + i) ∧ j * p.lda + i ≤ a.size
  destination : ∀ j < p.destinationCols, ∀ i ≤ p.destinationRows,
    offset i j p.ldb = .ok (j * p.ldb + i) ∧ j * p.ldb + i ≤ w.length
  column : ∀ j < p.cols, w.Contains (p.column alpha a w j)
  chunk : ∀ piece ∈ p.pieces w, p.destinationRows ≤ piece.1.length
  task : ∀ task ∈ p.tasks alpha a w, w.Contains task

/-- A source column goes to places of the window. -/
theorem contains_column (h : p.Fits a.size w.length) (hx : Holds a p.rows p.cols p.lda x)
    (alpha : α) {j : Nat} (hj : j < p.cols) : w.Contains (p.column alpha a w j) := by
  intro act hact
  cases hp : p.transpose with
  | noTrans =>
    rw [column_of_noTrans hp h hx alpha hj] at hact
    obtain ⟨s, hs, rfl⟩ := List.mem_map.1 hact
    obtain ⟨i, hi, rfl⟩ := List.mem_map.1 hs
    have hi : i < p.rows := List.mem_range.1 hi
    -- the elements of column `j` go to column `j`
    have hend := (h.destination_end (destinationCols_of_noTrans hp ▸ hj)).2
    rw [destinationRows_of_noTrans hp] at hend
    refine ⟨_, rfl, Nat.le_add_right _ _, ?_⟩
    show w.start + (j * p.ldb + i) < w.start + w.length
    omega
  | trans =>
    rw [column_of_trans hp h hx alpha hj] at hact
    obtain ⟨s, hs, rfl⟩ := List.mem_map.1 hact
    obtain ⟨i, hi, rfl⟩ := List.mem_map.1 hs
    have hi : i < p.rows := List.mem_range.1 hi
    -- element `i` goes to the end of column `i` at most
    have hend := (h.destination_end (destinationCols_of_trans hp ▸ hi)).2
    rw [destinationRows_of_trans hp] at hend
    refine ⟨_, rfl, Nat.le_add_right _ _, ?_⟩
    show w.start + (i * p.ldb + j) < w.start + w.length
    omega

theorem contains_task (h : p.Fits a.size w.length) (hx : Holds a p.rows p.cols p.lda x)
    (alpha : α) {task : List (Action α)} (htask : task ∈ p.tasks alpha a w) :
    w.Contains task := by
  obtain ⟨piece, hpiece, rfl⟩ := List.mem_map.1 htask
  obtain ⟨k, hk, rfl⟩ := (mem_pieces_iff h).1 hpiece
  exact (contains_task_chunk h hx alpha hk).mono (Nat.le_add_right _ _) (h.chunk_end hk)

/-- A plan that fits cannot fail. -/
theorem Fits.unfailing (h : p.Fits a.size w.length) (alpha : α) : p.Unfailing alpha a w := by
  -- the actions do not depend on what the block holds, but they are known for a block
  obtain ⟨x, hx⟩ := exists_holds (1 : α) (Or.inr (Or.inr h.source_le))
  exact
    { count := Size.mul_eq_ok_iff.2 ⟨h.mul_lt_limit, rfl⟩
      chunk_pos := Nat.lt_of_lt_of_le h.destinationRows_pos h.destinationRows_le
      source := fun j hj i hi => by
        obtain ⟨hlt, hle⟩ := h.source_end hj
        exact ⟨offset_of_lt (by omega), by omega⟩
      destination := fun j hj i hi => by
        obtain ⟨hlt, hle⟩ := h.destination_end hj
        exact ⟨offset_of_lt (by omega), by omega⟩
      column := fun j hj => contains_column h hx alpha hj
      chunk := fun piece hpiece => by
        obtain ⟨k, hk, rfl⟩ := (mem_pieces_iff h).1 hpiece
        exact h.chunk_length hk
      task := fun task htask => contains_task h hx alpha htask }

end CopyPlan

/-! ### The copy -/

namespace Copier

variable {α : Type} [One α] [Mul α] [DecidableEq α] {r : CopyRequest} {a b b' : Array α}
  {start : Nat} {w : Window} {f : Fault}

/-- **A copy stops exactly when its plan does**, in the buffer that it found. -/
theorem copy_eq_error_iff (c : Copier) (hw : Write.window start b = .ok w b) (alpha : α) :
    c.copy r alpha a start b = .error f b' ↔ r.plan a.size w.length = .error f ∧ b' = b := by
  obtain ⟨hstart, hwindow, -⟩ := Write.window_eq_ok_iff.1 hw
  cases hplan : r.plan a.size w.length with
  | error f' =>
    have hstop : c.copy r alpha a start b = .error f' b := by
      rw [copy, EStateM.bind_of_ok hw, Guarded.liftM_bind_of_error hplan]
    rw [hstop]
    constructor
    · intro h
      cases h
      exact ⟨rfl, rfl⟩
    · rintro ⟨h, rfl⟩
      cases h
      rfl
  | ok o =>
    -- a planned copy runs to its end, so that neither side holds
    have hend : ∃ b'', c.copy r alpha a start b = .ok () b'' := by
      by_cases hempty : r.IsEmpty
      · exact ⟨b, copy_of_isEmpty c hempty hstart alpha⟩
      · obtain ⟨hfit, -⟩ := (CopyRequest.plan_eq_ok_iff hempty).1 hplan
        rw [hwindow] at hfit
        obtain ⟨y, hy⟩ := CopyRequest.exists_entries (1 : α) hfit
        exact ⟨_, copy_writes c hstart hfit hy alpha b rfl⟩
    obtain ⟨b'', hend⟩ := hend
    rw [hend]
    constructor
    · intro h
      cases h
    · rintro ⟨h, -⟩
      cases h

/-- **When a copy stops.** Let the source and the window from `start` on be no longer than an
allocation.

* A request for an empty block changes nothing, and does not stop whatever it says.
* Any other request stops exactly when it does not fit, in exact numbers.
* A request that stops leaves the buffer as it was, and does not blame a layout.
* The span of a block overflows only where the buffer is too short for the block.
* A request that fits has a plan that cannot fail. -/
theorem copy_stops_iff_unfit (c : Copier) (r : CopyRequest) (alpha : α)
    (hw : Write.window start b = .ok w b) (ha : a.size ≤ Size.allocationLimit)
    (hb : w.length ≤ Size.allocationLimit) :
    (r.rows = 0 ∨ r.cols = 0 → c.copy r alpha a start b = .ok () b) ∧
    (0 < r.rows ∧ 0 < r.cols →
      ((∃ f b', c.copy r alpha a start b = .error f b') ↔ r.Unfit a.size w.length)) ∧
    (∀ f b', c.copy r alpha a start b = .error f b' →
      b' = b ∧ ∀ ld rows, f ≠ .narrowLayout ld rows) ∧
    (∀ f, (Layout.mk r.sourceShape.rows r.sourceShape.cols r.lda).span = .error f →
      a.size < (r.sourceShape.cols - 1) * r.lda + r.sourceShape.rows) ∧
    (∀ f, (Layout.mk r.destinationShape.rows r.destinationShape.cols r.ldb).span = .error f →
      w.length < (r.destinationShape.cols - 1) * r.ldb + r.destinationShape.rows) ∧
    (0 < r.rows ∧ 0 < r.cols → ¬ r.Unfit a.size w.length →
      r.plan a.size w.length = .ok (some r.columnPlan) ∧
        r.columnPlan.Unfailing alpha a w) := by
  obtain ⟨hstart, -, -⟩ := Write.window_eq_ok_iff.1 hw
  have hnonempty : 0 < r.rows ∧ 0 < r.cols → ¬ r.IsEmpty := by
    unfold CopyRequest.IsEmpty
    omega
  refine ⟨fun hempty => copy_of_isEmpty c hempty hstart alpha, fun hpos => ?_, fun f b' h => ?_,
    fun f h => Layout.lt_of_span_eq_error h ha, fun f h => Layout.lt_of_span_eq_error h hb,
    fun hpos hunfit => ?_⟩
  · have hne := hnonempty hpos
    -- both sides are denied, for what fits can be said in one piece
    rw [← not_iff_not, CopyRequest.not_unfit_iff hne ha hb]
    constructor
    · intro h
      cases hplan : r.plan a.size w.length with
      | error f => exact absurd ⟨f, b, (copy_eq_error_iff c hw alpha).2 ⟨hplan, rfl⟩⟩ h
      | ok o => exact ((CopyRequest.plan_eq_ok_iff hne).1 hplan).1
    · rintro hfit ⟨f, b', h⟩
      obtain ⟨hstop, -⟩ := (copy_eq_error_iff c hw alpha).1 h
      rw [(CopyRequest.plan_eq_ok_iff hne).2 ⟨hfit, rfl⟩] at hstop
      cases hstop
  · obtain ⟨hplan, rfl⟩ := (copy_eq_error_iff c hw alpha).1 h
    obtain ⟨hne, hchecks⟩ := CopyRequest.plan_eq_error_iff.1 hplan
    exact ⟨rfl, CopyRequest.ne_narrowLayout_of_checks hne hchecks⟩
  · have hne := hnonempty hpos
    have hfit := (CopyRequest.not_unfit_iff hne ha hb).1 hunfit
    exact ⟨(CopyRequest.plan_eq_ok_iff hne).2 ⟨hfit, rfl⟩, hfit.unfailing alpha⟩

/-- A source whose span overflows, and which is far too short for it. -/
theorem copy_stops_iff_unfit_overflow :
    copy .portable { rows := 1, cols := 0x10000000000, lda := 0x40000000, ldb := 1 } 2 #[5, 6] 0
        #[9] = .error .mulOverflow #[9] ∧
      CopyRequest.Unfit { rows := 1, cols := 0x10000000000, lda := 0x40000000, ldb := 1 } 2 1 := by
  have hstop : copy .portable { rows := 1, cols := 0x10000000000, lda := 0x40000000, ldb := 1 } 2
      #[5, 6] 0 #[9] = .error .mulOverflow #[9] := rfl
  have hw : Write.window 0 #[9] = .ok ⟨0, 1⟩ #[9] := rfl
  have ha : #[5, 6].size ≤ Size.allocationLimit := by decide
  obtain ⟨-, hiff, -⟩ := copy_stops_iff_unfit .portable
    { rows := 1, cols := 0x10000000000, lda := 0x40000000, ldb := 1 } 2 hw ha (by decide)
  exact ⟨hstop, (hiff ⟨by decide, by decide⟩).1 ⟨_, _, hstop⟩⟩

end Copier

end DenseKron
