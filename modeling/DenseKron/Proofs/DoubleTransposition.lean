import DenseKron.Proofs.CopyContract

/-!
# Transposing twice

A block that a copy has transposed can be sent back: with rows and columns exchanged, and with them
the two leading dimensions (`CopyRequest.back`). The way back needs no checks of its own. What it
asks of its source is what the way there asked of its destination, and the other way round
(`CopyPlan.Fits.back`), so that the third buffer is the only one that could be too short.

The two scatters are inverse to each other on the block, and only there: the padding of the third
buffer is its own (`CopyRequest.Overlays`). A buffer is determined by what has been overlaid on it
(`Overlays.unique`), which is how the two transpositions are compared with a plain copy: both
overlay the same block, if the factors are `1` and a one on the left changes none of its elements.
-/

namespace DenseKron

/-! ### The way back -/

namespace CopyRequest

/-- **The way back.** The request that returns a transposed block to the places it came from. -/
def back (r : CopyRequest) : CopyRequest where
  order := r.order
  transpose := .trans
  rows := r.cols
  cols := r.rows
  lda := r.ldb
  ldb := r.lda

/-- The request to copy a block as it is, to the places that it has in its own buffer. -/
def likewise (r : CopyRequest) : CopyRequest where
  order := r.order
  transpose := .noTrans
  rows := r.rows
  cols := r.cols
  lda := r.lda
  ldb := r.lda

/-- The layout of the source block, read column-major. -/
def sourceLayout (r : CopyRequest) : Layout := ⟨r.sourceShape.rows, r.sourceShape.cols, r.lda⟩

theorem back_destinationPlace (r : CopyRequest) (row col : Nat) :
    r.back.destinationPlace col row = r.sourcePlace row col := rfl

theorem back_sourcePlace {r : CopyRequest} (ht : r.transpose = .trans) (row col : Nat) :
    r.back.sourcePlace col row = r.destinationPlace row col := by
  unfold destinationPlace
  rw [ht]
  rfl

theorem likewise_destinationPlace (r : CopyRequest) (row col : Nat) :
    r.likewise.destinationPlace row col = r.sourcePlace row col := rfl

theorem back_isEmpty {r : CopyRequest} (h : r.IsEmpty) : r.back.IsEmpty := h.symm

theorem likewise_isEmpty {r : CopyRequest} (h : r.IsEmpty) : r.likewise.IsEmpty := h

/-! ### The room for a block -/

theorem span_of_isEmpty {r : CopyRequest} (h : r.IsEmpty) : r.sourceLayout.span = .ok 0 := by
  refine Layout.span_of_isEmpty ?_
  rcases r.isEmpty_iff.1 h with h0 | h0 <;> simp [Layout.isEmpty, sourceLayout, h0]

theorem span_of_fits {r : CopyRequest} {m n : Nat} (h : r.columnPlan.Fits m n) :
    r.sourceLayout.span =
      .ok ((r.columnPlan.cols - 1) * r.columnPlan.lda + r.columnPlan.rows) := by
  have hrows : r.sourceShape.rows ≠ 0 := Nat.ne_of_gt h.rows_pos
  have hcols : r.sourceShape.cols ≠ 0 := Nat.ne_of_gt h.cols_pos
  have hsome : r.sourceLayout.isEmpty = false := by
    simp [Layout.isEmpty, sourceLayout, hrows, hcols]
  exact (Layout.span_eq_ok_iff hsome).2 ⟨h.source_lt, rfl⟩

end CopyRequest

/-- The plan of the way back. -/
def CopyPlan.back (p : CopyPlan) : CopyPlan where
  transpose := .trans
  rows := p.cols
  cols := p.rows
  lda := p.ldb
  ldb := p.lda

/-- In either storage order the way back is planned as the way back of the plan. -/
theorem CopyRequest.back_columnPlan (r : CopyRequest) : r.back.columnPlan = r.columnPlan.back := by
  unfold CopyRequest.columnPlan CopyRequest.sourceShape CopyPlan.back
  cases horder : r.order <;> simp [CopyRequest.back, StorageOrder.columnShape, Shape.swap, horder]

/-- **The way back fits**, if there is room for the source block. All that it asks of the buffer in
between has been asked on the way there. -/
theorem CopyPlan.Fits.back {p : CopyPlan} {m n k : Nat} (h : p.Fits m n)
    (ht : p.transpose = .trans) (hk : (p.cols - 1) * p.lda + p.rows ≤ k) : p.back.Fits n k := by
  have hrows := CopyPlan.destinationRows_of_trans ht
  have hcols := CopyPlan.destinationCols_of_trans ht
  have hle := h.destinationRows_le
  have hlt := h.destination_lt
  have hend := h.destination_le
  rw [hrows] at hle
  rw [hrows, hcols] at hlt hend
  exact
    { rows_pos := h.cols_pos
      cols_pos := h.rows_pos
      rows_le := hle
      destinationRows_le := h.rows_le
      source_lt := hlt
      source_le := hend
      destination_lt := h.source_lt
      destination_le := hk }

/-- A copy to the places of the source fits, if there is room for the source block. -/
theorem CopyRequest.fits_likewise {r : CopyRequest} {m n k : Nat} (h : r.columnPlan.Fits m n)
    (hk : (r.columnPlan.cols - 1) * r.columnPlan.lda + r.columnPlan.rows ≤ k) :
    r.likewise.columnPlan.Fits m k :=
  { rows_pos := h.rows_pos
    cols_pos := h.cols_pos
    rows_le := h.rows_le
    destinationRows_le := h.rows_le
    source_lt := h.source_lt
    source_le := h.source_le
    destination_lt := h.source_lt
    destination_le := hk }

/-! ### Overlaid blocks -/

section Overlays

variable {α : Type} {r : CopyRequest} {f g : α → α} {a d d' e : Array α}

/-- **A block overlaid on a buffer.** The buffer `d'` is `d`, but for the source block of `a`, which
it has at the very places that `a` has it at, each element sent through `f`. -/
structure CopyRequest.Overlays (r : CopyRequest) (f : α → α) (a d d' : Array α) : Prop where
  size_eq : d'.size = d.size
  entry : ∀ row < r.rows, ∀ col < r.cols, ∃ x, a[r.order.place row col r.lda]? = some x ∧
    d'[r.order.place row col r.lda]? = some (f x)
  rest : ∀ t, (∀ row < r.rows, ∀ col < r.cols, t ≠ r.order.place row col r.lda) → d'[t]? = d[t]?

namespace CopyRequest.Overlays

/-- What is overlaid, and on what, determines the buffer. -/
theorem unique (h : r.Overlays f a d d') (h' : r.Overlays f a d e) : d' = e := by
  refine Array.ext_getElem? fun t => ?_
  -- a place is one of the block, or it has been left alone
  by_cases hplace : ∃ row < r.rows, ∃ col < r.cols, t = r.order.place row col r.lda
  · obtain ⟨row, hrow, col, hcol, rfl⟩ := hplace
    obtain ⟨x, hx, hd⟩ := h.entry row hrow col hcol
    obtain ⟨y, hy, he⟩ := h'.entry row hrow col hcol
    rw [hd, he, Option.some.inj (hx.symm.trans hy)]
  · have hfree : ∀ row < r.rows, ∀ col < r.cols, t ≠ r.order.place row col r.lda :=
      fun row hrow col hcol heq => hplace ⟨row, hrow, col, hcol, heq⟩
    rw [h.rest t hfree, h'.rest t hfree]

/-- Only the elements of the block are sent through `f`. -/
theorem congr (h : r.Overlays f a d d')
    (hfg : ∀ row < r.rows, ∀ col < r.cols, ∀ x, a[r.order.place row col r.lda]? = some x →
      f x = g x) : r.Overlays g a d d' := by
  refine ⟨h.size_eq, fun row hrow col hcol => ?_, h.rest⟩
  obtain ⟨x, hx, hd⟩ := h.entry row hrow col hcol
  exact ⟨x, hx, hd.trans (congrArg some (hfg row hrow col hcol x hx))⟩

/-- Nothing is overlaid by an empty block. -/
theorem of_isEmpty (h : r.IsEmpty) (f : α → α) (a d : Array α) : r.Overlays f a d d := by
  refine ⟨rfl, fun row hrow col hcol => ?_, fun _ _ => rfl⟩
  rcases h with hrows | hcols
  · exact absurd hrow (by omega)
  · exact absurd hcol (by omega)

end CopyRequest.Overlays

end Overlays

/-! ### Two copies -/

namespace Copier

variable {α : Type} [One α] [Mul α] [DecidableEq α] {r : CopyRequest} {a b b' : Array α}

/-- A copy whose plan fits ends well. -/
theorem exists_copy_eq_ok_of_fits (c : Copier) {start : Nat} (hstart : start ≤ b.size)
    (hfit : r.columnPlan.Fits a.size (b.size - start)) (alpha : α) :
    ∃ b', c.copy r alpha a start b = .ok () b' := by
  obtain ⟨y, hy⟩ := CopyRequest.exists_entries (1 : α) hfit
  exact ⟨_, copy_writes c hstart hfit hy alpha b rfl⟩

/-- A plain copy to the places of the source overlays the block as it is. -/
theorem overlays_of_copy_likewise {c : Copier} {d d' : Array α}
    (h : c.copy r.likewise 1 a 0 d = .ok () d') : r.Overlays id a d d' := by
  obtain ⟨y, hy, harrive, hrest, hsize⟩ := exists_arrivals_of_copy_eq_ok h
  simp only [CopyRequest.likewise_destinationPlace, Nat.zero_add] at harrive hrest
  refine ⟨hsize, fun row hrow col hcol => ⟨y row col, hy row hrow col hcol, ?_⟩, hrest⟩
  -- by the factor `1` nothing is multiplied
  have hscale : r.likewise.arriving 1 (y row col) = y row col := scale_one _
  exact (harrive row hrow col hcol).trans (congrArg some hscale)

/-- **There and back.** The copy back overlays the block that was sent there, multiplied by one
factor and then by the other. -/
theorem overlays_of_copy_back {c c' : Copier} {alpha beta : α} {d d' : Array α}
    (ht : r.transpose = .trans) (h : c.copy r alpha a 0 b = .ok () b')
    (h' : c'.copy r.back beta b' 0 d = .ok () d') :
    r.Overlays (fun x => beta * (alpha * x)) a d d' := by
  obtain ⟨y, hy, hthere, -, -⟩ := exists_arrivals_of_copy_eq_ok h
  obtain ⟨z, hz, hback, hrest, hsize⟩ := exists_arrivals_of_copy_eq_ok h'
  simp only [CopyRequest.back_destinationPlace, Nat.zero_add] at hback hrest
  refine ⟨hsize, fun row hrow col hcol => ⟨y row col, hy row hrow col hcol, ?_⟩,
    fun t hfree => hrest t fun col hcol row hrow => hfree row hrow col hcol⟩
  -- the second copy reads its entry where the first one has left it
  have hread : z col row = alpha * y row col := by
    have hsent := hthere row hrow col hcol
    have hfound := hz col hcol row hrow
    rw [Nat.zero_add, CopyRequest.arriving, ht] at hsent
    rw [CopyRequest.back_sourcePlace ht] at hfound
    exact Option.some.inj (hfound.symm.trans hsent)
  calc d'[r.sourcePlace row col]? = some (beta * z col row) := hback col hcol row hrow
    _ = some (beta * (alpha * y row col)) := by rw [hread]

/-- **Transposing twice restores the block.** Let a transposing copy from `a` into `b` end well, and
let `b'` be what it leaves. The source block has a span, and from a buffer `d` at least as long as
that the way back cannot keep any copier: it ends well, and overlays on `d` the block of `a`, each
element multiplied by one factor and then by the other.

If both factors are `1`, and a one on the left changes no element of the block, then it is the block
of `a` itself that is overlaid, and a plain copy from `a` to `d` leaves the same buffer. -/
theorem transpose_back_restores {c : Copier} {alpha : α} (ht : r.transpose = .trans)
    (h : c.copy r alpha a 0 b = .ok () b') :
    ∃ span, r.sourceLayout.span = .ok span ∧
      ∀ (c' : Copier) (beta : α) (d : Array α), span ≤ d.size →
        ∃ d', c'.copy r.back beta b' 0 d = .ok () d' ∧
          r.Overlays (fun x => beta * (alpha * x)) a d d' ∧
          (alpha = 1 → beta = 1 →
            (∀ row < r.rows, ∀ col < r.cols, ∀ x, a[r.order.place row col r.lda]? = some x →
              1 * x = x) →
            r.Overlays id a d d' ∧
              ∀ c'' : Copier, c''.copy r.likewise 1 a 0 d = .ok () d') := by
  obtain ⟨-, hempty | hfit⟩ := fits_of_copy_eq_ok h
  · -- an empty block needs no room, and is overlaid by doing nothing
    refine ⟨0, CopyRequest.span_of_isEmpty hempty, fun c' beta d _ => ?_⟩
    exact ⟨d, copy_of_isEmpty c' (CopyRequest.back_isEmpty hempty) (Nat.zero_le _) beta,
      .of_isEmpty hempty _ a d, fun _ _ _ => ⟨.of_isEmpty hempty id a d,
        fun c'' => copy_of_isEmpty c'' (CopyRequest.likewise_isEmpty hempty) (Nat.zero_le _) 1⟩⟩
  · refine ⟨_, CopyRequest.span_of_fits hfit, fun c' beta d hd => ?_⟩
    -- the buffer in between is as long as it was
    have hsize : b'.size = b.size := by
      obtain ⟨-, -, -, -, hsize⟩ := exists_arrivals_of_copy_eq_ok h
      exact hsize
    have hback : r.back.columnPlan.Fits b'.size (d.size - 0) := by
      rw [r.back_columnPlan, hsize]
      exact hfit.back ht hd
    obtain ⟨d', hd'⟩ := exists_copy_eq_ok_of_fits c' (Nat.zero_le _) hback beta
    have hover := overlays_of_copy_back ht h hd'
    refine ⟨d', hd', hover, ?_⟩
    rintro rfl rfl hone
    have hblock : r.Overlays id a d d' := hover.congr fun row hrow col hcol x hx => by
      show 1 * (1 * x) = x
      rw [hone row hrow col hcol x hx, hone row hrow col hcol x hx]
    refine ⟨hblock, fun c'' => ?_⟩
    -- the plain copy overlays the same block on the same buffer
    obtain ⟨e, he⟩ := exists_copy_eq_ok_of_fits c'' (Nat.zero_le _)
      (CopyRequest.fits_likewise hfit hd) 1
    rw [hblock.unique (overlays_of_copy_likewise he)]
    exact he

/-- A row-major block of two rows, with one element of padding in between: sent there by tasks, and
back by columns over a buffer that ends with the block. -/
theorem transpose_back_restores_row_major :
    ∃ r : CopyRequest, r = ⟨.rowMajor, .trans, 2, 3, 4, 3⟩ ∧ r.sourceLayout.span = .ok 7 ∧
      copy (.parallel 0) r 1 #[1, 2, 3, 0, 4, 5, 6] 0 (Array.replicate 8 9) =
        .ok () #[1, 4, 9, 2, 5, 9, 3, 6] ∧
      (∃ d', copy .portable r.back 5 #[1, 4, 9, 2, 5, 9, 3, 6] 0 (Array.replicate 7 8) =
          .ok () d' ∧
        r.Overlays (fun x => 5 * (1 * x)) #[1, 2, 3, 0, 4, 5, 6] (Array.replicate 7 8) d') ∧
      ∃ d', copy .portable r.back 1 #[1, 4, 9, 2, 5, 9, 3, 6] 0 (Array.replicate 7 8) =
          .ok () d' ∧
        r.Overlays id #[1, 2, 3, 0, 4, 5, 6] (Array.replicate 7 8) d' ∧
        copy (.parallel 3) r.likewise 1 #[1, 2, 3, 0, 4, 5, 6] 0 (Array.replicate 7 8) =
          .ok () d' := by
  have h : copy (.parallel 0) ⟨.rowMajor, .trans, 2, 3, 4, 3⟩ 1 #[1, 2, 3, 0, 4, 5, 6] 0
      (Array.replicate 8 9) = .ok () #[1, 4, 9, 2, 5, 9, 3, 6] := by decide +kernel
  obtain ⟨span, hspan, hback⟩ := transpose_back_restores rfl h
  have hseven : span = 7 := (Except.ok.inj hspan).symm
  subst hseven
  obtain ⟨d₅, hd₅, hover₅, -⟩ := hback .portable 5 (Array.replicate 7 8) (by decide)
  obtain ⟨d₁, hd₁, -, hones⟩ := hback .portable 1 (Array.replicate 7 8) (by decide)
  obtain ⟨hblock, hplain⟩ := hones rfl rfl fun _ _ _ _ x _ => Nat.one_mul x
  exact ⟨_, rfl, hspan, h, ⟨d₅, hd₅, hover₅⟩, d₁, hd₁, hblock, hplain (.parallel 3)⟩

end Copier

end DenseKron
