import DenseKron.Arrays
import DenseKron.Proofs.Places

/-!
# Gathering a view

A view shows a matrix through strides, and what a product of views is given is the matrix: the
entries, gathered column by column into a buffer without gaps (`PackedCopy`). There is just one such
buffer (`packedCopy_iff`), and it is what iterating over the transposed view collects, in whatever
order the entries lie. So two views of one matrix, however far apart and in whatever direction its
entries lie in the one and in the other, are the same operand (`SameMatrix.operand_eq`).

The way back is shorter. A matrix that was computed is a buffer without gaps, and `Matrix.view` is
the view of the whole of it.
-/

namespace DenseKron

variable {α : Type} {u : Array α} {v w : View α}

namespace View

/-- An entry, as it stands in the buffer. -/
theorem getElem?_place (v : View α) {r c : Nat} (hr : r < v.rows) (hc : c < v.cols) :
    v.data[(v.place r c).toNat]? = some (v.entry r c hr hc) :=
  Array.getElem?_eq_getElem _

end View

/-! ### Packed copies -/

/-- **Packed copy.** A buffer with the entries of a view and nothing else, column after column. -/
structure PackedCopy (u : Array α) (v : View α) : Prop where
  size_eq : u.size = v.rows * v.cols
  entry : ∀ (r c : Nat) (hr : r < v.rows) (hc : c < v.cols),
    u[c * v.rows + r]? = some (v.entry r c hr hc)

theorem packedCopy_gather (v : View α) : PackedCopy v.gather v where
  size_eq := v.gather_size
  entry _ _ hr hc := v.getElem?_gather hr hc

theorem PackedCopy.eq {u' : Array α} (h : PackedCopy u v) (h' : PackedCopy u' v) : u = u' :=
  eq_of_entries_eq h.size_eq h'.size_eq fun r hr c hc =>
    (h.entry r c hr hc).trans (h'.entry r c hr hc).symm

theorem packedCopy_iff : PackedCopy u v ↔ u = v.gather :=
  ⟨fun h => h.eq (packedCopy_gather v), fun h => h ▸ packedCopy_gather v⟩

/-- A view that is packed shows the matrix that its copy holds. -/
theorem PackedCopy.entry_eq (h : PackedCopy u v) {x : Nat → Nat → α}
    (hx : Holds u v.rows v.cols v.rows x) {r c : Nat} (hr : r < v.rows) (hc : c < v.cols) :
    x r c = v.entry r c hr hc :=
  Option.some.inj ((hx r hr c hc).symm.trans (h.entry r c hr hc))

/-! ### Views of one matrix -/

/-- **Views of one matrix.** They have the same shape and the same entries, wherever these lie. -/
structure SameMatrix (v w : View α) : Prop where
  rows_eq : v.rows = w.rows
  cols_eq : v.cols = w.cols
  entry_eq : ∀ (r c : Nat) (hr : r < v.rows) (hc : c < v.cols),
    v.entry r c hr hc = w.entry r c (rows_eq ▸ hr) (cols_eq ▸ hc)

theorem SameMatrix.shape_eq (h : SameMatrix v w) : v.shape = w.shape := by
  rw [View.shape, View.shape, h.rows_eq, h.cols_eq]

theorem SameMatrix.operand_eq (h : SameMatrix v w) : v.operand = w.operand := by
  -- to gather one view is to make a packed copy of the other
  have hpacked : PackedCopy v.gather w :=
    { size_eq := by rw [v.gather_size, h.rows_eq, h.cols_eq]
      entry := fun r c hr hc => by
        have hr' : r < v.rows := h.rows_eq.symm ▸ hr
        have hc' : c < v.cols := h.cols_eq.symm ▸ hc
        rw [← h.entry_eq r c hr' hc', ← (packedCopy_gather v).entry r c hr' hc', h.rows_eq] }
  rw [View.operand, View.operand, packedCopy_iff.1 hpacked, h.rows_eq, h.cols_eq]

theorem SameMatrix.of_packedCopy (hrows : v.rows = w.rows) (hcols : v.cols = w.cols)
    (hv : PackedCopy u v) (hw : PackedCopy u w) : SameMatrix v w where
  rows_eq := hrows
  cols_eq := hcols
  entry_eq r c hr hc := by
    have hstored := hv.entry r c hr hc
    rw [hrows, hw.entry r c (hrows ▸ hr) (hcols ▸ hc)] at hstored
    exact (Option.some.inj hstored).symm

/-! ### Matrices as views -/

/-- The view of a whole matrix, in the buffer that holds it. -/
def Matrix.view (m : Matrix α) : View α := .ofCols m.entries m.shape.rows m.shape.cols m.size_eq

/-- A matrix is stored column by column. -/
theorem Matrix.getElem?_entries (m : Matrix α) {r c : Nat} (hr : r < m.shape.rows)
    (hc : c < m.shape.cols) :
    m.entries[c * m.shape.rows + r]? = some (m.view.entry r c hr hc) := by
  -- the view has stride one down the rows, and steps over a column to the next one
  have hplace : (m.view.place r c).toNat = c * m.shape.rows + r := by
    show ((0 : Int) + r * 1 + c * m.shape.rows).toNat = c * m.shape.rows + r
    have hcast : (0 : Int) + r * 1 + c * m.shape.rows = ((c * m.shape.rows + r : Nat) : Int) := by
      push_cast
      ring
    rw [hcast, Int.toNat_natCast]
  rw [← m.view.getElem?_place hr hc, hplace]
  rfl

end DenseKron
