import DenseKron.Kernel.Sweep

/-!
# Strided views

A **view** is a matrix that lives in somebody else's buffer: the entry in row `r` and column `c`
lies at `origin + r * rowStride + c * colStride`, with strides of either sign. Row-major and
column-major buffers, transposes, cut-outs that skip or reverse rows, and rows repeated by a
stride of zero are all views of this one kind; a proof that every entry lies inside the buffer
is part of the view.

What a computation may know of a view is its shape and its entries. `View.operand` is where the
strides end: it gathers the entries into a packed column-major operand. What is assumed of strided
arrays for this is the order in which they are iterated. It is that of the indices, row by row, for
every view (`View.byRows`), so that to iterate over the transposed view is to go through the columns
(`View.gather`).
-/

namespace DenseKron

/-- **View.** A matrix of `rows × cols` entries inside a buffer. -/
structure View (α : Type) where
  data : Array α
  origin : Int
  rows : Nat
  cols : Nat
  /-- The distance from a row to the next one. -/
  rowStride : Int
  /-- The distance from a column to the next one. -/
  colStride : Int
  inside : ∀ r c : Nat, r < rows → c < cols →
    0 ≤ origin + r * rowStride + c * colStride ∧
      origin + r * rowStride + c * colStride < data.size

/-- **Selection.** The indices `start`, …, `stop - 1` of an axis, thinned out to every `step`-th
one. A negative step takes them from the last one backwards. -/
structure Selection where
  start : Nat
  stop : Nat
  step : Int
  deriving DecidableEq, Repr

namespace Selection

/-- How many indices are selected. -/
def count (s : Selection) : Nat := (s.stop - s.start + (s.step.natAbs - 1)) / s.step.natAbs

/-- The index that is selected first, where one is. -/
def first (s : Selection) : Int := if 0 ≤ s.step then s.start else (s.stop : Int) - 1

/-- Every selected index lies between the ends of the selection. -/
theorem index_mem (s : Selection) {k : Nat} (h : k < s.count) :
    (s.start : Int) ≤ s.first + k * s.step ∧ s.first + k * s.step < s.stop := by
  have hpos : 0 < s.step.natAbs := by
    rcases Nat.eq_zero_or_pos s.step.natAbs with h0 | h0
    · simp [count, h0] at h
    · exact h0
  have hmul : k * s.step.natAbs < s.stop - s.start := by
    have h1 : (k + 1) * s.step.natAbs ≤ s.stop - s.start + (s.step.natAbs - 1) :=
      (Nat.le_div_iff_mul_le hpos).1 h
    rw [Nat.succ_mul] at h1
    omega
  have hcast : ((k * s.step.natAbs : Nat) : Int) = k * (s.step.natAbs : Int) := by simp
  rcases Int.lt_or_le s.step 0 with hneg | hnonneg
  -- backwards: the walk starts at the last index and stays above `start`
  · have hstep : s.step = -(s.step.natAbs : Int) := by omega
    have hprod : (k : Int) * s.step = -((k * s.step.natAbs : Nat) : Int) := by
      rw [hcast, ← Int.mul_neg, ← hstep]
    simp only [first, Int.not_le.2 hneg, if_false, hprod]
    omega
  -- forwards: the walk starts at `start` and stays below `stop`
  · have hstep : s.step = (s.step.natAbs : Int) := by omega
    have hprod : (k : Int) * s.step = ((k * s.step.natAbs : Nat) : Int) := by
      rw [hcast, ← hstep]
    simp only [first, hnonneg, if_true, hprod]
    omega

end Selection

/-! ### Pieces of one length, one after the other -/

section Pieces

variable {β γ : Type} {n : Nat} {piece : β → List γ}

theorem length_flatMap_pieces (hlen : ∀ x, (piece x).length = n) (l : List β) :
    (l.flatMap piece).length = l.length * n := by
  induction l with
  | nil => exact (Nat.zero_mul n).symm
  | cons x rest ih =>
    rw [List.flatMap_cons, List.length_append, hlen, ih, List.length_cons, Nat.succ_mul,
      Nat.add_comm]

theorem getElem?_flatMap_pieces (hlen : ∀ x, (piece x).length = n) (l : List β) {i j : Nat}
    (hi : i < l.length) (hj : j < n) :
    (l.flatMap piece)[i * n + j]? = (piece l[i])[j]? := by
  induction l generalizing i with
  | nil => exact absurd hi (Nat.not_lt_zero i)
  | cons x rest ih =>
    rw [List.flatMap_cons]
    cases i with
    | zero =>
      rw [Nat.zero_mul, Nat.zero_add, List.getElem?_append_left (by rw [hlen]; exact hj)]
      rfl
    | succ i =>
      -- behind the first piece the index is that of the rest
      have hindex : (i + 1) * n + j = n + (i * n + j) := by rw [Nat.succ_mul]; omega
      rw [hindex, List.getElem?_append_right (by rw [hlen]; exact Nat.le_add_right n _), hlen,
        Nat.add_sub_cancel_left]
      exact ih (Nat.lt_of_succ_lt_succ hi)

end Pieces

namespace View

variable {α : Type}

/-- The shape of the viewed matrix. -/
def shape (v : View α) : Shape := ⟨v.rows, v.cols⟩

@[simp] theorem shape_rows (v : View α) : v.shape.rows = v.rows := rfl
@[simp] theorem shape_cols (v : View α) : v.shape.cols = v.cols := rfl

/-- The place of an entry in the buffer. -/
def place (v : View α) (r c : Nat) : Int := v.origin + r * v.rowStride + c * v.colStride

/-- The entry in row `r` and column `c`. -/
def entry (v : View α) (r c : Nat) (hr : r < v.rows) (hc : c < v.cols) : α :=
  have h : (v.place r c).toNat < v.data.size := by
    have := v.inside r c hr hc
    simp only [place]
    omega
  v.data[(v.place r c).toNat]

/-! ### Views of whole buffers -/

/-- A buffer read row by row. -/
def ofRows (data : Array α) (rows cols : Nat) (h : data.size = rows * cols) : View α where
  data
  origin := 0
  rows
  cols
  rowStride := cols
  colStride := 1
  inside r c hr hc := by
    have hlt : r * cols + c < rows * cols := by
      have := Nat.mul_le_mul_right cols (Nat.succ_le_of_lt hr)
      rw [Nat.succ_mul] at this
      omega
    have hcast : ((r * cols + c : Nat) : Int) = 0 + r * (cols : Int) + c * 1 := by simp
    rw [← hcast, h]
    omega

/-- The transposed matrix, in the same buffer. -/
def transpose (v : View α) : View α where
  data := v.data
  origin := v.origin
  rows := v.cols
  cols := v.rows
  rowStride := v.colStride
  colStride := v.rowStride
  inside r c hr hc := by
    have h := v.inside c r hc hr
    omega

/-- A buffer read column by column. -/
def ofCols (data : Array α) (rows cols : Nat) (h : data.size = rows * cols) : View α :=
  (ofRows data cols rows (by rw [h, Nat.mul_comm])).transpose

@[simp] theorem transpose_transpose (v : View α) : v.transpose.transpose = v := rfl

/-! ### Parts of a view -/

/-- The selected rows, if the selection ends inside the view. -/
def selectRows? (v : View α) (s : Selection) : Option (View α) :=
  if h : s.stop ≤ v.rows then
    some
      { data := v.data
        origin := v.origin + s.first * v.rowStride
        rows := s.count
        cols := v.cols
        rowStride := s.step * v.rowStride
        colStride := v.colStride
        inside := by
          intro r c hr hc
          have hmem := s.index_mem hr
          have hr' : (s.first + r * s.step).toNat < v.rows := by omega
          have hin := v.inside _ c hr' hc
          have hplace : (((s.first + r * s.step).toNat : Nat) : Int) * v.rowStride =
              s.first * v.rowStride + r * (s.step * v.rowStride) := by
            rw [Int.toNat_of_nonneg (by omega), Int.add_mul, Int.mul_assoc]
          rw [hplace] at hin
          omega }
  else none

/-- The selected columns, if the selection ends inside the view. -/
def selectCols? (v : View α) (s : Selection) : Option (View α) :=
  (v.transpose.selectRows? s).map transpose

/-- A view with one row, repeated; any view, if it has the wanted number of rows already. -/
def repeatRow? (v : View α) (rows : Nat) : Option (View α) :=
  if v.rows = rows then some v
  else if h : v.rows = 1 then
    some
      { v with
        rows
        rowStride := 0
        inside := by
          intro r c _ hc
          have hin := v.inside 0 c (by omega) hc
          simpa using hin }
  else none

/-- A view stretched to a shape by repeating a single row and a single column. -/
def broadcast? (v : View α) (s : Shape) : Option (View α) := do
  let tall ← v.repeatRow? s.rows
  let wide ← tall.transpose.repeatRow? s.cols
  return wide.transpose

/-! ### Gathering -/

/-- One row, from left to right. -/
def row (v : View α) (r : Fin v.rows) : List α :=
  List.ofFn fun c : Fin v.cols => v.entry r c r.isLt c.isLt

@[simp] theorem length_row (v : View α) (r : Fin v.rows) : (v.row r).length = v.cols :=
  List.length_ofFn

/-- The entries row by row. This is the order of iteration over a view: it goes by the indices, the
column running fastest, and not by the places in the buffer. -/
def byRows (v : View α) : List α :=
  -- rows without entries are not walked through, however many there are
  if v.cols = 0 then [] else (List.finRange v.rows).flatMap v.row

/-- The entries, column by column: the transposed view row by row.

A view may have more entries than its buffer has elements, if it repeats a row or a column, and even
more than an allocation can hold. Gathering is total and does not ask for room; where a gathered
buffer has to be one that a program can have, that is a condition on the view. -/
def gather (v : View α) : Array α := v.transpose.byRows.toArray

@[simp] theorem length_byRows (v : View α) : v.byRows.length = v.rows * v.cols := by
  rw [byRows]
  split
  · rw [‹v.cols = 0›, Nat.mul_zero, List.length_nil]
  · rw [length_flatMap_pieces v.length_row, List.length_finRange]

/-- The place of an entry in the iteration. -/
theorem getElem?_byRows (v : View α) {r c : Nat} (hr : r < v.rows) (hc : c < v.cols) :
    v.byRows[r * v.cols + c]? = some (v.entry r c hr hc) := by
  have hindex : r < (List.finRange v.rows).length := by rwa [List.length_finRange]
  rw [byRows, if_neg (Nat.ne_of_gt (Nat.zero_lt_of_lt hc)),
    getElem?_flatMap_pieces v.length_row _ hindex hc, row, List.getElem?_ofFn, dif_pos hc]
  simp

@[simp] theorem gather_size (v : View α) : v.gather.size = v.rows * v.cols := by
  rw [gather, List.size_toArray, length_byRows]
  exact Nat.mul_comm v.cols v.rows

/-- Transposing turns the columns into rows, so an entry is found at `c * v.rows + r`. -/
theorem getElem?_gather (v : View α) {r c : Nat} (hr : r < v.rows) (hc : c < v.cols) :
    v.gather[c * v.rows + r]? = some (v.entry r c hr hc) := by
  rw [gather, List.getElem?_toArray]
  refine (v.transpose.getElem?_byRows hc hr).trans (congrArg some ?_)
  simp only [entry, place, transpose]
  congr 2
  omega

/-- The view as a packed operand. -/
def operand (v : View α) : Operand α := ⟨v.gather, v.rows, v.cols⟩

end View

end DenseKron
