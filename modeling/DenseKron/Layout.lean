import DenseKron.Size

/-!
# Layouts

A dense matrix is a flat buffer together with a triple `(rows, cols, ld)`: in column-major order
the entry in row `r` and column `c` lies at `c * ld + r`. A **leading dimension** `ld` larger
than `rows` lets a matrix be a window into a taller one, with `ld - rows` foreign elements
between its columns.

* `offset r c ld` is the place of one entry;
* `Layout.span` is the length of the shortest buffer that holds every entry. The last column
  needs no padding behind it, so the span is `(cols - 1) * ld + rows` and not `cols * ld`.
-/

namespace DenseKron

/-- Which entries lie next to each other. -/
inductive StorageOrder where
  /-- The entries of a column are contiguous. -/
  | colMajor
  /-- The entries of a row are contiguous. -/
  | rowMajor
  deriving DecidableEq, Repr

/-- Column-major storage is the one used where none is named. -/
instance : Inhabited StorageOrder := ⟨.colMajor⟩

/-- What happens to a block on its way from source to destination. -/
inductive Transpose where
  /-- The block is copied as it is. -/
  | noTrans
  /-- Rows and columns trade places. -/
  | trans
  deriving DecidableEq, Repr

/-- A block is copied as it is where nothing else is said. -/
instance : Inhabited Transpose := ⟨.noTrans⟩

/-- **Place of an entry.** The distance from the start of the buffer to row `row` of column
`col`, when columns start `ld` elements apart. The column's start is computed first. -/
def offset (row col ld : Nat) : Except Fault Nat := do
  Size.add (← Size.mul col ld) row

theorem offset_eq_ok_iff {row col ld k : Nat} :
    offset row col ld = .ok k ↔ col * ld + row < Size.limit ∧ k = col * ld + row := by
  simp only [offset, Size.mul, Size.add]
  by_cases h : col * ld < Size.limit
  · by_cases h' : col * ld + row < Size.limit
    · simp [h, h', bind, Except.bind, eq_comm]
    · simp [h, h', bind, Except.bind]
  · have : ¬ col * ld + row < Size.limit := by omega
    simp [h, this, bind, Except.bind]

/-- **Layout.** Shape and stride of a column-major matrix in a buffer. -/
structure Layout where
  rows : Nat
  cols : Nat
  /-- The distance between the starts of two consecutive columns. -/
  ld : Nat
  deriving DecidableEq, Repr

namespace Layout

/-- The layout without padding: each column starts where the one before it ends. -/
def packed (rows cols : Nat) : Layout := ⟨rows, cols, rows⟩

/-- The layout with a given leading dimension, which has to step over a whole column. A matrix
without columns has nothing to step over. -/
def withLeading (rows cols ld : Nat) : Except Fault Layout := do
  require (cols = 0 ∨ rows ≤ ld) (.narrowLayout ld rows)
  return ⟨rows, cols, ld⟩

/-- The number of entries. -/
def size (l : Layout) : Except Fault Nat := Size.mul l.rows l.cols

/-- A layout without entries. -/
def isEmpty (l : Layout) : Bool := l.rows == 0 || l.cols == 0

/-- The place of the entry in row `row` and column `col`. -/
def offset (l : Layout) (row col : Nat) : Except Fault Nat := DenseKron.offset row col l.ld

/-- The length of the shortest buffer that holds every entry. -/
def span (l : Layout) : Except Fault Nat :=
  if l.isEmpty then .ok 0
  else do Size.add (← Size.mul (l.cols - 1) l.ld) l.rows

/-- A layout without entries needs no buffer. -/
theorem span_of_isEmpty {l : Layout} (h : l.isEmpty = true) : l.span = .ok 0 := by
  simp [span, h]

/-- The span of a layout with entries is one more than the place of its last entry. -/
theorem span_eq_ok_iff {l : Layout} (h : l.isEmpty = false) {k : Nat} :
    l.span = .ok k ↔
      (l.cols - 1) * l.ld + l.rows < Size.limit ∧ k = (l.cols - 1) * l.ld + l.rows := by
  simpa [span, h, DenseKron.offset] using
    @offset_eq_ok_iff l.rows (l.cols - 1) l.ld k

/-- Whether the layout has no padding. -/
def isPacked (l : Layout) : Bool := l == packed l.rows l.cols

@[simp] theorem packed_ld (rows cols : Nat) : (packed rows cols).ld = rows := rfl

@[simp] theorem isPacked_packed (rows cols : Nat) : (packed rows cols).isPacked = true := by
  simp [isPacked, packed]

end Layout

end DenseKron
