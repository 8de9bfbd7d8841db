import DenseKron.BlockCopy.Copier
import DenseKron.Proofs.Places

/-!
# The two ways of copying a block write the same

A checked plan (`CopyPlan.Fits`) has room for everything: no place that either way of copying
computes leaves the machine word, and none lies outside of its buffer. So both ways can be read as
plain loops, and what they write is the *image* of the source block, a block of its own:

* the serial copy without transposition writes the image column after column; with transposition it
  writes it row after row;
* the chunked copy always writes it column after column. Chunk `k` starts with column `k` of the
  image. The chunks that get a task are as many as the image has columns, and the last of them may
  be cut short by the end of the buffer, behind the column.

The order is the only difference, and the places of a block are all different, so every copier
writes the stores of the image (`Copier.run_writes`).
-/

namespace DenseKron

/-! ### Places that fit -/

theorem offset_of_lt {row col ld : Nat} (h : col * ld + row < Size.limit) :
    offset row col ld = .ok (col * ld + row) :=
  offset_eq_ok_iff.2 ⟨h, rfl⟩

theorem Layout.withLeading_eq_ok_iff {rows cols ld : Nat} {l : Layout} :
    Layout.withLeading rows cols ld = .ok l ↔ (cols = 0 ∨ rows ≤ ld) ∧ l = ⟨rows, cols, ld⟩ := by
  rw [Layout.withLeading, Fault.require_bind_eq_ok_iff]
  exact and_congr_right fun _ => ⟨fun h => by cases h; rfl, fun h => by rw [h]; rfl⟩

/-- Numbering the members of an enumerated list gives each the number it was made from. -/
theorem mapIdx_map_range {β γ : Type} (n : Nat) (f : Nat → β → γ) (g : Nat → β) :
    ((List.range n).map g).mapIdx f = (List.range n).map fun i => f i (g i) := by
  refine List.ext_getElem? fun i => ?_
  rw [List.getElem?_mapIdx, List.getElem?_map, List.getElem?_map]
  by_cases hi : i < n
  · rw [List.getElem?_range hi, Option.map_some, Option.map_some, Option.map_some]
  · rw [List.getElem?_eq_none (by rw [List.length_range]; omega)]
    rfl

/-! ### Checked plans -/

namespace CopyPlan

/-- The number of destination rows that receive entries. -/
def destinationRows (p : CopyPlan) : Nat :=
  match p.transpose with
  | .noTrans => p.rows
  | .trans => p.cols

section Destination

variable {p : CopyPlan}

theorem destinationRows_of_noTrans (hp : p.transpose = .noTrans) : p.destinationRows = p.rows := by
  rw [destinationRows, hp]

theorem destinationRows_of_trans (hp : p.transpose = .trans) : p.destinationRows = p.cols := by
  rw [destinationRows, hp]

theorem destinationCols_of_noTrans (hp : p.transpose = .noTrans) : p.destinationCols = p.cols := by
  rw [destinationCols, hp]

theorem destinationCols_of_trans (hp : p.transpose = .trans) : p.destinationCols = p.rows := by
  rw [destinationCols, hp]

end Destination

/-- **A plan that fits** a source of `m` elements and a destination of `n`. Both blocks have
entries, both leading dimensions step over a whole column, and both blocks end inside of their
buffers, at places that are machine sizes. -/
structure Fits (p : CopyPlan) (m n : Nat) : Prop where
  rows_pos : 0 < p.rows
  cols_pos : 0 < p.cols
  rows_le : p.rows ≤ p.lda
  destinationRows_le : p.destinationRows ≤ p.ldb
  source_lt : (p.cols - 1) * p.lda + p.rows < Size.limit
  source_le : (p.cols - 1) * p.lda + p.rows ≤ m
  destination_lt : (p.destinationCols - 1) * p.ldb + p.destinationRows < Size.limit
  destination_le : (p.destinationCols - 1) * p.ldb + p.destinationRows ≤ n

namespace Fits

variable {p : CopyPlan} {m n : Nat}

theorem destinationRows_pos (h : p.Fits m n) : 0 < p.destinationRows := by
  have := h.rows_pos
  have := h.cols_pos
  unfold destinationRows
  split <;> assumption

theorem destinationCols_pos (h : p.Fits m n) : 0 < p.destinationCols := by
  have := h.rows_pos
  have := h.cols_pos
  unfold destinationCols
  split <;> assumption

/-- Every column of the source ends at a machine size, inside of the source. -/
theorem source_end (h : p.Fits m n) {j : Nat} (hj : j < p.cols) :
    j * p.lda + p.rows < Size.limit ∧ j * p.lda + p.rows ≤ m := by
  have hle : j * p.lda ≤ (p.cols - 1) * p.lda := Nat.mul_le_mul_right _ (by omega)
  have := h.source_lt
  have := h.source_le
  omega

theorem destination_end (h : p.Fits m n) {j : Nat} (hj : j < p.destinationCols) :
    j * p.ldb + p.destinationRows < Size.limit ∧ j * p.ldb + p.destinationRows ≤ n := by
  have hle : j * p.ldb ≤ (p.destinationCols - 1) * p.ldb := Nat.mul_le_mul_right _ (by omega)
  have := h.destination_lt
  have := h.destination_le
  omega

theorem offset_source_top (h : p.Fits m n) {j : Nat} (hj : j < p.cols) :
    offset 0 j p.lda = .ok (j * p.lda) := by
  have := (h.source_end hj).1
  exact offset_of_lt (by omega)

theorem offset_source_end (h : p.Fits m n) {j : Nat} (hj : j < p.cols) :
    offset p.rows j p.lda = .ok (j * p.lda + p.rows) :=
  offset_of_lt (h.source_end hj).1

theorem cut_source {α : Type} {a : Array α} (h : p.Fits a.size n) {j : Nat} (hj : j < p.cols) :
    cut a (j * p.lda) (j * p.lda + p.rows) =
      .ok (a.extract (j * p.lda) (j * p.lda + p.rows)) :=
  cut_eq_ok_iff.2 ⟨(h.source_end hj).2, rfl⟩

/-- The number of entries is a machine size: a packed block is no longer than a padded one. -/
theorem mul_lt_limit (h : p.Fits m n) : p.rows * p.cols < Size.limit := by
  calc p.rows * p.cols = (p.cols - 1) * p.rows + p.rows := by
        rw [pred_mul_add h.cols_pos, Nat.mul_comm]
    _ ≤ (p.cols - 1) * p.lda + p.rows :=
        Nat.add_le_add_right (Nat.mul_le_mul_left _ h.rows_le) _
    _ < Size.limit := h.source_lt

end Fits

/-! ### The image of a block -/

variable {α : Type} [One α] [Mul α] [DecidableEq α]

/-- **The block that arrives** when `x` is copied: the entry in destination row `r` and destination
column `c`. -/
def image (p : CopyPlan) (alpha : α) (x : Nat → Nat → α) (r c : Nat) : α :=
  match p.transpose with
  | .noTrans => scale alpha (x r c)
  | .trans => alpha * x c r

/-- The stores that a copy of `x` makes, from `start` on. -/
def stores (p : CopyPlan) (alpha : α) (x : Nat → Nat → α) (start : Nat) : List (Store α) :=
  blockStores start p.destinationRows p.destinationCols p.ldb (p.image alpha x)

theorem consistent_stores {p : CopyPlan} {m n : Nat} (h : p.Fits m n) (alpha : α)
    (x : Nat → Nat → α) (start : Nat) : Consistent (p.stores alpha x start) :=
  consistent_blockStores h.destinationRows_le

/-! ### The serial copy -/

section Serial

variable {p : CopyPlan} {a : Array α} {w : Window} {x : Nat → Nat → α}

/-- Without transposition a source column becomes a column of the image. -/
theorem column_of_noTrans (hp : p.transpose = .noTrans) (h : p.Fits a.size w.length)
    (hx : Holds a p.rows p.cols p.lda x) (alpha : α) {j : Nat} (hj : j < p.cols) :
    p.column alpha a w j =
      ((List.range p.rows).map fun i =>
        (⟨w.start + (j * p.ldb + i), scale alpha (x i j)⟩ : Store α)).map .ok := by
  obtain ⟨hdst, hdst'⟩ := h.destination_end (destinationCols_of_noTrans hp ▸ hj)
  rw [destinationRows_of_noTrans hp] at hdst hdst'
  have htop : offset 0 j p.ldb = .ok (j * p.ldb) := offset_of_lt (by omega)
  -- no computation of a place fails, and what is left is the loop over the source column
  simp only [column, hp, h.offset_source_top hj, h.offset_source_end hj, h.cut_source hj, htop,
    offset_of_lt hdst, Window.range_eq_ok_iff.2 hdst', bind, Except.bind, pure, Except.pure,
    actions_ok]
  -- the elements are visited with their index, which is the row
  rw [Array.toList_mapIdx, hx.extract_toList hj, mapIdx_map_range]
  simp only [Nat.add_assoc]

/-- With transposition a source column becomes a row of the image. -/
theorem column_of_trans (hp : p.transpose = .trans) (h : p.Fits a.size w.length)
    (hx : Holds a p.rows p.cols p.lda x) (alpha : α) {j : Nat} (hj : j < p.cols) :
    p.column alpha a w j =
      ((List.range p.rows).map fun i =>
        (⟨w.start + (i * p.ldb + j), alpha * x i j⟩ : Store α)).map .ok := by
  -- here each element has a place of its own to compute
  simp only [column, hp, List.map_map]
  refine List.map_congr_left fun i hi => ?_
  have hi : i < p.rows := List.mem_range.1 hi
  obtain ⟨hsrc, -⟩ := h.source_end hj
  obtain ⟨hdst, hdst'⟩ := h.destination_end (destinationCols_of_trans hp ▸ hi)
  rw [destinationRows_of_trans hp] at hdst hdst'
  have hread : read a (j * p.lda + i) = .ok (x i j) := read_eq_ok_iff.2 (hx i hi j hj)
  have hfrom : offset i j p.lda = .ok (j * p.lda + i) := offset_of_lt (by omega)
  have hto : offset j i p.ldb = .ok (i * p.ldb + j) := offset_of_lt (by omega)
  simp only [scatter, hfrom, hread, hto, bind, Except.bind, Function.comp_apply]
  exact Window.store_of_lt (by omega) _

/-- **The serial copy writes the image.** -/
theorem serial_writes (h : p.Fits a.size w.length) (hx : Holds a p.rows p.cols p.lda x)
    (alpha : α) (n : Nat) : Writes n (p.serial alpha a w) (p.stores alpha x w.start) := by
  cases hp : p.transpose with
  | noTrans =>
    -- the loops run over the source, and here source and destination agree
    have himage : p.stores alpha x w.start = (List.range p.cols).flatMap fun j =>
        (List.range p.rows).map fun i => ⟨w.start + (j * p.ldb + i), scale alpha (x i j)⟩ := by
      simp only [stores, blockStores, destinationRows, destinationCols, image, hp]
    rw [himage]
    refine Writes.each fun j hj => ?_
    rw [column_of_noTrans hp h hx alpha (List.mem_range.1 hj)]
    exact Writes.perform _
  | trans =>
    have hrowwise : Writes n (p.serial alpha a w) ((List.range p.cols).flatMap fun j =>
        (List.range p.rows).map fun i => ⟨w.start + (i * p.ldb + j), alpha * x i j⟩) := by
      refine Writes.each fun j hj => ?_
      rw [column_of_trans hp h hx alpha (List.mem_range.1 hj)]
      exact Writes.perform _
    -- row after row or column after column: the members are the same
    have hmem : ∀ s, s ∈ p.stores alpha x w.start ↔ s ∈ (List.range p.cols).flatMap fun j =>
        (List.range p.rows).map fun i => ⟨w.start + (i * p.ldb + j), alpha * x i j⟩ := by
      intro s
      rw [stores, mem_blockStores]
      simp only [destinationRows, destinationCols, image, hp, List.mem_flatMap, List.mem_map,
        List.mem_range]
      constructor
      · rintro ⟨j, hj, i, hi, rfl⟩
        exact ⟨j, hj, i, hi, rfl⟩
      · rintro ⟨j, hj, i, hi, rfl⟩
        exact ⟨j, hj, i, hi, rfl⟩
    refine hrowwise.congr ?_ fun s => (hmem s).symm
    exact (consistent_stores h alpha x w.start).of_subset fun s hs => (hmem s).2 hs

end Serial

/-! ### The chunked copy -/

section Chunked

variable {p : CopyPlan} {a : Array α} {w : Window} {x : Nat → Nat → α}

omit [One α] [Mul α] [DecidableEq α] in
/-- The chunks that get a task are the columns of the image. The rest of the buffer may hold
more chunks than that, and the last chunk may be shorter than the others. -/
theorem pieces_eq {m : Nat} (h : p.Fits m w.length) :
    p.pieces w = (List.range p.destinationCols).map fun k =>
      (⟨w.start + k * p.ldb, min p.ldb (w.length - k * p.ldb)⟩, k) := by
  have hld : 0 < p.ldb := Nat.lt_of_lt_of_le h.destinationRows_pos h.destinationRows_le
  -- the last column is not empty, so a chunk starts with it even if the buffer ends inside of it
  have hcount : p.destinationCols ≤ (w.length + p.ldb - 1) / p.ldb := by
    rw [Nat.le_div_iff_mul_le hld]
    have hpos := h.destinationRows_pos
    have hend := h.destination_le
    have hmul := pred_mul_add h.destinationCols_pos p.ldb
    omega
  rw [pieces, Window.chunks, ← List.map_take, List.take_range, Nat.min_eq_left hcount]
  -- chunk `k` is numbered `k`, and there are no others left
  refine List.ext_getElem? fun k => ?_
  rw [List.getElem?_zipIdx, List.getElem?_map, List.getElem?_map]
  by_cases hk : k < p.destinationCols
  · rw [List.getElem?_range hk]
    simp
  · rw [List.getElem?_eq_none (by rw [List.length_range]; omega)]
    rfl

/-- The task of a chunk writes a column of the image. -/
theorem task_eq (h : p.Fits a.size w.length) (hx : Holds a p.rows p.cols p.lda x) (alpha : α)
    {chunk : Window} {k : Nat} (hk : k < p.destinationCols)
    (hchunk : p.destinationRows ≤ chunk.length) :
    p.task alpha a chunk k =
      ((List.range p.destinationRows).map fun r =>
        (⟨chunk.start + r, p.image alpha x r k⟩ : Store α)).map .ok := by
  cases hp : p.transpose with
  -- a column of the source, cut out at once
  | noTrans =>
    have hrows := destinationRows_of_noTrans hp
    rw [destinationCols_of_noTrans hp] at hk
    rw [hrows] at hchunk
    simp only [task, hp, h.offset_source_top hk, h.offset_source_end hk, h.cut_source hk,
      Window.range_eq_ok_iff.2 hchunk, bind, Except.bind, pure, Except.pure, actions_ok]
    rw [Array.toList_mapIdx, hx.extract_toList hk, mapIdx_map_range, hrows]
    simp only [image, hp]
  -- a row of the source, read element by element
  | trans =>
    have hrows := destinationRows_of_trans hp
    rw [destinationCols_of_trans hp] at hk
    rw [hrows] at hchunk
    simp only [task, hp, Window.range_eq_ok_iff.2 hchunk, hrows, List.map_map]
    refine List.map_congr_left fun j hj => ?_
    have hj : j < p.cols := List.mem_range.1 hj
    obtain ⟨hsrc, -⟩ := h.source_end hj
    have hread : read a (j * p.lda + k) = .ok (x k j) := read_eq_ok_iff.2 (hx k hk j hj)
    have hfrom : offset k j p.lda = .ok (j * p.lda + k) := offset_of_lt (by omega)
    simp only [gather, hfrom, hread, bind, Except.bind, pure, Except.pure, Function.comp_apply,
      image, hp]

/-- **The chunked copy writes the image.** -/
theorem chunked_writes (h : p.Fits a.size w.length) (hx : Holds a p.rows p.cols p.lda x)
    (alpha : α) (n : Nat) : Writes n (p.chunked alpha a w) (p.stores alpha x w.start) := by
  have heach : Writes n (Guarded.each (fun k => Write.perform (p.task alpha a
      ⟨w.start + k * p.ldb, min p.ldb (w.length - k * p.ldb)⟩ k)) (List.range p.destinationCols))
      (p.stores alpha x w.start) := by
    refine Writes.each fun k hk => ?_
    have hk : k < p.destinationCols := List.mem_range.1 hk
    -- a short last chunk still holds the whole of its column
    have hroom : p.destinationRows ≤ min p.ldb (w.length - k * p.ldb) := by
      have := h.destinationRows_le
      have := (h.destination_end hk).2
      omega
    rw [task_eq h hx alpha hk hroom]
    simp only [Nat.add_assoc]
    exact Writes.perform _
  -- to go through the pieces is to go through their numbers
  intro dst hdst
  rw [chunked, pieces_eq h, Guarded.each_map]
  exact heach dst hdst

end Chunked

end CopyPlan

/-- **Every copier writes the image.** Which way a copier takes, and from which size on, makes no
difference. -/
theorem Copier.run_writes {α : Type} [One α] [Mul α] [DecidableEq α] {p : CopyPlan} {a : Array α}
    {w : Window} {x : Nat → Nat → α} (c : Copier) (h : p.Fits a.size w.length)
    (hx : Holds a p.rows p.cols p.lda x) (alpha : α) (n : Nat) :
    Writes n (c.run p alpha a w) (p.stores alpha x w.start) := by
  cases c with
  | portable => exact CopyPlan.serial_writes h hx alpha n
  | parallel threshold =>
    have hmul : Size.mul p.rows p.cols = .ok (p.rows * p.cols) :=
      Size.mul_eq_ok_iff.2 ⟨h.mul_lt_limit, rfl⟩
    intro dst hdst
    rw [Copier.run, Guarded.liftM_bind_of_ok hmul]
    -- above the threshold and below it, the stores are the same
    split
    · exact CopyPlan.chunked_writes h hx alpha n dst hdst
    · exact CopyPlan.serial_writes h hx alpha n dst hdst

end DenseKron
