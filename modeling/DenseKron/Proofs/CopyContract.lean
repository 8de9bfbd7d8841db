import DenseKron.Proofs.BlockCopy

/-!
# The contract of a block copy

What a caller may rely on, in the terms of the request: its storage order, its shape, its two
leading dimensions, and whether it transposes. A copy that ends well has put every entry of the
source block, scaled, where the destination block has it, and has changed nothing else; the padding
of the source has no part in it, and neither has the copier (`Copier.copy_block_law`).

A request is planned in column-major terms, where a row-major block is its own transpose. So the
planned block is `CopyRequest.columnEntry` of the requested one, and two facts carry everything
over: the source holds the one exactly when it holds the other (`holds_columnEntry_iff`), and the
stores of the plan go where the request wants its entries (`mem_stores_iff`).

A request is checked before anything is written. Its checks hold exactly when its plan fits
(`checks_eq_ok_iff`), so a run that ended well had room for everything
(`Copier.fits_of_copy_eq_ok`).
-/

namespace DenseKron

/-- **Place of an entry** in a buffer of leading dimension `ld`, in either storage order. -/
def StorageOrder.place : StorageOrder → (row col ld : Nat) → Nat
  | .colMajor, row, col, ld => col * ld + row
  | .rowMajor, row, col, ld => row * ld + col

namespace CopyRequest

/-! ### Requests in column-major terms -/

/-- The plan of a request, whether or not its checks hold. -/
def columnPlan (r : CopyRequest) : CopyPlan where
  transpose := r.transpose
  rows := r.sourceShape.rows
  cols := r.sourceShape.cols
  lda := r.lda
  ldb := r.ldb

/-- Where the entry in row `row` and column `col` comes from. -/
def sourcePlace (r : CopyRequest) (row col : Nat) : Nat := r.order.place row col r.lda

/-- Where the entry in row `row` and column `col` goes to. -/
def destinationPlace (r : CopyRequest) (row col : Nat) : Nat :=
  match r.transpose with
  | .noTrans => r.order.place row col r.ldb
  | .trans => r.order.place col row r.ldb

theorem destinationShape_rows (r : CopyRequest) :
    r.destinationShape.rows = r.columnPlan.destinationRows := by
  cases ht : r.transpose <;>
    simp [destinationShape, Transpose.shape, CopyPlan.destinationRows, columnPlan, ht]

theorem destinationShape_cols (r : CopyRequest) :
    r.destinationShape.cols = r.columnPlan.destinationCols := by
  cases ht : r.transpose <;>
    simp [destinationShape, Transpose.shape, CopyPlan.destinationCols, columnPlan, ht]

theorem isEmpty_iff (r : CopyRequest) :
    r.IsEmpty ↔ r.sourceShape.rows = 0 ∨ r.sourceShape.cols = 0 := by
  unfold IsEmpty sourceShape
  cases r.order with
  | colMajor => rfl
  | rowMajor => exact or_comm

/-! ### The checks -/

/-- A check on a block with entries goes on with the length that the block requires. -/
theorem span_bind_eq_ok_iff {γ : Type} {rows cols ld : Nat} (hrows : 0 < rows) (hcols : 0 < cols)
    {next : Nat → Except Fault γ} {y : γ} :
    (Layout.withLeading rows cols ld >>= fun l => l.span >>= next) = .ok y ↔
      rows ≤ ld ∧ (cols - 1) * ld + rows < Size.limit ∧
        next ((cols - 1) * ld + rows) = .ok y := by
  have hne : (Layout.mk rows cols ld).isEmpty = false := by
    simp [Layout.isEmpty, Nat.ne_of_gt hrows, Nat.ne_of_gt hcols]
  rw [Fault.bind_eq_ok_iff]
  constructor
  · rintro ⟨_, hl, hspan⟩
    obtain ⟨hld, rfl⟩ := Layout.withLeading_eq_ok_iff.1 hl
    obtain ⟨_, hk, hnext⟩ := Fault.bind_eq_ok_iff.1 hspan
    obtain ⟨hlt, rfl⟩ := (Layout.span_eq_ok_iff hne).1 hk
    exact ⟨hld.resolve_left (Nat.ne_of_gt hcols), hlt, hnext⟩
  · rintro ⟨hld, hlt, hnext⟩
    exact ⟨_, Layout.withLeading_eq_ok_iff.2 ⟨Or.inr hld, rfl⟩,
      Fault.bind_eq_ok_iff.2 ⟨_, (Layout.span_eq_ok_iff hne).2 ⟨hlt, rfl⟩, hnext⟩⟩

/-- **The checks of a request** hold exactly when its plan fits. -/
theorem checks_eq_ok_iff {r : CopyRequest} (hne : ¬ r.IsEmpty) {m n : Nat} :
    r.checks m n = .ok () ↔ r.columnPlan.Fits m n := by
  have hrows : 0 < r.sourceShape.rows :=
    Nat.pos_of_ne_zero fun h0 => hne (r.isEmpty_iff.2 (Or.inl h0))
  have hcols : 0 < r.sourceShape.cols :=
    Nat.pos_of_ne_zero fun h0 => hne (r.isEmpty_iff.2 (Or.inr h0))
  have hdrows : 0 < r.columnPlan.destinationRows := by
    unfold CopyPlan.destinationRows
    split <;> assumption
  have hdcols : 0 < r.columnPlan.destinationCols := by
    unfold CopyPlan.destinationCols
    split <;> assumption
  rw [checks, destinationShape_rows, destinationShape_cols, Fault.require_bind_eq_ok_iff,
    Fault.require_bind_eq_ok_iff, span_bind_eq_ok_iff hrows hcols, Fault.require_bind_eq_ok_iff,
    span_bind_eq_ok_iff hdrows hdcols, require_eq_ok_iff]
  -- the layouts check the leading dimensions again, in vain
  constructor
  · rintro ⟨hlda, hldb, -, hsrc, hsrcLen, -, hdst, hdstLen⟩
    exact ⟨hrows, hcols, hlda, hldb, hsrc, hsrcLen, hdst, hdstLen⟩
  · intro h
    exact ⟨h.rows_le, h.destinationRows_le, h.rows_le, h.source_lt, h.source_le,
      h.destinationRows_le, h.destination_lt, h.destination_le⟩

theorem plan_eq_ok_iff {r : CopyRequest} (hne : ¬ r.IsEmpty) {m n : Nat} {o : Option CopyPlan} :
    r.plan m n = .ok o ↔ r.columnPlan.Fits m n ∧ o = some r.columnPlan := by
  rw [plan, if_neg hne, Fault.bind_eq_ok_iff]
  constructor
  · rintro ⟨⟨⟩, hchecks, ho⟩
    cases ho
    exact ⟨(checks_eq_ok_iff hne).1 hchecks, rfl⟩
  · rintro ⟨hfit, rfl⟩
    exact ⟨(), (checks_eq_ok_iff hne).2 hfit, rfl⟩

theorem not_isEmpty_of_fits {r : CopyRequest} {m n : Nat} (h : r.columnPlan.Fits m n) :
    ¬ r.IsEmpty := fun hempty =>
  (r.isEmpty_iff.1 hempty).elim (Nat.ne_of_gt h.rows_pos) (Nat.ne_of_gt h.cols_pos)

/-! ### Entries of the request and entries of the plan -/

section Entries

variable {α : Type} {r : CopyRequest} {a : Array α} {y : Nat → Nat → α}

/-- The requested block, as the plan sees it. -/
def columnEntry (r : CopyRequest) (y : Nat → Nat → α) : Nat → Nat → α :=
  match r.order with
  | .colMajor => y
  | .rowMajor => fun i j => y j i

/-- The plan's source block lies in the buffer exactly when the requested one does. -/
theorem holds_columnEntry_iff :
    Holds a r.columnPlan.rows r.columnPlan.cols r.columnPlan.lda (r.columnEntry y) ↔
      ∀ row < r.rows, ∀ col < r.cols, a[r.sourcePlace row col]? = some (y row col) := by
  unfold Holds columnPlan columnEntry sourcePlace sourceShape
  cases r.order with
  | colMajor => rfl
  | rowMajor =>
    exact ⟨fun h row hrow col hcol => h col hcol row hrow,
      fun h i hi j hj => h j hj i hi⟩

/-- A source with room for a block holds one. -/
theorem exists_entries (d : α) {n : Nat} (h : r.columnPlan.Fits a.size n) :
    ∃ y : Nat → Nat → α,
      ∀ row < r.rows, ∀ col < r.cols, a[r.sourcePlace row col]? = some (y row col) := by
  obtain ⟨x, hx⟩ := exists_holds d (Or.inr (Or.inr h.source_le))
  refine ⟨r.columnEntry x, holds_columnEntry_iff.1 ?_⟩
  -- what is transposed twice is itself
  have hback : r.columnEntry (r.columnEntry x) = x := by
    unfold columnEntry
    cases r.order <;> rfl
  rw [hback]
  exact hx

/-- Whether a buffer has room for the source block shows in the entries of the block alone. -/
theorem fits_of_agree {a' : Array α} {n : Nat} (h : r.columnPlan.Fits a.size n)
    (hagree : ∀ row < r.rows, ∀ col < r.cols,
      a'[r.sourcePlace row col]? = a[r.sourcePlace row col]?) :
    r.columnPlan.Fits a'.size n := by
  cases ha : a[0]? with
  | none =>
    -- an empty source holds no block
    have hsize : a.size = 0 := by
      by_contra hne
      rw [Array.getElem?_eq_getElem (Nat.pos_of_ne_zero hne)] at ha
      cases ha
    have := h.rows_pos
    have := h.source_le
    omega
  | some d =>
    obtain ⟨y, hy⟩ := exists_entries d h
    have hx' := holds_columnEntry_iff.2 fun row hrow col hcol =>
      (hagree row hrow col hcol).trans (hy row hrow col hcol)
    -- the last entry of the block is the one that lies farthest
    have hlast := hx'.lt_size (r := r.columnPlan.rows - 1) (c := r.columnPlan.cols - 1)
      (Nat.sub_lt h.rows_pos Nat.one_pos) (Nat.sub_lt h.cols_pos Nat.one_pos)
    have := h.rows_pos
    exact { h with source_le := by omega }

/-- A packed block has room at the place of block `(i, j)` of a block matrix. -/
theorem fits_blockPlace {m n p q i j len : Nat} (hi : i < m) (hj : j < n) (hp : 0 < p) (hq : 0 < q)
    (hlt : m * p * (n * q) < Size.limit) (hle : m * p * (n * q) ≤ len) (ha : q * p ≤ a.size) :
    blockPlace m p q i j 0 0 ≤ len ∧
      (columnPlan { rows := p, cols := q, lda := p, ldb := m * p }).Fits a.size
        (len - blockPlace m p q i j 0 0) := by
  have hm : 0 < m := Nat.lt_of_le_of_lt (Nat.zero_le i) hi
  have hn : 0 < n := Nat.lt_of_le_of_lt (Nat.zero_le j) hj
  -- the last entry of the block bounds its span on either side
  have hspan : (q - 1) * p + p = q * p := pred_mul_add hq p
  have hwhole : q * p ≤ m * p * (n * q) := by
    rw [Nat.mul_comm (m * p)]
    exact Nat.mul_le_mul (Nat.le_mul_of_pos_left q hn) (Nat.le_mul_of_pos_left p hm)
  have hlast := blockPlace_lt hi hj (Nat.sub_lt hp Nat.one_pos) (Nat.sub_lt hq Nat.one_pos)
  rw [← blockPlace_zero_add] at hlast
  refine ⟨by omega, ?_⟩
  exact
    { rows_pos := hp
      cols_pos := hq
      rows_le := Nat.le_refl p
      destinationRows_le := Nat.le_mul_of_pos_left p hm
      source_lt := by show (q - 1) * p + p < Size.limit; omega
      source_le := by show (q - 1) * p + p ≤ a.size; omega
      destination_lt := by show (q - 1) * (m * p) + p < Size.limit; omega
      destination_le := by
        show (q - 1) * (m * p) + p ≤ len - blockPlace m p q i j 0 0
        omega }

end Entries

section Stores

variable {α : Type} [One α] [Mul α] [DecidableEq α] {r : CopyRequest}

/-- What becomes of an element on its way. -/
def arriving (r : CopyRequest) (alpha x : α) : α :=
  match r.transpose with
  | .noTrans => scale alpha x
  | .trans => alpha * x

/-- **The stores of a request.** Each entry goes where the request wants it. -/
theorem mem_stores_iff {alpha : α} {y : Nat → Nat → α} {start : Nat} {s : Store α} :
    s ∈ r.columnPlan.stores alpha (r.columnEntry y) start ↔
      ∃ row < r.rows, ∃ col < r.cols,
        s = ⟨start + r.destinationPlace row col, r.arriving alpha (y row col)⟩ := by
  rw [CopyPlan.stores, mem_blockStores]
  unfold CopyPlan.destinationRows CopyPlan.destinationCols CopyPlan.image columnEntry
    destinationPlace arriving columnPlan sourceShape
  -- two of the four combinations visit the entries row by row
  cases r.order <;> cases r.transpose
  · rfl
  · constructor
    · rintro ⟨j, hj, i, hi, hs⟩
      exact ⟨i, hi, j, hj, hs⟩
    · rintro ⟨i, hi, j, hj, hs⟩
      exact ⟨j, hj, i, hi, hs⟩
  · constructor
    · rintro ⟨j, hj, i, hi, hs⟩
      exact ⟨i, hi, j, hj, hs⟩
    · rintro ⟨i, hi, j, hj, hs⟩
      exact ⟨j, hj, i, hi, hs⟩
  · rfl

end Stores

end CopyRequest

/-! ### The contract -/

namespace Copier

variable {α : Type} [One α] [Mul α] [DecidableEq α] {r : CopyRequest} {a b b' : Array α}
  {start : Nat}

theorem copy_of_isEmpty (c : Copier) (h : r.IsEmpty) (hstart : start ≤ b.size) (alpha : α) :
    c.copy r alpha a start b = .ok () b := by
  rw [copy, EStateM.bind_of_ok (Write.window_of_le hstart), CopyRequest.plan_of_isEmpty h]
  rfl

/-- **What a copy writes**, when its plan fits. -/
theorem copy_writes (c : Copier) {n : Nat} {y : Nat → Nat → α} (hstart : start ≤ n)
    (hfit : r.columnPlan.Fits a.size (n - start))
    (hy : ∀ row < r.rows, ∀ col < r.cols, a[r.sourcePlace row col]? = some (y row col))
    (alpha : α) :
    Writes n (c.copy r alpha a start) (r.columnPlan.stores alpha (r.columnEntry y) start) := by
  intro dst hdst
  subst hdst
  -- what fits is planned as it is
  have hplan := (CopyRequest.plan_eq_ok_iff (CopyRequest.not_isEmpty_of_fits hfit)).2 ⟨hfit, rfl⟩
  rw [copy, EStateM.bind_of_ok (Write.window_of_le hstart), Guarded.liftM_bind_of_ok hplan]
  exact c.run_writes (w := ⟨start, dst.size - start⟩) hfit
    (CopyRequest.holds_columnEntry_iff.2 hy) alpha dst.size dst rfl

/-- A packed block, copied to the place of block `(i, j)` of a block matrix, is written there. -/
theorem copy_blockPlace_writes (c : Copier) {m n p q i j len : Nat} {y : Nat → Nat → α}
    (hi : i < m) (hj : j < n) (hp : 0 < p) (hq : 0 < q) (hlt : m * p * (n * q) < Size.limit)
    (hle : m * p * (n * q) ≤ len) (hy : Holds a p q p y) (alpha : α) :
    Writes len (c.copy { rows := p, cols := q, lda := p, ldb := m * p } alpha a
        (blockPlace m p q i j 0 0))
      (blockStores (blockPlace m p q i j 0 0) p q (m * p) fun k l => scale alpha (y k l)) := by
  obtain ⟨hstart, hfit⟩ := CopyRequest.fits_blockPlace hi hj hp hq hlt hle (hy.mul_le_size hp hq)
  exact copy_writes c hstart hfit hy alpha

/-- A copy that ends well starts inside of the buffer, and had nothing to do or had room for it. -/
theorem fits_of_copy_eq_ok {c : Copier} {alpha : α} (h : c.copy r alpha a start b = .ok () b') :
    start ≤ b.size ∧ (r.IsEmpty ∨ r.columnPlan.Fits a.size (b.size - start)) := by
  obtain ⟨w, _, hw, h⟩ := Guarded.bind_eq_ok_iff.1 h
  obtain ⟨hstart, rfl, rfl⟩ := Write.window_eq_ok_iff.1 hw
  obtain ⟨o, hplan, -⟩ := Guarded.liftM_bind_eq_ok_iff.1 h
  refine ⟨hstart, ?_⟩
  by_cases hempty : r.IsEmpty
  · exact Or.inl hempty
  · exact Or.inr ((CopyRequest.plan_eq_ok_iff hempty).1 hplan).1

/-- **A copy that ends well has made the stores of its request.** They go to places of their own,
inside of the buffer. -/
theorem exists_stores_of_copy_eq_ok {c : Copier} {alpha : α}
    (h : c.copy r alpha a start b = .ok () b') :
    ∃ y : Nat → Nat → α,
      (∀ row < r.rows, ∀ col < r.cols, a[r.sourcePlace row col]? = some (y row col)) ∧
      Consistent (r.columnPlan.stores alpha (r.columnEntry y) start) ∧
      (∀ s ∈ r.columnPlan.stores alpha (r.columnEntry y) start, s.index < b.size) ∧
      b' = storing (r.columnPlan.stores alpha (r.columnEntry y) start) b := by
  obtain ⟨hstart, hempty | hfit⟩ := fits_of_copy_eq_ok h
  · -- an empty request has no entries, and no stores
    have hnone : ∀ row < r.rows, ∀ col < r.cols, False := fun row hrow col hcol =>
      hempty.elim (fun h0 => absurd hrow (by omega)) (fun h0 => absurd hcol (by omega))
    have hstores : r.columnPlan.stores alpha (r.columnEntry fun _ _ => (1 : α)) start = [] := by
      refine List.eq_nil_iff_forall_not_mem.2 fun s hs => ?_
      obtain ⟨row, hrow, col, hcol, -⟩ := CopyRequest.mem_stores_iff.1 hs
      exact hnone row hrow col hcol
    refine ⟨fun _ _ => 1, fun row hrow col hcol => (hnone row hrow col hcol).elim, ?_⟩
    rw [hstores]
    rw [copy_of_isEmpty c hempty hstart] at h
    cases h
    exact ⟨fun s hs => absurd hs List.not_mem_nil, fun s hs => absurd hs List.not_mem_nil, rfl⟩
  · obtain ⟨y, hy⟩ := CopyRequest.exists_entries (1 : α) hfit
    refine ⟨y, hy, CopyPlan.consistent_stores hfit alpha _ start, fun s hs => ?_, ?_⟩
    -- a store of the plan lies in its column, and the column in the buffer
    · obtain ⟨i, hi, j, hj, rfl⟩ := mem_blockStores.1 hs
      have := (hfit.destination_end hj).2
      show start + (j * r.columnPlan.ldb + i) < b.size
      omega
    · rw [copy_writes c hstart hfit hy alpha b rfl] at h
      cases h
      rfl

/-- **What a copy leaves**, of the source block and of the buffer it was given. -/
theorem exists_arrivals_of_copy_eq_ok {c : Copier} {alpha : α}
    (h : c.copy r alpha a start b = .ok () b') :
    ∃ y : Nat → Nat → α,
      (∀ row < r.rows, ∀ col < r.cols, a[r.sourcePlace row col]? = some (y row col)) ∧
      (∀ row < r.rows, ∀ col < r.cols,
        b'[start + r.destinationPlace row col]? = some (r.arriving alpha (y row col))) ∧
      (∀ t, (∀ row < r.rows, ∀ col < r.cols, t ≠ start + r.destinationPlace row col) →
        b'[t]? = b[t]?) ∧
      b'.size = b.size := by
  obtain ⟨y, hy, hconsistent, hin, rfl⟩ := exists_stores_of_copy_eq_ok h
  refine ⟨y, hy, fun row hrow col hcol => ?_, fun t hfree => ?_, size_storing _ _⟩
  · -- the store of this entry is one of the copy, and no other one goes there
    have hmem : ⟨start + r.destinationPlace row col, r.arriving alpha (y row col)⟩ ∈
        r.columnPlan.stores alpha (r.columnEntry y) start :=
      CopyRequest.mem_stores_iff.2 ⟨row, hrow, col, hcol, rfl⟩
    exact getElem?_storing_of_mem hconsistent hmem (hin _ hmem)
  · -- a store that reached the place would be that of an entry
    refine getElem?_storing_of_forall_ne (fun s hs => ?_) b
    obtain ⟨row, hrow, col, hcol, rfl⟩ := CopyRequest.mem_stores_iff.1 hs
    exact (hfree row hrow col hcol).symm

/-- Sources with the same block are copied alike, by every copier. -/
theorem copy_congr {c : Copier} {alpha : α} (h : c.copy r alpha a start b = .ok () b')
    (c' : Copier) {a' : Array α}
    (hagree : ∀ row < r.rows, ∀ col < r.cols,
      a'[r.sourcePlace row col]? = a[r.sourcePlace row col]?) :
    c'.copy r alpha a' start b = .ok () b' := by
  obtain ⟨hstart, hempty | hfit⟩ := fits_of_copy_eq_ok h
  · rw [copy_of_isEmpty c hempty hstart] at h
    cases h
    exact copy_of_isEmpty c' hempty hstart alpha
  -- with entries, the stores are determined by the block
  · obtain ⟨y, hy⟩ := CopyRequest.exists_entries (1 : α) hfit
    rw [copy_writes c hstart hfit hy alpha b rfl] at h
    cases h
    exact copy_writes c' hstart (CopyRequest.fits_of_agree hfit hagree) (fun row hrow col hcol =>
      (hagree row hrow col hcol).trans (hy row hrow col hcol)) alpha b rfl

/-- **The contract of a block copy.** Let a copy into the buffer `b`, from `start` on, end well.

Without transposition every entry of the source block arrives at its place in the destination
block: as it is if the factor is `1`, else multiplied by the factor on the left. With transposition
it arrives with row and column exchanged, and multiplied whatever the factor is. Every other element
of the buffer is what it was, and so is the length. Any copier does the same with any source that
has the same block. -/
theorem copy_block_law (c : Copier) (alpha : α) (h : c.copy r alpha a start b = .ok () b') :
    (r.transpose = .noTrans → ∀ row < r.rows, ∀ col < r.cols, ∃ x,
      a[r.order.place row col r.lda]? = some x ∧
        b'[start + r.order.place row col r.ldb]? = some (if alpha = 1 then x else alpha * x)) ∧
    (r.transpose = .trans → ∀ row < r.rows, ∀ col < r.cols, ∃ x,
      a[r.order.place row col r.lda]? = some x ∧
        b'[start + r.order.place col row r.ldb]? = some (alpha * x)) ∧
    (∀ t, (∀ row < r.rows, ∀ col < r.cols, t ≠ start + r.destinationPlace row col) →
      b'[t]? = b[t]?) ∧
    b'.size = b.size ∧
    (∀ (c' : Copier) (a' : Array α),
      (∀ row < r.rows, ∀ col < r.cols,
        a'[r.order.place row col r.lda]? = a[r.order.place row col r.lda]?) →
      c'.copy r alpha a' start b = .ok () b') := by
  obtain ⟨y, hy, harrive, hframe, hsize⟩ := exists_arrivals_of_copy_eq_ok h
  refine ⟨fun ht row hrow col hcol => ⟨y row col, hy row hrow col hcol, ?_⟩,
    fun ht row hrow col hcol => ⟨y row col, hy row hrow col hcol, ?_⟩, hframe, hsize,
    fun c' a' hagree => copy_congr h c' hagree⟩
  -- where an entry arrives, and as what, depends on whether the request transposes
  · have := harrive row hrow col hcol
    rwa [CopyRequest.destinationPlace, CopyRequest.arriving, ht] at this
  · have := harrive row hrow col hcol
    rwa [CopyRequest.destinationPlace, CopyRequest.arriving, ht] at this

/-- A row-major block with padding on both sides, transposed by tasks. -/
theorem copy_block_law_row_major_trans :
    copy (.parallel 0)
        { order := .rowMajor, transpose := .trans, rows := 2, cols := 3, lda := 4, ldb := 3 } 2
        #[1, 2, 3, 0, 4, 5, 6] 1 #[9, 9, 9, 9, 9, 9, 9, 9, 9, 9] =
        .ok () #[9, 2, 8, 9, 4, 10, 9, 6, 12, 9] ∧
      (∃ x, #[1, 2, 3, 0, 4, 5, 6][1 * 4 + 2]? = some x ∧
        #[9, 2, 8, 9, 4, 10, 9, 6, 12, 9][1 + (2 * 3 + 1)]? = some (2 * x)) ∧
      #[9, 2, 8, 9, 4, 10, 9, 6, 12, 9].size = #[9, 9, 9, 9, 9, 9, 9, 9, 9, 9].size := by
  have h : copy (.parallel 0)
      { order := .rowMajor, transpose := .trans, rows := 2, cols := 3, lda := 4, ldb := 3 } 2
      #[1, 2, 3, 0, 4, 5, 6] 1 #[9, 9, 9, 9, 9, 9, 9, 9, 9, 9] =
      .ok () #[9, 2, 8, 9, 4, 10, 9, 6, 12, 9] := rfl
  obtain ⟨-, htrans, -, hsize, -⟩ := copy_block_law (.parallel 0) 2 h
  exact ⟨h, htrans rfl 1 (by decide) 2 (by decide), hsize⟩

end Copier

end DenseKron
