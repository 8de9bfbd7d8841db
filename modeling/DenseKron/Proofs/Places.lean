import DenseKron.Proofs.Stores
import DenseKron.Size
import Mathlib.Tactic.Linarith
import Mathlib.Tactic.Ring

/-!
# Places in a buffer

A block with `p` rows and `q` columns that starts at `start` in a buffer of leading dimension `ld`
occupies the places `start + (c * ld + r)`. The stores of a block copy are one per such place
(`blockStores`), and they cannot conflict as long as a column fits into the leading dimension.

A Kronecker product is a matrix of blocks: `m` of them on top of each other, each with `p` rows and
`q` columns, in a buffer whose leading dimension is the height `m * p` of the whole. Entry `(k, l)`
of block `(i, j)` lies at `blockPlace m p q i j k l`. Everything that is to be known of these places
is division with remainder, made three times over, by the height, by `q` and by `p`:

* different entries have different places (`blockPlace_inj`), so that no block reaches into another;
* the places of `m × n` blocks are exactly those before `m * p * (n * q)` (`blockPlace_lt`,
  `exists_blockPlace`), so that nothing is left out.
-/

namespace DenseKron

/-! ### Two counters in one number -/

section Counters

variable {m p i i' k k' : Nat}

/-- An outer counter below `m` and an inner one below `p` make a number below `m * p`. -/
theorem mul_add_lt_mul (hi : i < m) (hk : k < p) : i * p + k < m * p := by
  calc i * p + k < i * p + p := Nat.add_lt_add_left hk _
    _ = (i + 1) * p := (Nat.succ_mul i p).symm
    _ ≤ m * p := Nat.mul_le_mul_right p hi

/-- The last of `m` steps by `p`, apart from the others. -/
theorem pred_mul_add (hm : 0 < m) (p : Nat) : (m - 1) * p + p = m * p := by
  rw [← Nat.succ_mul, Nat.succ_eq_add_one, Nat.sub_add_cancel hm]

/-- The outer counter is the quotient. -/
theorem mul_add_div (i : Nat) (hk : k < p) : (i * p + k) / p = i := by
  rw [Nat.add_comm, Nat.add_mul_div_right _ _ (Nat.zero_lt_of_lt hk), Nat.div_eq_of_lt hk,
    Nat.zero_add]

/-- The inner counter is the remainder. -/
theorem mul_add_mod (i : Nat) (hk : k < p) : (i * p + k) % p = k := by
  rw [Nat.mul_add_mod_self_right, Nat.mod_eq_of_lt hk]

/-- Quotient and remainder are determined by the number. -/
theorem mul_add_inj (hk : k < p) (hk' : k' < p) (h : i * p + k = i' * p + k') :
    i = i' ∧ k = k' := by
  constructor
  · rw [← mul_add_div i hk, h, mul_add_div i' hk']
  · rw [← mul_add_mod i hk, h, mul_add_mod i' hk']

/-- Every number below `m * p` is made by two counters. -/
theorem exists_mul_add {t : Nat} (h : t < m * p) : ∃ i < m, ∃ k < p, t = i * p + k := by
  have hp : 0 < p := Nat.pos_of_ne_zero fun h0 => by simp [h0] at h
  exact ⟨t / p, Nat.div_lt_of_lt_mul (by rwa [Nat.mul_comm] at h), t % p, Nat.mod_lt t hp,
    by rw [Nat.mul_comm]; exact (Nat.div_add_mod t p).symm⟩

/-- The last place of a strided block bounds every other one. -/
theorem mul_add_lt_span {rows cols ld r c : Nat} (hr : r < rows) (hc : c < cols) :
    c * ld + r < (cols - 1) * ld + rows := by
  have : c * ld ≤ (cols - 1) * ld := Nat.mul_le_mul_right ld (by omega)
  omega

/-- Places at a fixed distance, none of which is cut off. -/
theorem progression_eq {start step count stop : Nat} (hstep : 0 < step)
    (h : ∀ k < count, start + k * step < stop) :
    progression start step count stop = (List.range count).map fun k => start + k * step := by
  have hcount : count ≤ (stop - start + (step - 1)) / step := by
    rw [Nat.le_div_iff_mul_le hstep]
    rcases Nat.eq_zero_or_pos count with hzero | hpos
    · simp [hzero]
    · -- the last place is the one that could be cut off
      have hlast := h (count - 1) (Nat.sub_lt hpos Nat.one_pos)
      have hmul := pred_mul_add hpos step
      omega
  rw [progression, Nat.min_eq_left hcount]
  refine List.ext_getElem (by rw [List.length_map, List.length_range, List.length_range']) ?_
  intro k _ _
  rw [List.getElem_range', List.getElem_map, List.getElem_range, Nat.mul_comm]

/-- The step along the diagonal of a square matrix is a size if the number of its entries is one. -/
theorem diagonal_step_eq_ok {n : Nat} (h : n * n < Size.limit) : Size.add n 1 = .ok (n + 1) := by
  refine Size.add_eq_ok_iff.2 ⟨?_, rfl⟩
  unfold Size.limit at h ⊢
  nlinarith

end Counters

/-! ### Blocks of a block matrix -/

/-- **Place of a block entry.** The place of entry `(k, l)` of block `(i, j)` in a column-major
matrix of `p × q` blocks, `m` of which lie on top of each other. -/
def blockPlace (m p q i j k l : Nat) : Nat := (j * q + l) * (m * p) + (i * p + k)

section BlockPlace

variable {m n p q i i' j j' k k' l l' : Nat}

/-- Inside of a block the leading dimension is that of the whole. -/
theorem blockPlace_zero_add (m p q i j k l : Nat) :
    blockPlace m p q i j 0 0 + (l * (m * p) + k) = blockPlace m p q i j k l := by
  unfold blockPlace
  ring

theorem blockPlace_inj (hi : i < m) (hi' : i' < m) (hk : k < p) (hk' : k' < p) (hl : l < q)
    (hl' : l' < q) (h : blockPlace m p q i j k l = blockPlace m p q i' j' k' l') :
    i = i' ∧ j = j' ∧ k = k' ∧ l = l' := by
  -- the height tells the column from the row, and each of them then falls apart on its own
  obtain ⟨hcol, hrow⟩ := mul_add_inj (mul_add_lt_mul hi hk) (mul_add_lt_mul hi' hk') h
  obtain ⟨hj, hl⟩ := mul_add_inj hl hl' hcol
  obtain ⟨hi, hk⟩ := mul_add_inj hk hk' hrow
  exact ⟨hi, hj, hk, hl⟩

theorem blockPlace_lt (hi : i < m) (hj : j < n) (hk : k < p) (hl : l < q) :
    blockPlace m p q i j k l < m * p * (n * q) := by
  rw [Nat.mul_comm (m * p)]
  exact mul_add_lt_mul (mul_add_lt_mul hj hl) (mul_add_lt_mul hi hk)

theorem exists_blockPlace {t : Nat} (h : t < m * p * (n * q)) :
    ∃ i < m, ∃ j < n, ∃ k < p, ∃ l < q, t = blockPlace m p q i j k l := by
  rw [Nat.mul_comm] at h
  obtain ⟨col, hcol, row, hrow, rfl⟩ := exists_mul_add h
  obtain ⟨j, hj, l, hl, rfl⟩ := exists_mul_add hcol
  obtain ⟨i, hi, k, hk, rfl⟩ := exists_mul_add hrow
  exact ⟨i, hi, j, hj, k, hk, l, hl, rfl⟩

end BlockPlace

/-! ### The stores of a block -/

section BlockStores

variable {α : Type}

/-- **A buffer holds a block** of `rows × cols` entries `x` with leading dimension `ld`. -/
def Holds (a : Array α) (rows cols ld : Nat) (x : Nat → Nat → α) : Prop :=
  ∀ r < rows, ∀ c < cols, a[c * ld + r]? = some (x r c)

/-- A buffer that reaches to the last entry of a block holds one. -/
theorem exists_holds {a : Array α} {rows cols ld : Nat} (d : α)
    (h : rows = 0 ∨ cols = 0 ∨ (cols - 1) * ld + rows ≤ a.size) :
    ∃ x, Holds a rows cols ld x := by
  -- the default is never taken: every place of the block is in the buffer
  refine ⟨fun r c => a.getD (c * ld + r) d, fun r hr c hc => ?_⟩
  have hlt : c * ld + r < a.size := by
    have : c * ld + r < (cols - 1) * ld + rows := mul_add_lt_span hr hc
    omega
  show a[c * ld + r]? = some (a.getD (c * ld + r) d)
  rw [Array.getD_eq_getD_getElem?, Array.getElem?_eq_getElem hlt, Option.getD_some]

section Held

variable {a : Array α} {rows cols ld : Nat} {x : Nat → Nat → α}

theorem Holds.lt_size (hx : Holds a rows cols ld x) {r c : Nat} (hr : r < rows) (hc : c < cols) :
    c * ld + r < a.size := by
  by_contra hle
  have hnone : a[c * ld + r]? = none := Array.getElem?_eq_none (Nat.not_lt.1 hle)
  rw [hx r hr c hc] at hnone
  cases hnone

/-- A buffer that holds a packed block is as long as the block. -/
theorem Holds.mul_le_size (hx : Holds a rows cols rows x) (hrows : 0 < rows) (hcols : 0 < cols) :
    cols * rows ≤ a.size := by
  have hlast := hx.lt_size (Nat.sub_lt hrows Nat.one_pos) (Nat.sub_lt hcols Nat.one_pos)
  have hspan := pred_mul_add hcols rows
  omega

/-- A column of a block, cut out of the buffer that holds it. -/
theorem Holds.extract_toList (hx : Holds a rows cols ld x) {c : Nat} (hc : c < cols) :
    (a.extract (c * ld) (c * ld + rows)).toList = (List.range rows).map fun r => x r c := by
  refine List.ext_getElem? fun r => ?_
  rw [Array.getElem?_toList, Array.getElem?_extract, List.getElem?_map]
  -- behind the last row both lists have ended
  by_cases hr : r < rows
  · have hlt := hx.lt_size hr hc
    rw [if_pos (by omega), hx r hr c hc, List.getElem?_range hr, Option.map_some]
  · rw [if_neg (by omega), List.getElem?_eq_none (by rw [List.length_range]; omega),
      Option.map_none]

theorem Holds.extract (hx : Holds a rows cols ld x) {stop : Nat}
    (h : ∀ r < rows, ∀ c < cols, c * ld + r < stop) :
    Holds (a.extract 0 stop) rows cols ld x := by
  intro r hr c hc
  have hlt := hx.lt_size hr hc
  have hstop := h r hr c hc
  rw [Array.getElem?_extract, if_pos (by omega), Nat.zero_add, hx r hr c hc]

end Held

/-- A buffer without gaps is determined by its entries. -/
theorem eq_of_entries_eq {u v : Array α} {rows cols : Nat} (hu : u.size = rows * cols)
    (hv : v.size = rows * cols)
    (h : ∀ r < rows, ∀ c < cols, u[c * rows + r]? = v[c * rows + r]?) : u = v := by
  refine Array.ext_getElem? fun t => ?_
  -- every element is an entry, and there are none behind
  by_cases ht : t < rows * cols
  · rw [Nat.mul_comm] at ht
    obtain ⟨c, hc, r, hr, rfl⟩ := exists_mul_add ht
    exact h r hr c hc
  · rw [Array.getElem?_eq_none (by rw [hu]; exact Nat.not_lt.1 ht),
      Array.getElem?_eq_none (by rw [hv]; exact Nat.not_lt.1 ht)]

/-- **The stores of a block.** One per entry of `x`, column after column. -/
def blockStores (start rows cols ld : Nat) (x : Nat → Nat → α) : List (Store α) :=
  (List.range cols).flatMap fun c => (List.range rows).map fun r => ⟨start + (c * ld + r), x r c⟩

variable {start rows cols ld : Nat} {x : Nat → Nat → α}

theorem mem_blockStores {s : Store α} :
    s ∈ blockStores start rows cols ld x ↔
      ∃ r < rows, ∃ c < cols, s = ⟨start + (c * ld + r), x r c⟩ := by
  simp only [blockStores, List.mem_flatMap, List.mem_map, List.mem_range]
  constructor
  · rintro ⟨c, hc, r, hr, rfl⟩
    exact ⟨r, hr, c, hc, rfl⟩
  · rintro ⟨r, hr, c, hc, rfl⟩
    exact ⟨c, hc, r, hr, rfl⟩

/-- The entries of a block have places of their own. -/
theorem consistent_blockStores (h : rows ≤ ld) : Consistent (blockStores start rows cols ld x) := by
  intro s hs t ht hidx
  obtain ⟨r, hr, c, hc, rfl⟩ := mem_blockStores.1 hs
  obtain ⟨r', hr', c', hc', rfl⟩ := mem_blockStores.1 ht
  -- a row number is below the leading dimension, so that the place determines both numbers
  obtain ⟨rfl, rfl⟩ := mul_add_inj (Nat.lt_of_lt_of_le hr h) (Nat.lt_of_lt_of_le hr' h)
    (Nat.add_left_cancel hidx)
  rfl

theorem mem_blockStores_blockPlace {m p q i j : Nat} {s : Store α} :
    s ∈ blockStores (blockPlace m p q i j 0 0) p q (m * p) x ↔
      ∃ k < p, ∃ l < q, s = ⟨blockPlace m p q i j k l, x k l⟩ := by
  rw [mem_blockStores]
  simp only [blockPlace_zero_add]

end BlockStores

/-! ### Stores of a block matrix -/

section Blocks

variable {α : Type}

/-- **The stores of a block matrix**, block after block: `m × n` blocks of `p × q` entries each,
where `z i j` is block `(i, j)`. -/
def blockMatrixStores (m n p q : Nat) (z : Nat → Nat → Nat → Nat → α) : List (Store α) :=
  (List.range n).flatMap fun j => (List.range m).flatMap fun i =>
    blockStores (blockPlace m p q i j 0 0) p q (m * p) (z i j)

variable {m n p q : Nat} {z : Nat → Nat → Nat → Nat → α}

theorem mem_blockMatrixStores {s : Store α} :
    s ∈ blockMatrixStores m n p q z ↔
      ∃ i < m, ∃ j < n, ∃ k < p, ∃ l < q, s = ⟨blockPlace m p q i j k l, z i j k l⟩ := by
  simp only [blockMatrixStores, List.mem_flatMap, List.mem_range, mem_blockStores_blockPlace]
  constructor
  · rintro ⟨j, hj, i, hi, k, hk, l, hl, rfl⟩
    exact ⟨i, hi, j, hj, k, hk, l, hl, rfl⟩
  · rintro ⟨i, hi, j, hj, k, hk, l, hl, rfl⟩
    exact ⟨j, hj, i, hi, k, hk, l, hl, rfl⟩

/-- No block reaches into another. -/
theorem consistent_blockMatrixStores : Consistent (blockMatrixStores m n p q z) := by
  intro s hs t ht hidx
  obtain ⟨i, hi, j, hj, k, hk, l, hl, rfl⟩ := mem_blockMatrixStores.1 hs
  obtain ⟨i', hi', j', hj', k', hk', l', hl', rfl⟩ := mem_blockMatrixStores.1 ht
  obtain ⟨rfl, rfl, rfl, rfl⟩ := blockPlace_inj hi hi' hk hk' hl hl' hidx
  rfl

theorem getElem?_blockMatrixStores {dst : Array α} (h : m * p * (n * q) ≤ dst.size) {i j k l : Nat}
    (hi : i < m) (hj : j < n) (hk : k < p) (hl : l < q) :
    (storing (blockMatrixStores m n p q z) dst)[blockPlace m p q i j k l]? = some (z i j k l) := by
  have hmem : ⟨blockPlace m p q i j k l, z i j k l⟩ ∈ blockMatrixStores m n p q z :=
    mem_blockMatrixStores.2 ⟨i, hi, j, hj, k, hk, l, hl, rfl⟩
  exact getElem?_storing_of_mem consistent_blockMatrixStores hmem
    (Nat.lt_of_lt_of_le (blockPlace_lt hi hj hk hl) h)

theorem blockMatrixStores_eq_nil (h : m * p * (n * q) = 0) :
    blockMatrixStores m n p q z = [] := by
  refine List.eq_nil_iff_forall_not_mem.2 fun s hs => ?_
  obtain ⟨i, hi, j, hj, k, hk, l, hl, -⟩ := mem_blockMatrixStores.1 hs
  have hlt := blockPlace_lt hi hj hk hl
  rw [h] at hlt
  exact Nat.not_lt_zero _ hlt

theorem getElem?_blockMatrixStores_of_le (dst : Array α) {t : Nat} (ht : m * p * (n * q) ≤ t) :
    (storing (blockMatrixStores m n p q z) dst)[t]? = dst[t]? := by
  refine getElem?_storing_of_forall_ne (fun s hs => ?_) dst
  obtain ⟨i, hi, j, hj, k, hk, l, hl, rfl⟩ := mem_blockMatrixStores.1 hs
  exact Nat.ne_of_lt (Nat.lt_of_lt_of_le (blockPlace_lt hi hj hk hl) ht)

/-- **A cleared block matrix.** Where a block matrix consists of one value, apart from certain
stores, it is enough to fill its place with that value and to make those stores. -/
theorem storing_storing_filling {x : α} {stores : List (Store α)}
    (hsub : stores ⊆ blockMatrixStores m n p q z)
    (hrest : ∀ i < m, ∀ j < n, ∀ k < p, ∀ l < q,
      ⟨blockPlace m p q i j k l, z i j k l⟩ ∈ stores ∨ z i j k l = x)
    {dst : Array α} (h : m * p * (n * q) ≤ dst.size) :
    storing stores (storing (filling (m * p * (n * q)) x) dst) =
      storing (blockMatrixStores m n p q z) dst := by
  have hc : Consistent stores := consistent_blockMatrixStores.of_subset hsub
  have hfilled : (storing (filling (m * p * (n * q)) x) dst).size = dst.size := size_storing _ _
  refine Array.ext_getElem? fun t => ?_
  by_cases ht : t < m * p * (n * q)
  · obtain ⟨i, hi, j, hj, k, hk, l, hl, rfl⟩ := exists_blockPlace ht
    -- an entry is stored now, or it is the filling
    rw [getElem?_blockMatrixStores h hi hj hk hl]
    by_cases hmem : ⟨blockPlace m p q i j k l, z i j k l⟩ ∈ stores
    · exact getElem?_storing_of_mem hc hmem (hfilled ▸ Nat.lt_of_lt_of_le ht h)
    · -- another store to this place would be the missing one
      have hfree : ∀ s ∈ stores, s.index ≠ blockPlace m p q i j k l := by
        intro s hs hidx
        obtain ⟨i', hi', j', hj', k', hk', l', hl', rfl⟩ := mem_blockMatrixStores.1 (hsub hs)
        obtain ⟨rfl, rfl, rfl, rfl⟩ := blockPlace_inj hi' hi hk' hk hl' hl hidx
        exact hmem hs
      rw [getElem?_storing_of_forall_ne hfree, getElem?_storing_filling x h ht,
        (hrest i hi j hj k hk l hl).resolve_left hmem]
  -- behind the block matrix neither side stores anything
  · have hle : m * p * (n * q) ≤ t := Nat.not_lt.1 ht
    have hfree : ∀ s ∈ stores, s.index ≠ t := by
      intro s hs
      obtain ⟨i, hi, j, hj, k, hk, l, hl, rfl⟩ := mem_blockMatrixStores.1 (hsub hs)
      exact Nat.ne_of_lt (Nat.lt_of_lt_of_le (blockPlace_lt hi hj hk hl) hle)
    rw [getElem?_storing_of_forall_ne hfree, getElem?_storing_filling_of_le x dst hle,
      getElem?_blockMatrixStores_of_le dst hle]

end Blocks

end DenseKron
