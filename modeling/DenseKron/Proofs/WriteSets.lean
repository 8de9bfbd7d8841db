import DenseKron.Proofs.Calls
import DenseKron.Proofs.IdentityBlocks
import DenseKron.Proofs.KernelFaults

/-!
# Where the kernels write

A kernel makes its calls one after the other: block copies for a product, diagonals for a product
with an identity on the right, copies again for one with an identity on the left. The calls are
interleaved in memory, since a block strides through whole columns of the destination, and still
they keep apart (`KeepApart`).

There is one reason for it in all three cases. A call stays in its block, and the places of the
blocks of a block matrix are told apart by division with remainder (`disjoint_blockPlaces`). The
calls of a product fill their blocks, and so they cover the whole product (`ProductCalls.cover`):
this is why the product needs no clearing. The other two leave gaps, and their products are cleared
first.

The cursor that leads from call to call has a closed form, in which the counters of the two loops
are the quotient and the remainder (`blockVisits`, `Sweep.visits_eq`).
-/

namespace DenseKron

/-! ### The places of a block -/

section BlockPlaces

variable {α : Type} {m n p q i i' j j' t : Nat}

/-- The places of block `(i, j)` of a block matrix, column after column. -/
def blockPlaces (m p q i j : Nat) : List Nat :=
  (List.range q).flatMap fun l => (List.range p).map fun k => blockPlace m p q i j k l

theorem mem_blockPlaces :
    t ∈ blockPlaces m p q i j ↔ ∃ k < p, ∃ l < q, t = blockPlace m p q i j k l := by
  simp only [blockPlaces, List.mem_flatMap, List.mem_map, List.mem_range]
  constructor
  · rintro ⟨l, hl, k, hk, rfl⟩
    exact ⟨k, hk, l, hl, rfl⟩
  · rintro ⟨k, hk, l, hl, rfl⟩
    exact ⟨l, hl, k, hk, rfl⟩

theorem nodup_blockPlaces (hi : i < m) (j : Nat) : (blockPlaces m p q i j).Nodup := by
  refine List.nodup_flatMap.2 ⟨fun l hl => ?_, List.nodup_range.pairwise_of_forall_ne ?_⟩
  -- within a column of the block the rows differ
  · have hl := List.mem_range.1 hl
    refine List.nodup_range.map_on fun k hk k' hk' heq => ?_
    obtain ⟨-, -, hkk, -⟩ :=
      blockPlace_inj hi hi (List.mem_range.1 hk) (List.mem_range.1 hk') hl hl heq
    exact hkk
  -- a place that two columns share would lie in one column of the block
  · intro l hl l' hl' hne t ht ht'
    obtain ⟨k, hk, rfl⟩ := List.mem_map.1 ht
    obtain ⟨k', hk', heq⟩ := List.mem_map.1 ht'
    obtain ⟨-, -, -, hll⟩ := blockPlace_inj hi hi (List.mem_range.1 hk') (List.mem_range.1 hk)
      (List.mem_range.1 hl') (List.mem_range.1 hl) heq
    exact hne hll.symm

/-- No block reaches into another. -/
theorem disjoint_blockPlaces (hi : i < m) (hi' : i' < m) (hne : i ≠ i' ∨ j ≠ j') :
    (blockPlaces m p q i j).Disjoint (blockPlaces m p q i' j') := by
  intro t ht ht'
  obtain ⟨k, hk, l, hl, rfl⟩ := mem_blockPlaces.1 ht
  obtain ⟨k', hk', l', hl', heq⟩ := mem_blockPlaces.1 ht'
  obtain ⟨hii, hjj, -, -⟩ := blockPlace_inj hi hi' hk hk' hl hl' heq
  exact hne.elim (fun h => h hii) fun h => h hjj

theorem lt_of_mem_blockPlaces (hi : i < m) (hj : j < n) (ht : t ∈ blockPlaces m p q i j) :
    t < m * p * (n * q) := by
  obtain ⟨k, hk, l, hl, rfl⟩ := mem_blockPlaces.1 ht
  exact blockPlace_lt hi hj hk hl

/-- A block is written where it lies. -/
theorem places_blockStores (x : Nat → Nat → α) :
    places ((blockStores (blockPlace m p q i j 0 0) p q (m * p) x).map .ok) =
      blockPlaces m p q i j := by
  rw [places_map_ok, blockStores, List.map_flatMap, blockPlaces]
  refine List.flatMap_congr fun l _ => ?_
  rw [List.map_map]
  exact List.map_congr_left fun k _ => blockPlace_zero_add m p q i j k l

/-- The last entry of a block is the last to be written. -/
theorem getLast?_blockPlaces (hp : 0 < p) (hq : 0 < q) :
    (blockPlaces m p q i j).getLast? = some (blockPlace m p q i j (p - 1) (q - 1)) := by
  obtain ⟨p, rfl⟩ := Nat.exists_eq_add_one.2 hp
  obtain ⟨q, rfl⟩ := Nat.exists_eq_add_one.2 hq
  rw [blockPlaces, List.range_succ, List.range_succ, List.flatMap_append, List.flatMap_singleton,
    List.map_append, List.map_singleton, ← List.append_assoc, List.getLast?_concat]
  rfl

/-- The last place of the last block is the last of the whole. -/
theorem blockPlace_last (hm : 0 < m) (hn : 0 < n) (hp : 0 < p) (hq : 0 < q) :
    blockPlace m p q (m - 1) (n - 1) (p - 1) (q - 1) = m * p * (n * q) - 1 := by
  obtain ⟨m, rfl⟩ := Nat.exists_eq_add_one.2 hm
  obtain ⟨n, rfl⟩ := Nat.exists_eq_add_one.2 hn
  obtain ⟨p, rfl⟩ := Nat.exists_eq_add_one.2 hp
  obtain ⟨q, rfl⟩ := Nat.exists_eq_add_one.2 hq
  -- with successors for the four numbers nothing is subtracted any more
  refine (Nat.sub_eq_of_eq_add ?_).symm
  simp only [Nat.add_sub_cancel, blockPlace]
  ring

end BlockPlaces

/-! ### The visits of a sweep -/

section Visits

variable {α σ : Type} {m n p q : Nat} {x : Nat → Nat → α}

/-- **The visits of a sweep over blocks**: block by block, down one column of blocks after the
other, where the block starts and which factor it gets. -/
def blockVisits (m n p q : Nat) (x : Nat → Nat → α) : List (Nat × α) :=
  (List.range n).flatMap fun c => (List.range m).map fun r => (c * q * (m * p) + r * p, x r c)

theorem blockStart_eq (m p q r c : Nat) :
    c * q * (m * p) + r * p = blockPlace m p q r c 0 0 := by
  unfold blockPlace
  ring

theorem mem_blockVisits {v : Nat × α} :
    v ∈ blockVisits m n p q x ↔ ∃ r < m, ∃ c < n, v = (blockPlace m p q r c 0 0, x r c) := by
  simp only [blockVisits, blockStart_eq, List.mem_flatMap, List.mem_map, List.mem_range]
  constructor
  · rintro ⟨c, hc, r, hr, rfl⟩
    exact ⟨r, hr, c, hc, rfl⟩
  · rintro ⟨r, hr, c, hc, rfl⟩
    exact ⟨c, hc, r, hr, rfl⟩

theorem length_blockVisits : (blockVisits m n p q x).length = m * n := by
  simp [blockVisits, Nat.mul_comm]

/-- What holds of different blocks holds of different visits. -/
theorem pairwise_blockVisits {R : Nat × α → Nat × α → Prop}
    (h : ∀ r < m, ∀ c < n, ∀ r' < m, ∀ c' < n, r ≠ r' ∨ c ≠ c' →
      R (blockPlace m p q r c 0 0, x r c) (blockPlace m p q r' c' 0 0, x r' c')) :
    (blockVisits m n p q x).Pairwise R := by
  simp only [blockVisits, blockStart_eq, List.pairwise_flatMap, List.pairwise_map]
  constructor
  -- two blocks of one block column lie in different block rows
  · intro c hc
    refine List.nodup_range.pairwise_of_forall_ne fun r hr r' hr' hne => ?_
    have hc := List.mem_range.1 hc
    exact h r (List.mem_range.1 hr) c hc r' (List.mem_range.1 hr') c hc (Or.inl hne)
  -- blocks of different block columns, whatever their rows
  · refine List.nodup_range.pairwise_of_forall_ne fun c hc c' hc' hne => ?_
    rintro _ hv _ hv'
    obtain ⟨r, hr, rfl⟩ := List.mem_map.1 hv
    obtain ⟨r', hr', rfl⟩ := List.mem_map.1 hv'
    exact h r (List.mem_range.1 hr) c (List.mem_range.1 hc) r' (List.mem_range.1 hr') c'
      (List.mem_range.1 hc') (Or.inr hne)

theorem each_blockVisits (act : Nat × α → Guarded σ Unit) (s : σ) :
    Guarded.each act (blockVisits m n p q x) s =
      Guarded.each (fun c => Guarded.each (fun r => act (blockPlace m p q r c 0 0, x r c))
        (List.range m)) (List.range n) s := by
  simp only [blockVisits, blockStart_eq]
  exact Guarded.each_flatMap_map act _ _ _ s

/-- A loop that writes down what it is called with. -/
theorem each_record {ι : Type} (l s : List ι) :
    Guarded.each (fun i => modify (· ++ [i])) l s = .ok () (s ++ l) := by
  -- on the list, with anything recorded before it
  induction l generalizing s with
  | nil => rw [List.append_nil, Guarded.each_nil]
  | cons i rest ih =>
    have hhead : (modify (· ++ [i]) : Guarded (List ι) Unit) s = .ok () (s ++ [i]) := rfl
    have hcons := Guarded.each_cons_of_ok
      (fun k => (modify (· ++ [k]) : Guarded (List ι) Unit)) hhead rest
    rw [hcons, ih, List.append_assoc, List.singleton_append]

/-- **The closed form of the cursor.** -/
theorem Sweep.visits_eq {jump : Nat}
    (hstride : m * p + jump = q * (m * p)) (hlt : n * (q * (m * p)) < Size.limit)
    (x : Nat → Nat → α) :
    Sweep.visits p (.ok jump) ((List.range n).map fun c => (List.range m).map fun r => x r c) [] =
      .ok () (blockVisits m n p q x) := by
  have hloops := Guarded.each_flatMap_map (fun v : Nat × α => modify (· ++ [v]))
    (fun c r => (c * q * (m * p) + r * p, x r c)) (List.range n) (List.range m) []
  rw [each_record, List.nil_append] at hloops
  rw [visits, run_eq_each p _ hstride x hlt, blockVisits, hloops]
  simp only [← Nat.mul_assoc]

/-- **Calls that stay in their blocks keep apart.** -/
theorem keepApart_blockVisits {len : Nat} {act : Nat × α → Write α Unit}
    {acts : Nat × α → List (Action α)}
    (hperform : ∀ r < m, ∀ k < n, ∀ d : Array α, d.size = len →
      act (blockPlace m p q r k 0 0, x r k) d =
        Write.perform (acts (blockPlace m p q r k 0 0, x r k)) d)
    (hstores : ∀ r < m, ∀ k < n, ∃ stores : List (Store α),
      acts (blockPlace m p q r k 0 0, x r k) = stores.map .ok)
    (honce : ∀ r < m, ∀ k < n, (places (acts (blockPlace m p q r k 0 0, x r k))).Nodup)
    (hsub : ∀ r < m, ∀ k < n,
      places (acts (blockPlace m p q r k 0 0, x r k)) ⊆ blockPlaces m p q r k) :
    KeepApart len (m * p * (n * q)) act acts (blockVisits m n p q x) := by
  -- what is asked of every visit is asked of every block
  refine ⟨?_, ?_, ?_, ?_, ?_⟩
  · intro v hv
    obtain ⟨r, hr, k, hk, rfl⟩ := mem_blockVisits.1 hv
    exact hperform r hr k hk
  · intro v hv
    obtain ⟨r, hr, k, hk, rfl⟩ := mem_blockVisits.1 hv
    exact hstores r hr k hk
  · intro v hv
    obtain ⟨r, hr, k, hk, rfl⟩ := mem_blockVisits.1 hv
    exact honce r hr k hk
  -- each call stays in its block, and the blocks have no place in common
  · rw [List.pairwise_map]
    refine pairwise_blockVisits fun r hr k hk r' hr' k' hk' hother => ?_
    exact List.disjoint_of_subset_left (hsub r hr k hk)
      (List.disjoint_of_subset_right (hsub r' hr' k' hk') (disjoint_blockPlaces hr hr' hother))
  · intro v hv t ht
    obtain ⟨r, hr, k, hk, rfl⟩ := mem_blockVisits.1 hv
    exact lt_of_mem_blockPlaces hr hk (hsub r hr k hk ht)

end Visits

/-! ### The calls of a product -/

section Product

variable {α : Type} [One α] [Mul α] [DecidableEq α] {a b : Operand α} {len : Nat}
  {x y : Nat → Nat → α}

/-- The block copy that a product makes at one visit. -/
def blockCall (c : Copier) (a b : Operand α) (visit : Nat × α) : Write α Unit :=
  c.copy { rows := b.rows, cols := b.cols, lda := b.rows, ldb := a.rows * b.rows } visit.2
    b.entries visit.1

/-- The actions of that copy, in a buffer of `len` elements. -/
def blockCallActions (c : Copier) (a b : Operand α) (len : Nat) (visit : Nat × α) :
    List (Action α) :=
  c.actions { rows := b.rows, cols := b.cols, lda := b.rows, ldb := a.rows * b.rows } visit.2
    b.entries ⟨visit.1, len - visit.1⟩

/-- A call to block `(r, k)` makes the stores of that block. -/
theorem blockCallActions_eq (h : ProductFits a b len) (hne : ¬ ProductEmpty a b)
    (hy : Holds b.entries b.rows b.cols b.rows y) (c : Copier) {r k : Nat} (hr : r < a.rows)
    (hk : k < a.cols) (alpha : α) :
    blockCallActions c a b len (blockPlace a.rows b.rows b.cols r k 0 0, alpha) =
      (blockStores (blockPlace a.rows b.rows b.cols r k 0 0) b.rows b.cols (a.rows * b.rows)
        fun i j => scale alpha (y i j)).map .ok := by
  obtain ⟨-, -, hbr, hbc⟩ := not_productEmpty_iff.1 hne
  have hlt := h.total_lt
  have hle := h.total_le
  rw [ProductFits.total_eq] at hlt hle
  exact c.actions_blockPlace_eq hr hk hbr hbc hlt hle hy alpha

/-- **The blocks of a product keep apart.** -/
theorem keepApart_blockCalls (h : ProductFits a b len) (hne : ¬ ProductEmpty a b)
    (hy : Holds b.entries b.rows b.cols b.rows y) (c : Copier) (x : Nat → Nat → α) :
    KeepApart len (a.rows * b.rows * a.cols * b.cols) (blockCall c a b) (blockCallActions c a b len)
      (blockVisits a.rows a.cols b.rows b.cols x) := by
  obtain ⟨-, -, hbr, hbc⟩ := not_productEmpty_iff.1 hne
  have hle := h.total_le
  rw [ProductFits.total_eq] at hle ⊢
  -- a call of the copier stores to each place of its block once, so that the blocks keep the
  -- calls apart
  have hplaces : ∀ r < a.rows, ∀ k < a.cols,
      places (blockCallActions c a b len (blockPlace a.rows b.rows b.cols r k 0 0, x r k)) =
        blockPlaces a.rows b.rows b.cols r k := by
    intro r hr k hk
    rw [blockCallActions_eq h hne hy c hr hk, places_blockStores]
  refine keepApart_blockVisits (fun r hr k hk d hd => ?_)
    (fun r hr k hk => ⟨_, blockCallActions_eq h hne hy c hr hk _⟩) (fun r hr k hk => ?_)
    fun r hr k hk => (hplaces r hr k hk).symm ▸ List.Subset.refl _
  · subst hd
    exact c.copy_eq_perform _ _ _
      (Nat.le_of_lt (Nat.lt_of_lt_of_le (blockPlace_lt hr hk hbr hbc) hle))
  · rw [hplaces r hr k hk]
    exact nodup_blockPlaces hr k

/-- **What the block copies of a product do together.** -/
structure ProductCalls (c : Copier) (a b : Operand α) (x : Nat → Nat → α) (dst : Array α) :
    Prop where
  /-- The cursor stands at the start of block `(r, k)` when entry `(r, k)` is visited. -/
  visits_eq : Sweep.visits b.rows (do Size.mul (← Size.sub b.cols 1) (a.rows * b.rows))
    (a.columns (a.entries.extract 0 (a.rows * a.cols))) [] =
      .ok () (blockVisits a.rows a.cols b.rows b.cols x)
  product_eq : product c a b dst =
    Guarded.each (blockCall c a b) (blockVisits a.rows a.cols b.rows b.cols x) dst
  keepApart : KeepApart dst.size (a.rows * b.rows * a.cols * b.cols) (blockCall c a b)
    (blockCallActions c a b dst.size) (blockVisits a.rows a.cols b.rows b.cols x)
  /-- Every place of the product is written to, once. -/
  cover : ((blockVisits a.rows a.cols b.rows b.cols x).flatMap fun visit =>
    places (blockCallActions c a b dst.size visit)).Perm
      (List.range (a.rows * b.rows * a.cols * b.cols))
  any_order : ∃ dst', product c a b dst = .ok () dst' ∧
    ∀ order : List (Nat × α), order.Perm (blockVisits a.rows a.cols b.rows b.cols x) →
      Guarded.each (blockCall c a b) order dst = .ok () dst'

theorem productCalls {dst : Array α} (h : ProductFits a b dst.size) (hne : ¬ ProductEmpty a b)
    (hx : Holds a.entries a.rows a.cols a.rows x) (hy : Holds b.entries b.rows b.cols b.rows y)
    (c : Copier) : ProductCalls c a b x dst := by
  have hapart := keepApart_blockCalls h hne hy c x
  have hproduct : product c a b dst =
      Guarded.each (blockCall c a b) (blockVisits a.rows a.cols b.rows b.cols x) dst := by
    rw [h.product_eq_loops hne hx, each_blockVisits]
    rfl
  refine ⟨?_, hproduct, hapart, ?_, ?_⟩
  -- the kernel sweeps over these columns, and none of the sums on its way overflows
  · rw [h.jump_eq hne, Operand.columns_eq (Operand.holds_packed hx)]
    exact Sweep.visits_eq (ProductFits.stride_eq hne) h.strides_lt x
  -- no place occurs twice, so it is enough to find each of them
  · refine (List.perm_ext_iff_of_nodup hapart.nodup List.nodup_range).2 fun t => ?_
    rw [List.mem_flatMap, List.mem_range, ProductFits.total_eq]
    constructor
    · rintro ⟨v, hv, ht⟩
      exact (ProductFits.total_eq a b) ▸ hapart.inside v hv t ht
    · -- the block of a place is found by division
      intro ht
      obtain ⟨r, hr, k, hk, i, hi, j, hj, rfl⟩ := exists_blockPlace ht
      refine ⟨_, mem_blockVisits.2 ⟨r, hr, k, hk, rfl⟩, ?_⟩
      rw [blockCallActions_eq h hne hy c hr hk, places_blockStores]
      exact mem_blockPlaces.2 ⟨i, hi, j, hj, rfl⟩
  -- the order of the kernel is one of the orders
  · obtain ⟨dst', horder⟩ := hapart.each_perm rfl
    exact ⟨dst', hproduct.trans (horder _ (List.Perm.refl _)), horder⟩

end Product

/-! ### The calls of a product with an identity -/

section Identity

variable {α : Type} {a : Operand α} {n len : Nat} {x : Nat → Nat → α}

/-- The diagonal that a product with an identity on the right writes at one visit. -/
def diagonalCall (a : Operand α) (n : Nat) (visit : Nat × α) : Write α Unit :=
  storeDiagonal (n * a.rows) n visit.1 visit.2

/-- The actions of writing that diagonal, in a buffer of `len` elements. -/
def diagonalCallActions (a : Operand α) (n len : Nat) (visit : Nat × α) : List (Action α) :=
  diagonalActions (n * a.rows) n ⟨visit.1, len - visit.1⟩ visit.2

theorem IdentityFits.blockStart_le (h : IdentityFits a n len) (hn : 0 < n) {r k : Nat}
    (hr : r < a.rows) (hk : k < a.cols) : blockPlace a.rows n n r k 0 0 ≤ len := by
  have hle := h.total_le
  rw [IdentityFits.total_eq_right] at hle
  exact Nat.le_of_lt (Nat.lt_of_lt_of_le (blockPlace_lt hr hk hn hn) hle)

/-- The diagonal of block `(r, k)` has `n` places, and the end of the buffer cuts none of them off.
-/
theorem diagonalCallActions_eq (h : IdentityFits a n len) (hn : 0 < n)
    (hstride : n * a.rows + 1 < Size.limit) {r k : Nat} (hr : r < a.rows) (hk : k < a.cols)
    (e : α) :
    diagonalCallActions a n len (blockPlace a.rows n n r k 0 0, e) =
      ((List.range n).map fun i => (⟨blockPlace a.rows n n r k i i, e⟩ : Store α)).map .ok := by
  have hle := h.total_le
  rw [IdentityFits.total_eq_right] at hle
  -- the whole diagonal lies inside of the destination, whose end cuts nothing off
  have hin : ∀ i < n, blockPlace a.rows n n r k 0 0 + i * (n * a.rows + 1) <
      blockPlace a.rows n n r k 0 0 + (len - blockPlace a.rows n n r k 0 0) := by
    intro i hi
    rw [blockPlace_add_diagonal, Nat.add_sub_cancel' (h.blockStart_le hn hr hk)]
    exact Nat.lt_of_lt_of_le (blockPlace_lt hr hk hi hi) hle
  rw [diagonalCallActions, diagonalActions, Size.add_eq_ok_iff.2 ⟨hstride, rfl⟩]
  show (progression _ _ n _).map _ = _
  rw [progression_eq (Nat.succ_pos _) hin, List.map_map, List.map_map]
  refine List.map_congr_left fun i _ => ?_
  rw [Function.comp_apply, blockPlace_add_diagonal]
  rfl

theorem places_diagonalCall (h : IdentityFits a n len) (hn : 0 < n)
    (hstride : n * a.rows + 1 < Size.limit) {r k : Nat} (hr : r < a.rows) (hk : k < a.cols)
    (e : α) :
    places (diagonalCallActions a n len (blockPlace a.rows n n r k 0 0, e)) =
      (List.range n).map fun i => blockPlace a.rows n n r k i i := by
  rw [diagonalCallActions_eq h hn hstride hr hk, places_map_ok, List.map_map]
  rfl

/-- A diagonal lies in its block. -/
theorem diagonal_subset_blockPlaces (m n r k : Nat) :
    ((List.range n).map fun i => blockPlace m n n r k i i) ⊆ blockPlaces m n n r k := by
  intro t ht
  obtain ⟨i, hi, rfl⟩ := List.mem_map.1 ht
  have hi := List.mem_range.1 hi
  exact mem_blockPlaces.2 ⟨i, hi, i, hi, rfl⟩

/-- **The diagonals keep apart.** -/
theorem keepApart_diagonalCalls (h : IdentityFits a n len) (hn : 0 < n)
    (hstride : n * a.rows + 1 < Size.limit) (x : Nat → Nat → α) :
    KeepApart len (n * a.rows * n * a.cols) (diagonalCall a n) (diagonalCallActions a n len)
      (blockVisits a.rows a.cols n n x) := by
  rw [IdentityFits.total_eq_right]
  refine keepApart_blockVisits (fun r hr k hk d hd => ?_)
    (fun r hr k hk => ⟨_, diagonalCallActions_eq h hn hstride hr hk _⟩) (fun r hr k hk => ?_)
    fun r hr k hk => ?_
  · subst hd
    exact storeDiagonal_eq_perform _ _ _ (h.blockStart_le hn hr hk)
  · rw [places_diagonalCall h hn hstride hr hk]
    -- the places of a diagonal lie in different rows
    refine List.nodup_range.map_on fun i hi i' hi' heq => ?_
    have hi := List.mem_range.1 hi
    have hi' := List.mem_range.1 hi'
    obtain ⟨-, -, hii, -⟩ := blockPlace_inj hr hr hi hi' hi hi' heq
    exact hii
  · rw [places_diagonalCall h hn hstride hr hk]
    exact diagonal_subset_blockPlaces _ _ _ _

/-- **What the diagonals do together.** -/
structure DiagonalCalls [Zero α] (a : Operand α) (n : Nat) (x : Nat → Nat → α) (dst : Array α) :
    Prop where
  timesIdentity_eq : timesIdentity a n dst =
    (Write.fill (n * a.rows * n * a.cols) 0 >>= fun _ =>
      Guarded.each (diagonalCall a n) (blockVisits a.rows a.cols n n x)) dst
  keepApart : KeepApart dst.size (n * a.rows * n * a.cols) (diagonalCall a n)
    (diagonalCallActions a n dst.size) (blockVisits a.rows a.cols n n x)
  /-- There is one diagonal for each entry of the operand. -/
  length_visits : (blockVisits a.rows a.cols n n x).length = a.rows * a.cols
  length_places : ∀ visit ∈ blockVisits a.rows a.cols n n x,
    (places (diagonalCallActions a n dst.size visit)).length = n

theorem diagonalCalls [Zero α] {dst : Array α} (h : IdentityFits a n dst.size) (hn : 0 < n)
    (hstride : n * a.rows + 1 < Size.limit) (hx : Holds a.entries a.rows a.cols a.rows x) :
    DiagonalCalls a n x dst := by
  refine ⟨?_, keepApart_diagonalCalls h hn hstride x, length_blockVisits, ?_⟩
  · rw [timesIdentity_eq_storeDiagonals h (fun _ _ => hstride) hx,
      EStateM.bind_of_ok (Writes.fill h.total_le 0 dst rfl), each_blockVisits]
    rfl
  -- one place in each of the rows
  · intro v hv
    obtain ⟨r, hr, k, hk, rfl⟩ := mem_blockVisits.1 hv
    rw [places_diagonalCall h hn hstride hr hk, List.length_map, List.length_range]

variable [One α] [Mul α] [DecidableEq α]

/-- Copy `u` of the operand, to block `(u, u)` of a product with an identity on the left. -/
def copyCall (c : Copier) (a : Operand α) (n u : Nat) : Write α Unit :=
  c.copy { rows := a.rows, cols := a.cols, lda := a.rows, ldb := n * a.rows } 1
    (a.entries.extract 0 (a.rows * a.cols)) (u * (n * a.rows * a.cols + a.rows))

/-- The actions of that copy, in a buffer of `len` elements. -/
def copyCallActions (c : Copier) (a : Operand α) (n len u : Nat) : List (Action α) :=
  c.actions { rows := a.rows, cols := a.cols, lda := a.rows, ldb := n * a.rows } 1
    (a.entries.extract 0 (a.rows * a.cols))
    ⟨u * (n * a.rows * a.cols + a.rows), len - u * (n * a.rows * a.cols + a.rows)⟩

theorem copyCallActions_eq (h : IdentityFits a n len) (hne : n * a.rows * n * a.cols ≠ 0)
    (hx : Holds a.entries a.rows a.cols a.rows x) (c : Copier) {u : Nat} (hu : u < n) :
    copyCallActions c a n len u =
      (blockStores (blockPlace n a.rows a.cols u u 0 0) a.rows a.cols (n * a.rows)
        fun k l => scale 1 (x k l)).map .ok := by
  obtain ⟨-, hrows, hcols⟩ := pos_of_total_ne_zero hne
  have hlt := h.total_lt
  have hle := h.total_le
  rw [IdentityFits.total_eq_left] at hlt hle
  rw [copyCallActions, mul_diagonal_stride]
  exact c.actions_blockPlace_eq hu hu hrows hcols hlt hle (Operand.holds_packed hx) 1

theorem places_copyCall (h : IdentityFits a n len) (hne : n * a.rows * n * a.cols ≠ 0)
    (hx : Holds a.entries a.rows a.cols a.rows x) (c : Copier) {u : Nat} (hu : u < n) :
    places (copyCallActions c a n len u) = blockPlaces n a.rows a.cols u u := by
  rw [copyCallActions_eq h hne hx c hu, places_blockStores]

/-- **The copies keep apart.** -/
theorem keepApart_copyCalls (h : IdentityFits a n len) (hne : n * a.rows * n * a.cols ≠ 0)
    (hx : Holds a.entries a.rows a.cols a.rows x) (c : Copier) :
    KeepApart len (n * a.rows * n * a.cols) (copyCall c a n) (copyCallActions c a n len)
      (List.range n) := by
  obtain ⟨-, hrows, hcols⟩ := pos_of_total_ne_zero hne
  refine ⟨?_, ?_, ?_, ?_, ?_⟩
  -- that a copy starts in the destination is all that its actions presuppose
  · intro u hu d hd
    have hu := List.mem_range.1 hu
    have hstart := blockPlace_lt hu hu hrows hcols
    have hle := h.total_le
    rw [IdentityFits.total_eq_left] at hle
    rw [← mul_diagonal_stride] at hstart
    subst hd
    exact c.copy_eq_perform _ _ _ (Nat.le_of_lt (Nat.lt_of_lt_of_le hstart hle))
  · intro u hu
    exact ⟨_, copyCallActions_eq h hne hx c (List.mem_range.1 hu)⟩
  · intro u hu
    have hu := List.mem_range.1 hu
    rw [places_copyCall h hne hx c hu]
    exact nodup_blockPlaces hu u
  -- two copies fill blocks of different block rows
  · rw [List.pairwise_map]
    refine List.nodup_range.pairwise_of_forall_ne fun u hu u' hu' hother => ?_
    have hu := List.mem_range.1 hu
    have hu' := List.mem_range.1 hu'
    rw [places_copyCall h hne hx c hu, places_copyCall h hne hx c hu']
    exact disjoint_blockPlaces hu hu' (Or.inl hother)
  · intro u hu t ht
    have hu := List.mem_range.1 hu
    rw [places_copyCall h hne hx c hu] at ht
    rw [IdentityFits.total_eq_left]
    exact lt_of_mem_blockPlaces hu hu ht

variable [Zero α]

/-- **What the copies of a product with an identity on the left do together.** -/
structure CopyCalls (c : Copier) (a : Operand α) (n : Nat) (dst : Array α) : Prop where
  identityTimes_eq : identityTimes c a n dst =
    (Write.fill (n * a.rows * n * a.cols) 0 >>= fun _ =>
      Guarded.each (copyCall c a n) (List.range n)) dst
  keepApart : KeepApart dst.size (n * a.rows * n * a.cols) (copyCall c a n)
    (copyCallActions c a n dst.size) (List.range n)
  /-- The last store of the last copy goes to the last place of the product. -/
  last : (places (copyCallActions c a n dst.size (n - 1))).getLast? =
    some (n * a.rows * n * a.cols - 1)

theorem copyCalls {dst : Array α} (h : IdentityFits a n dst.size)
    (hne : n * a.rows * n * a.cols ≠ 0) (hstride : n * a.rows * a.cols + a.rows < Size.limit)
    (hx : Holds a.entries a.rows a.cols a.rows x) (c : Copier) : CopyCalls c a n dst := by
  obtain ⟨hn, hrows, hcols⟩ := pos_of_total_ne_zero hne
  refine ⟨?_, keepApart_copyCalls h hne hx c, ?_⟩
  · rw [identityTimes_eq_copies c h hne hstride,
      EStateM.bind_of_ok (Writes.fill h.total_le 0 dst rfl)]
    rfl
  -- the last place of the last copy is the last entry of the last block
  · rw [places_copyCall h hne hx c (Nat.sub_lt hn Nat.one_pos), getLast?_blockPlaces hrows hcols,
      blockPlace_last hn hn hrows hcols, IdentityFits.total_eq_left]

end Identity

/-! ### The three kernels -/

section Kernels

variable {α : Type} [Zero α] [One α] [Mul α] [DecidableEq α]

/-- **The write sets of the kernels.** Let the dimensions be positive, and the lengths and strides
that a kernel computes from them machine sizes; let the operands be as long as their shapes say, and
the destination as long as the product.

* The block copies of `a ⊗ b` start where `blockVisits` says. They keep apart, they write every
  place of the product, and they may be made in any order.
* The diagonals of `a ⊗ I` have `n` places each. They keep apart, inside of the product.
* The copies of `I ⊗ a` keep apart, inside of the product. The last of them ends with the product's
  last place. -/
theorem kernel_write_sets (c : Copier) (a b : Operand α) (n : Nat) (dst : Array α)
    (ha : 0 < a.rows ∧ 0 < a.cols) (haLength : a.rows * a.cols ≤ a.entries.size) :
    (0 < b.rows ∧ 0 < b.cols → b.rows * b.cols ≤ b.entries.size →
      a.rows * b.rows * a.cols * b.cols < Size.limit →
      a.rows * b.rows * a.cols * b.cols ≤ dst.size →
      ∃ x, Holds a.entries a.rows a.cols a.rows x ∧ ProductCalls c a b x dst) ∧
    (0 < n → n * a.rows * n * a.cols < Size.limit → n * a.rows * n * a.cols ≤ dst.size →
      n * a.rows + 1 < Size.limit →
      ∃ x, Holds a.entries a.rows a.cols a.rows x ∧ DiagonalCalls a n x dst) ∧
    (0 < n → n * a.rows * n * a.cols < Size.limit → n * a.rows * n * a.cols ≤ dst.size →
      n * a.rows * a.cols + a.rows < Size.limit → CopyCalls c a n dst) := by
  -- which entries the operand holds does not matter for where they go
  obtain ⟨x, hx⟩ := a.exists_holds_entries (0 : α) haLength
  refine ⟨fun hb hbLength hlt hle => ⟨x, hx, ?_⟩, fun hn hlt hle hstride => ⟨x, hx, ?_⟩,
    fun hn hlt hle hstride => ?_⟩
  · obtain ⟨y, hy⟩ := b.exists_holds_entries (0 : α) hbLength
    obtain ⟨hfit, hne⟩ := productFits_of_pos ha hb haLength hbLength hlt hle
    exact productCalls hfit hne hx hy c
  · obtain ⟨hfit, -⟩ := identityFits_of_pos ha hn haLength hlt hle
    exact diagonalCalls hfit hn hstride hx
  · obtain ⟨hfit, hne⟩ := identityFits_of_pos ha hn haLength hlt hle
    exact copyCalls hfit hne hstride hx c

/-- Operands of different shapes, neither of them square, and a destination longer than either of
the products. -/
theorem kernel_write_sets_two_by_one :
    ∃ (a b : Operand Nat) (dst : Array Nat), a = ⟨#[1, 3], 2, 1⟩ ∧ b = ⟨#[5, 7, 0, 2, 4, 6], 3, 2⟩ ∧
      dst = Array.replicate 19 8 ∧
      (∃ x, Holds a.entries 2 1 2 x ∧ ProductCalls (.parallel 0) a b x dst) ∧
      (∃ x, Holds a.entries 2 1 2 x ∧ DiagonalCalls a 3 x dst) ∧
      CopyCalls (.parallel 0) a 3 dst := by
  obtain ⟨hproduct, hdiagonals, hcopies⟩ := kernel_write_sets (.parallel 0)
    (⟨#[1, 3], 2, 1⟩ : Operand Nat) ⟨#[5, 7, 0, 2, 4, 6], 3, 2⟩ 3 (Array.replicate 19 8)
    (by decide) (by decide)
  exact ⟨_, _, _, rfl, rfl, rfl, hproduct (by decide) (by decide) (by decide) (by decide),
    hdiagonals (by decide) (by decide) (by decide) (by decide),
    hcopies (by decide) (by decide) (by decide) (by decide)⟩

end Kernels

end DenseKron
