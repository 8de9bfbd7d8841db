import DenseKron.Proofs.Gathering
import DenseKron.Proofs.Written

/-!
# Products of views

A product of views is a kernel between two changes of form: views are packed on the way in, and the
destination is read as a matrix on the way out. A call that returns a matrix has passed all of its
limits (`View.build_eq_ok_iff`, `Matrix.build_eq_ok_iff`), and then the matrix is what the kernel
wrote into a destination of zeros. It would have written the same into any other destination of that
size, for any packed copies of the operands, and by any copier (`Built`).

A call is a function of the shapes and the operands of its views, and these are the same for all
views of one matrix. Strides have no influence on anything that a call does
(`view_products_correct`).
-/

namespace DenseKron

/-! ### Calls that return a matrix -/

section Runs

variable {α : Type}

theorem Matrix.ofEntries_eq_ok_iff {s : Shape} {entries : Array α} {m : Matrix α} :
    Matrix.ofEntries s entries = .ok m ↔
      nonzeroExtent s ≤ Size.allocationLimit ∧ m.shape = s ∧ m.entries = entries := by
  rw [Matrix.ofEntries]
  by_cases hextent : Size.allocationLimit < nonzeroExtent s
  · rw [if_pos hextent]
    constructor
    · intro h
      cases h
    · rintro ⟨hle, -⟩
      exact absurd hextent (Nat.not_lt.2 hle)
  · rw [if_neg hextent]
    -- a matrix with these entries has a proof that they are as many as its shape says
    obtain ⟨shape, entries', hsize⟩ := m
    constructor
    · intro h
      split at h
      · cases h
        exact ⟨Nat.not_lt.1 hextent, rfl, rfl⟩
      · cases h
    · rintro ⟨-, rfl, rfl⟩
      rw [dif_pos hsize]

theorem Matrix.zeros_eq_ok_iff [Zero α] [ByteWidth α] {count : Nat} {dst : Array α} :
    Matrix.zeros count = .ok dst ↔
      count * ByteWidth.bytes α ≤ Size.allocationLimit ∧ dst = Array.replicate count 0 := by
  rw [Matrix.zeros, Fault.require_bind_eq_ok_iff]
  refine and_congr_right fun _ => ?_
  constructor
  · intro h
    cases h
    rfl
  · rintro rfl
    rfl

/-- A matrix is built if there is room for its entries, the kernel runs to its end on them, and the
shape is one that a matrix may have. -/
theorem Matrix.build_eq_ok_iff [Zero α] [ByteWidth α] {s : Shape} {kernel : Write α Unit}
    {m : Matrix α} :
    Matrix.build s kernel = .ok m ↔
      s.rows * s.cols * ByteWidth.bytes α ≤ Size.allocationLimit ∧
      kernel (Array.replicate (s.rows * s.cols) 0) = .ok () m.entries ∧
      nonzeroExtent s ≤ Size.allocationLimit ∧ m.shape = s := by
  rw [Matrix.build]
  constructor
  · intro h
    -- each of the three steps has ended well
    split at h
    · cases h
    · next hzeros =>
      obtain ⟨hroom, rfl⟩ := Matrix.zeros_eq_ok_iff.1 hzeros
      split at h
      · cases h
      · next hkernel =>
        split at h
        · next hof =>
          cases h
          obtain ⟨hextent, hshape, rfl⟩ := Matrix.ofEntries_eq_ok_iff.1 hof
          exact ⟨hroom, hkernel, hextent, hshape⟩
        · cases h
  · rintro ⟨hroom, hkernel, hextent, hshape⟩
    rw [Matrix.zeros_eq_ok_iff.2 ⟨hroom, rfl⟩]
    simp only [hkernel, Matrix.ofEntries_eq_ok_iff.2 ⟨hextent, hshape, rfl⟩]

theorem View.build_eq_ok_iff [Zero α] [ByteWidth α] {call : ProductCall} {shape : Option Shape}
    {kernel : Unit → Write α Unit} {s t : Observed ProductCall Unit} {m : Matrix α} :
    View.build call shape kernel s = .ok m t ↔
      (∃ r, shape = some r ∧ Matrix.build r (kernel ()) = .ok m) ∧
      t = ⟨s.state, s.events ++ [call]⟩ := by
  unfold View.build
  rw [EStateM.bind_of_ok (Observing.emit_apply call s)]
  -- the call is reported before anything is decided
  cases shape with
  | none => simp
  | some r =>
    cases hbuild : Matrix.build r (kernel ()) with
    | error failure =>
      simp only [hbuild]
      constructor
      · intro h
        cases h
      · rintro ⟨⟨_, hr, hok⟩, -⟩
        cases hr
        rw [hbuild] at hok
        cases hok
    | ok m' => simp [hbuild, pure, EStateM.pure, eq_comm]

/-- What a returned matrix says about the run of its kernel, where the shape of the product is
known. -/
theorem View.kernel_eq_ok_of_build_eq_ok [Zero α] [ByteWidth α] {call : ProductCall}
    {shape : Option Shape} {kernel : Unit → Write α Unit} {s t : Observed ProductCall Unit}
    {m : Matrix α} {rows cols : Nat} (h : View.build call shape kernel s = .ok m t)
    (hshape : ∀ r, shape = some r → r = ⟨rows, cols⟩) :
    kernel () (Array.replicate (rows * cols) 0) = .ok () m.entries ∧ m.shape = ⟨rows, cols⟩ := by
  obtain ⟨⟨r, hr, hbuild⟩, -⟩ := View.build_eq_ok_iff.1 h
  obtain rfl := hshape r hr
  obtain ⟨-, hkernel, -, hm⟩ := Matrix.build_eq_ok_iff.1 hbuild
  exact ⟨hkernel, hm⟩

end Runs

/-! ### What is returned -/

section Results

variable {α : Type}

/-- **A matrix that a kernel has built.** Its shape is that of `rows × cols` blocks with `p × q`
entries each. Its entries are stored column by column, as the kernel writes them into any
destination of their number, and entry `(k, l)` of block `(i, j)` is `z i j k l`. -/
structure Built (m : Matrix α) (kernel : Write α Unit) (rows cols p q : Nat)
    (z : (i j k l : Nat) → i < rows → j < cols → k < p → l < q → α) : Prop where
  shape_eq : m.shape = ⟨rows * p, cols * q⟩
  stored : ∀ (r c : Nat) (hr : r < m.shape.rows) (hc : c < m.shape.cols),
    m.entries[c * m.shape.rows + r]? = some (m.view.entry r c hr hc)
  written : ∀ dst : Array α, dst.size = rows * p * (cols * q) → kernel dst = .ok () m.entries
  entry : ∀ (i j k l : Nat) (hi : i < rows) (hj : j < cols) (hk : k < p) (hl : l < q),
    ∃ (hr : i * p + k < m.shape.rows) (hc : j * q + l < m.shape.cols),
      m.view.entry (i * p + k) (j * q + l) hr hc = z i j k l hi hj hk hl

variable {m : Matrix α} {kernel : Write α Unit} {rows cols p q : Nat}
  {y : Nat → Nat → Nat → Nat → α} {z : (i j k l : Nat) → i < rows → j < cols → k < p → l < q → α}
  {dst : Array α}

theorem Built.of_writtenBlocks (hshape : m.shape = ⟨rows * p, cols * q⟩)
    (hwritten : ∀ dst : Array α, dst.size = rows * p * (cols * q) → kernel dst = .ok () m.entries)
    (hblocks : WrittenBlocks rows cols p q y dst m.entries)
    (hz : ∀ (i j k l : Nat) (hi : i < rows) (hj : j < cols) (hk : k < p) (hl : l < q),
      y i j k l = z i j k l hi hj hk hl) : Built m kernel rows cols p q z where
  shape_eq := hshape
  stored _ _ hr hc := m.getElem?_entries hr hc
  written := hwritten
  entry i j k l hi hj hk hl := by
    -- the places of blocks are rows and columns of the matrix
    have hr : i * p + k < m.shape.rows := by
      rw [hshape]
      exact mul_add_lt_mul hi hk
    have hc : j * q + l < m.shape.cols := by
      rw [hshape]
      exact mul_add_lt_mul hj hl
    refine ⟨hr, hc, Option.some.inj ?_⟩
    rw [← m.getElem?_entries hr hc, hshape, hblocks.entry i hi j hj k hk l hl, hz]

/-- A packed copy has room for the entries of the view. -/
theorem View.exists_holds_operand [Zero α] (a : View α) :
    ∃ x, Holds a.operand.entries a.operand.rows a.operand.cols a.operand.rows x :=
  a.operand.exists_holds_entries (0 : α) (Nat.le_of_eq a.gather_size.symm)

end Results

/-! ### The three products -/

section Products

variable {α : Type} [Zero α] [One α] [Mul α] [DecidableEq α] [ByteWidth α] {a b : View α} {n : Nat}
  {u v : Array α} {s t : Observed ProductCall Unit} {m : Matrix α} {c : Copier}

theorem View.built_of_product_eq_ok (h : View.product c a b s = .ok m t) (c' : Copier)
    (hu : PackedCopy u a) (hv : PackedCopy v b) :
    Built m (DenseKron.product c' ⟨u, a.rows, a.cols⟩ ⟨v, b.rows, b.cols⟩) a.rows a.cols b.rows
      b.cols fun i j k l hi hj hk hl => scale (a.entry i j hi hj) (b.entry k l hk hl) := by
  obtain rfl := packedCopy_iff.1 hu
  obtain rfl := packedCopy_iff.1 hv
  obtain ⟨hkernel, hm⟩ := View.kernel_eq_ok_of_build_eq_ok h fun _ hr =>
    (Shape.kron?_eq_some_iff.1 hr).2.2.2
  obtain ⟨x, hx⟩ := a.exists_holds_operand
  obtain ⟨y, hy⟩ := b.exists_holds_operand
  -- whether a kernel fits depends on its destination only by the length
  have hfit := productFits_of_product_eq_ok hkernel
  rw [Array.size_replicate] at hfit
  refine Built.of_writtenBlocks hm (fun dst hdst => ?_) (product_writtenBlocks hx hy hkernel) ?_
  · exact (hfit.writes hx hy c).eq_ok_of_eq_ok (hfit.writes hx hy c') Array.size_replicate hdst
      hkernel
  · intro i j k l hi hj hk hl
    rw [hu.entry_eq hx hi hj, hv.entry_eq hy hk hl]

omit [One α] [Mul α] [DecidableEq α] in
theorem View.built_of_timesIdentity_eq_ok (h : View.timesIdentity a n s = .ok m t)
    (hu : PackedCopy u a) :
    Built m (DenseKron.timesIdentity ⟨u, a.rows, a.cols⟩ n) a.rows a.cols n n
      fun i j k l hi hj _ _ => if k = l then a.entry i j hi hj else 0 := by
  obtain rfl := packedCopy_iff.1 hu
  obtain ⟨hkernel, hm⟩ := View.kernel_eq_ok_of_build_eq_ok h fun _ hr =>
    (Shape.kron?_eq_some_iff.1 hr).2.2.2
  obtain ⟨x, hx⟩ := a.exists_holds_operand
  -- no other destination of this length is written differently
  have hwrites := timesIdentity_writes (identityFits_of_timesIdentity_eq_ok hkernel)
    (stride_lt_of_timesIdentity_eq_ok hkernel) hx
  rw [Array.size_replicate] at hwrites
  refine Built.of_writtenBlocks hm (fun dst hdst => ?_) (timesIdentity_writtenBlocks hx hkernel) ?_
  · exact hwrites.eq_ok_of_eq_ok hwrites Array.size_replicate hdst hkernel
  · intro i j k l hi hj _ _
    rw [hu.entry_eq hx hi hj]

theorem View.built_of_identityTimes_eq_ok (h : View.identityTimes c a n s = .ok m t) (c' : Copier)
    (hu : PackedCopy u a) :
    Built m (DenseKron.identityTimes c' ⟨u, a.rows, a.cols⟩ n) n n a.rows a.cols
      fun i j k l _ _ hk hl => if i = j then a.entry k l hk hl else 0 := by
  obtain rfl := packedCopy_iff.1 hu
  -- the order of the identity comes first in the blocks, and last in the shape
  have hshape : ∀ r, a.shape.kronIdentity? n = some r → r = ⟨n * a.rows, n * a.cols⟩ := by
    intro r hr
    rw [(Shape.kron?_eq_some_iff.1 hr).2.2.2, Nat.mul_comm n, Nat.mul_comm n]
    rfl
  obtain ⟨hkernel, hm⟩ := View.kernel_eq_ok_of_build_eq_ok h hshape
  obtain ⟨x, hx⟩ := a.exists_holds_operand
  have hwrites (c : Copier) := identityTimes_writes c (identityFits_of_identityTimes_eq_ok hkernel)
    (stride_lt_of_identityTimes_eq_ok hkernel) hx
  rw [Array.size_replicate] at hwrites
  refine Built.of_writtenBlocks hm (fun dst hdst => ?_) (identityTimes_writtenBlocks hx hkernel) ?_
  · exact (hwrites c).eq_ok_of_eq_ok (hwrites c') Array.size_replicate hdst hkernel
  · intro i j k l _ _ hk hl
    rw [hu.entry_eq hx hk hl]

/-- **Products of views.** A product that is returned has the shape of the product, is stored column
by column, and consists of what the kernel writes for the packed copies of the views, one of each:
scaled entries in the product of two, entries and zeros in a product with an identity. Views of the
same matrices have the same outcome, whichever it is. -/
theorem view_products_correct (c : Copier) (a b : View α) (n : Nat)
    (s t : Observed ProductCall Unit) (m : Matrix α) :
    (∀ w : View α, ∃! u, PackedCopy u w) ∧
    (View.product c a b s = .ok m t → ∀ (c' : Copier) (u v : Array α), PackedCopy u a →
      PackedCopy v b →
      Built m (DenseKron.product c' ⟨u, a.rows, a.cols⟩ ⟨v, b.rows, b.cols⟩) a.rows a.cols b.rows
        b.cols fun i j k l hi hj hk hl =>
          if a.entry i j hi hj = 1 then b.entry k l hk hl
          else a.entry i j hi hj * b.entry k l hk hl) ∧
    (View.timesIdentity a n s = .ok m t → ∀ u : Array α, PackedCopy u a →
      Built m (DenseKron.timesIdentity ⟨u, a.rows, a.cols⟩ n) a.rows a.cols n n
        fun i j k l hi hj _ _ => if k = l then a.entry i j hi hj else 0) ∧
    (View.identityTimes c a n s = .ok m t → ∀ (c' : Copier) (u : Array α), PackedCopy u a →
      Built m (DenseKron.identityTimes c' ⟨u, a.rows, a.cols⟩ n) n n a.rows a.cols
        fun i j k l _ _ hk hl => if i = j then a.entry k l hk hl else 0) ∧
    ∀ a' b' : View α, SameMatrix a a' → SameMatrix b b' →
      View.product c a b s = View.product c a' b' s ∧
      View.timesIdentity a n s = View.timesIdentity a' n s ∧
      View.identityTimes c a n s = View.identityTimes c a' n s := by
  refine ⟨fun w => ⟨w.gather, packedCopy_gather w, fun _ hu => packedCopy_iff.1 hu⟩,
    fun h c' _ _ hu hv => View.built_of_product_eq_ok h c' hu hv,
    fun h _ hu => View.built_of_timesIdentity_eq_ok h hu,
    fun h c' _ hu => View.built_of_identityTimes_eq_ok h c' hu, fun a' b' ha hb => ⟨?_, ?_, ?_⟩⟩
  -- a product reads the shape and the gathered operand of a view, and nothing else
  · rw [View.product, View.product, ha.shape_eq, hb.shape_eq, ha.operand_eq, hb.operand_eq]
  · rw [View.timesIdentity, View.timesIdentity, ha.shape_eq, ha.operand_eq]
  · rw [View.identityTimes, View.identityTimes, ha.shape_eq, ha.operand_eq]

/-- Every other entry of every other row, from the last one backwards, and the same matrix, packed.
-/
theorem view_products_correct_reversed :
    ∃ (a a' : View Float) (m m₁ m₂ : Matrix Float),
      (a.rowStride = -6 ∧ a.colStride = -2 ∧ a'.rowStride = 1 ∧ a'.colStride = 2) ∧
      PackedCopy #[4, 2, 3, 1] a ∧ SameMatrix a a' ∧
      m.entries = #[16, 8, 8, 4, 12, 4, 6, 2, 12, 6, 4, 2, 9, 3, 3, 1] ∧
      m₁.entries = #[4, 0, 2, 0, 0, 4, 0, 2, 3, 0, 1, 0, 0, 3, 0, 1] ∧
      m₂.entries = #[4, 2, 0, 0, 3, 1, 0, 0, 0, 0, 4, 2, 0, 0, 3, 1] ∧
      (View.product .portable a a ⟨(), []⟩ = .ok m ⟨(), [.product ⟨2, 2⟩ ⟨2, 2⟩]⟩ ∧
        View.product .portable a' a' ⟨(), []⟩ = .ok m ⟨(), [.product ⟨2, 2⟩ ⟨2, 2⟩]⟩ ∧
        ∃ hr hc, m.view.entry 1 2 hr hc = 6) ∧
      (View.timesIdentity a 2 ⟨(), []⟩ = .ok m₁ ⟨(), [.timesIdentity ⟨2, 2⟩ 2]⟩ ∧
        View.timesIdentity a' 2 ⟨(), []⟩ = .ok m₁ ⟨(), [.timesIdentity ⟨2, 2⟩ 2]⟩ ∧
        ∃ hr hc, m₁.view.entry 1 3 hr hc = 3) ∧
      View.identityTimes .portable a 2 ⟨(), []⟩ = .ok m₂ ⟨(), [.identityTimes ⟨2, 2⟩ 2]⟩ ∧
        View.identityTimes .portable a' 2 ⟨(), []⟩ = .ok m₂ ⟨(), [.identityTimes ⟨2, 2⟩ 2]⟩ ∧
        ∃ hr hc, m₂.view.entry 3 2 hr hc = 2 := by
  let a : View Float :=
    { data := #[1, 9, 2, 9, 9, 9, 3, 9, 4]
      origin := 8
      rows := 2
      cols := 2
      rowStride := -6
      colStride := -2
      inside := fun r c hr hc => by
        simp only [List.size_toArray, List.length_cons, List.length_nil]
        omega }
  let a' : View Float := .ofCols #[4, 2, 3, 1] 2 2 rfl
  let m : Matrix Float := ⟨⟨4, 4⟩, #[16, 8, 8, 4, 12, 4, 6, 2, 12, 6, 4, 2, 9, 3, 3, 1], rfl⟩
  let m₁ : Matrix Float := ⟨⟨4, 4⟩, #[4, 0, 2, 0, 0, 4, 0, 2, 3, 0, 1, 0, 0, 3, 0, 1], rfl⟩
  let m₂ : Matrix Float := ⟨⟨4, 4⟩, #[4, 2, 0, 0, 3, 1, 0, 0, 0, 0, 4, 2, 0, 0, 3, 1], rfl⟩
  have hpacked : PackedCopy #[4, 2, 3, 1] a := packedCopy_iff.2 (by decide +kernel)
  have hsame : SameMatrix a a' :=
    .of_packedCopy rfl rfl hpacked (packedCopy_iff.2 (by decide +kernel))
  have hproduct : View.product .portable a a ⟨(), []⟩ = .ok m ⟨(), [.product ⟨2, 2⟩ ⟨2, 2⟩]⟩ :=
    View.build_eq_ok_iff.2 ⟨⟨⟨4, 4⟩, by decide, Matrix.build_eq_ok_iff.2
      ⟨by decide +kernel, by decide +kernel, by decide, rfl⟩⟩, rfl⟩
  have htimes : View.timesIdentity a 2 ⟨(), []⟩ = .ok m₁ ⟨(), [.timesIdentity ⟨2, 2⟩ 2]⟩ :=
    View.build_eq_ok_iff.2 ⟨⟨⟨4, 4⟩, by decide, Matrix.build_eq_ok_iff.2
      ⟨by decide +kernel, by decide +kernel, by decide, rfl⟩⟩, rfl⟩
  have hidentity : View.identityTimes .portable a 2 ⟨(), []⟩ =
      .ok m₂ ⟨(), [.identityTimes ⟨2, 2⟩ 2]⟩ :=
    View.build_eq_ok_iff.2 ⟨⟨⟨4, 4⟩, by decide, Matrix.build_eq_ok_iff.2
      ⟨by decide +kernel, by decide +kernel, by decide, rfl⟩⟩, rfl⟩
  obtain ⟨-, -, -, -, hviews⟩ := view_products_correct .portable a a 2 ⟨(), []⟩ ⟨(), []⟩ m
  obtain ⟨-, hbuilt, -, -, -⟩ := view_products_correct .portable a a 2 ⟨(), []⟩ _ m
  obtain ⟨-, -, hbuilt₁, -, -⟩ := view_products_correct .portable a a 2 ⟨(), []⟩ _ m₁
  obtain ⟨-, -, -, hbuilt₂, -⟩ := view_products_correct .portable a a 2 ⟨(), []⟩ _ m₂
  obtain ⟨hagree, hagree₁, hagree₂⟩ := hviews a' a' hsame hsame
  obtain ⟨hr, hc, hentry⟩ :=
    (hbuilt hproduct .portable _ _ hpacked hpacked).entry 0 1 1 0 (by decide) (by decide)
      (by decide) (by decide)
  obtain ⟨hr₁, hc₁, hentry₁⟩ :=
    (hbuilt₁ htimes _ hpacked).entry 0 1 1 1 (by decide) (by decide) (by decide) (by decide)
  obtain ⟨hr₂, hc₂, hentry₂⟩ :=
    (hbuilt₂ hidentity .portable _ hpacked).entry 1 1 1 0 (by decide) (by decide) (by decide)
      (by decide)
  refine ⟨a, a', m, m₁, m₂, ⟨rfl, rfl, rfl, rfl⟩, hpacked, hsame, rfl, rfl, rfl,
    ⟨hproduct, hagree ▸ hproduct, hr, hc, hentry.trans (by decide +kernel)⟩,
    ⟨htimes, hagree₁ ▸ htimes, hr₁, hc₁, hentry₁.trans (by decide +kernel)⟩,
    hidentity, hagree₂ ▸ hidentity, hr₂, hc₂, hentry₂.trans (by decide +kernel)⟩

end Products

end DenseKron
