import DenseKron.Proofs.KernelFaults
import DenseKron.Proofs.ViewProducts

/-!
# How a product of views ends

A call for a product of views meets four limits, one after the other. Its shape has to be countable;
its entries have to fit into one allocation; the sizes that the kernel multiplies up on the way to
the number of entries have to be machine sizes; and the nonzero sides of the shape must not multiply
to more than an allocation can count. `EndsByLimits` says, for each of them, how the call ends if it
is the first one to be crossed, and that it ends with a matrix if none is.

The four limits are hardly independent. If the product has entries, then each size on the way is at
most their number, and the nonzero sides are all of the sides, so that nothing can go wrong once the
entries are allocated. Only a product without entries can get further: a zero makes the number of
entries small, but the kernel multiplies it in last, and the nonzero sides leave it out.

The views themselves play no part in this, as long as there are packed copies of them.
-/

namespace DenseKron

/-! ### Limits -/

/-- **Countable shapes.** Rows, columns and entries are machine sizes. -/
def Shape.Countable (s : Shape) : Prop :=
  s.rows < Size.limit ∧ s.cols < Size.limit ∧ s.rows * s.cols < Size.limit

/-- **Allocatable shapes.** The entries fit into one allocation. -/
def Shape.Allocatable (α : Type) [ByteWidth α] (s : Shape) : Prop :=
  s.rows * s.cols * ByteWidth.bytes α ≤ Size.allocationLimit

theorem Shape.not_countable_iff {s : Shape} :
    ¬ s.Countable ↔
      Size.limit ≤ s.rows ∨ Size.limit ≤ s.cols ∨ Size.limit ≤ s.rows * s.cols := by
  unfold Shape.Countable
  omega

theorem Shape.kron?_eq_some_iff_countable {a b s : Shape} :
    a.kron? b = some s ↔
      (Shape.mk (a.rows * b.rows) (a.cols * b.cols)).Countable ∧
        s = ⟨a.rows * b.rows, a.cols * b.cols⟩ := by
  rw [Shape.kron?_eq_some_iff, Shape.Countable]
  tauto

section Bytes

variable {α : Type} [ByteWidth α] {count : Nat}

/-- What fits into an allocation can be counted, if elements occupy memory. -/
theorem le_allocationLimit_of_mul_bytes_le (hbytes : 0 < ByteWidth.bytes α)
    (h : count * ByteWidth.bytes α ≤ Size.allocationLimit) : count ≤ Size.allocationLimit :=
  Nat.le_trans (Nat.le_mul_of_pos_right count hbytes) h

theorem lt_limit_of_mul_bytes_le (hbytes : 0 < ByteWidth.bytes α)
    (h : count * ByteWidth.bytes α ≤ Size.allocationLimit) : count < Size.limit :=
  Nat.lt_of_le_of_lt (le_allocationLimit_of_mul_bytes_le hbytes h) (by decide)

end Bytes

/-- The sides of a shape with entries are all nonzero. -/
theorem Matrix.nonzeroExtent_of_pos {s : Shape} (h : 0 < s.rows * s.cols) :
    Matrix.nonzeroExtent s = s.rows * s.cols := by
  have hrows : s.rows ≠ 0 := Nat.ne_of_gt (Nat.pos_of_mul_pos_right h)
  have hcols : s.cols ≠ 0 := Nat.ne_of_gt (Nat.pos_of_mul_pos_left h)
  rw [nonzeroExtent, if_neg hrows, if_neg hcols]

/-! ### Endings -/

section Endings

variable {α : Type}

/-- **Ending by limits.** How a call ends that asks for a matrix of a certain shape, when its kernel
multiplies up the sizes `steps`. In any case the call is reported, and nothing else is. -/
structure EndsByLimits [ByteWidth α] (call : ProductCall) (shape : Shape) (steps : List Nat)
    (act : Observing Failure ProductCall Unit (Matrix α)) (s : Observed ProductCall Unit) :
    Prop where
  /-- The request is declined exactly if the shape is not countable. -/
  uncountable_iff : act s =
      .error (.refused (.invalid .uncountable)) ⟨s.state, s.events ++ [call]⟩ ↔
    Size.limit ≤ shape.rows ∨ Size.limit ≤ shape.cols ∨ Size.limit ≤ shape.rows * shape.cols
  capacity : shape.Countable → ¬ shape.Allocatable α →
    act s = .error (.fault .capacity) ⟨s.state, s.events ++ [call]⟩
  /-- A matrix with entries is always returned. -/
  full : shape.Countable → shape.Allocatable α → 0 < shape.rows * shape.cols →
    ∃ m, act s = .ok m ⟨s.state, s.events ++ [call]⟩ ∧ m.shape = shape
  /-- Without entries, the call stops exactly if one of the steps is not a machine size. -/
  fault_iff : shape.Countable → shape.rows * shape.cols = 0 →
    ((∃ f t, act s = .error (.fault f) t) ↔ ∃ k ∈ steps, Size.limit ≤ k)
  overflow : shape.Countable → shape.rows * shape.cols = 0 → (∃ k ∈ steps, Size.limit ≤ k) →
    act s = .error (.fault .mulOverflow) ⟨s.state, s.events ++ [call]⟩
  /-- If they all are, it is declined exactly if the nonzero sides are too long. -/
  unshapeable_iff : shape.Countable → shape.rows * shape.cols = 0 →
    (∀ k ∈ steps, k < Size.limit) →
    (act s = .error (.refused (.invalid (.unshapeable shape .overflow)))
        ⟨s.state, s.events ++ [call]⟩ ↔
      Size.allocationLimit < Matrix.nonzeroExtent shape)
  empty : shape.Countable → shape.rows * shape.cols = 0 → (∀ k ∈ steps, k < Size.limit) →
    Matrix.nonzeroExtent shape ≤ Size.allocationLimit →
    ∃ m, act s = .ok m ⟨s.state, s.events ++ [call]⟩ ∧ m.shape = shape ∧ m.entries = #[]

section Build

variable [Zero α] [ByteWidth α] {r : Shape} {kernel : Write α Unit} {dst : Array α} {f : Fault}

theorem Matrix.zeros_of_allocatable (h : r.Allocatable α) :
    Matrix.zeros (r.rows * r.cols) = .ok (Array.replicate (r.rows * r.cols) (0 : α)) :=
  Matrix.zeros_eq_ok_iff.2 ⟨h, rfl⟩

theorem Matrix.build_of_not_allocatable (h : ¬ r.Allocatable α) (kernel : Write α Unit) :
    Matrix.build r kernel = .error (.fault .capacity) := by
  -- the allocation is the first step of the build
  have hzeros : Matrix.zeros (r.rows * r.cols) = (.error .capacity : Except Fault (Array α)) := by
    unfold Shape.Allocatable at h
    rw [Matrix.zeros, require_of_not h]
    rfl
  rw [Matrix.build, hzeros]

theorem Matrix.build_of_error (h : r.Allocatable α)
    (hrun : kernel (Array.replicate (r.rows * r.cols) 0) = .error f dst) :
    Matrix.build r kernel = .error (.fault f) := by
  rw [Matrix.build, Matrix.zeros_of_allocatable h]
  simp only [hrun]

/-- A shape whose nonzero sides are too long is declined after its kernel has run. -/
theorem Matrix.build_of_extent_lt (h : r.Allocatable α)
    (hrun : kernel (Array.replicate (r.rows * r.cols) 0) = .ok () dst)
    (hextent : Size.allocationLimit < nonzeroExtent r) :
    Matrix.build r kernel = .error (.refused (.invalid (.unshapeable r .overflow))) := by
  have hshape : ofEntries r dst = .error .overflow := by
    rw [ofEntries, if_pos hextent]
  rw [Matrix.build, Matrix.zeros_of_allocatable h]
  simp only [hrun, hshape]

/-- Nothing about a shape that could be counted is found to be uncountable. -/
theorem Matrix.build_ne_uncountable (r : Shape) (kernel : Write α Unit) :
    Matrix.build r kernel ≠ .error (.refused (.invalid .uncountable)) := by
  intro h
  -- whichever of its three steps it ends in, this is not how
  rw [Matrix.build] at h
  split at h
  · cases h
  · split at h
    · cases h
    · split at h <;> cases h

/-- The entries that a kernel leaves are as many as it was given. -/
theorem Matrix.build_of_ok (h : r.Allocatable α)
    (hrun : kernel (Array.replicate (r.rows * r.cols) 0) = .ok () dst)
    (hsize : dst.size = r.rows * r.cols) (hextent : nonzeroExtent r ≤ Size.allocationLimit) :
    Matrix.build r kernel = .ok ⟨r, dst, hsize⟩ :=
  Matrix.build_eq_ok_iff.2 ⟨h, hrun, hextent, rfl⟩

theorem View.build_of_none (call : ProductCall) (kernel : Unit → Write α Unit)
    (s : Observed ProductCall Unit) :
    View.build call none kernel s =
      .error (.refused (.invalid .uncountable)) ⟨s.state, s.events ++ [call]⟩ := by
  rw [View.build, EStateM.bind_of_ok (Observing.emit_apply call s)]
  rfl

theorem View.build_of_error {failure : Failure} {kernel : Unit → Write α Unit}
    (h : Matrix.build r (kernel ()) = .error failure) (call : ProductCall)
    (s : Observed ProductCall Unit) :
    View.build call (some r) kernel s = .error failure ⟨s.state, s.events ++ [call]⟩ := by
  rw [View.build, EStateM.bind_of_ok (Observing.emit_apply call s)]
  simp only [h]
  rfl

theorem View.build_of_ok {m : Matrix α} {kernel : Unit → Write α Unit}
    (h : Matrix.build r (kernel ()) = .ok m) (call : ProductCall) (s : Observed ProductCall Unit) :
    View.build call (some r) kernel s = .ok m ⟨s.state, s.events ++ [call]⟩ :=
  View.build_eq_ok_iff.2 ⟨⟨r, rfl, h⟩, rfl⟩

/-- **A kernel by its steps.** On a destination of zeros of this shape it ends well if all of its
steps are machine sizes, and keeps the length; it stops at the first one that is not. -/
structure RunsBySteps (shape : Shape) (steps : List Nat) (kernel : Write α Unit) : Prop where
  ends : shape.Allocatable α → (∀ k ∈ steps, k < Size.limit) →
    ∃ dst, kernel (Array.replicate (shape.rows * shape.cols) 0) = .ok () dst ∧
      dst.size = shape.rows * shape.cols
  stops : (∃ k ∈ steps, Size.limit ≤ k) → ∀ dst, kernel dst = .error .mulOverflow dst
  /-- If there are entries, no step is larger than their number. -/
  small : shape.Countable → 0 < shape.rows * shape.cols → ∀ k ∈ steps, k < Size.limit

variable {call : ProductCall} {shape : Shape} {steps : List Nat} {o : Option Shape}
  {s : Observed ProductCall Unit}

/-- A call for a shape that is computed exactly if it is countable ends by the limits. -/
theorem EndsByLimits.of_build {kernel : Unit → Write α Unit} (hbytes : 0 < ByteWidth.bytes α)
    (ho : ∀ r, o = some r ↔ shape.Countable ∧ r = shape)
    (hkernel : RunsBySteps shape steps (kernel ())) :
    EndsByLimits call shape steps (View.build call o kernel) s := by
  have hsome : shape.Countable → o = some shape := fun h => (ho shape).2 ⟨h, rfl⟩
  -- without entries there is nothing to allocate
  have hempty : shape.rows * shape.cols = 0 → shape.Allocatable α := by
    intro hzero
    rw [Shape.Allocatable, hzero, Nat.zero_mul]
    exact Nat.zero_le _
  -- the three endings behind the allocation
  have hoverflow : shape.Countable → shape.rows * shape.cols = 0 →
      (∃ k ∈ steps, Size.limit ≤ k) → View.build call o kernel s =
        .error (.fault .mulOverflow) ⟨s.state, s.events ++ [call]⟩ := by
    intro hcount hzero hlarge
    rw [hsome hcount]
    exact View.build_of_error (Matrix.build_of_error (hempty hzero) (hkernel.stops hlarge _)) call s
  have hdeclined : shape.Countable → shape.rows * shape.cols = 0 →
      (∀ k ∈ steps, k < Size.limit) → Size.allocationLimit < Matrix.nonzeroExtent shape →
      View.build call o kernel s = .error (.refused (.invalid (.unshapeable shape .overflow)))
        ⟨s.state, s.events ++ [call]⟩ := by
    intro hcount hzero hsmall hextent
    obtain ⟨dst, hrun, -⟩ := hkernel.ends (hempty hzero) hsmall
    rw [hsome hcount]
    exact View.build_of_error (Matrix.build_of_extent_lt (hempty hzero) hrun hextent) call s
  have hok : shape.Countable → shape.Allocatable α → (∀ k ∈ steps, k < Size.limit) →
      Matrix.nonzeroExtent shape ≤ Size.allocationLimit →
      ∃ m, View.build call o kernel s = .ok m ⟨s.state, s.events ++ [call]⟩ ∧ m.shape = shape := by
    intro hcount halloc hsmall hextent
    obtain ⟨dst, hrun, hsize⟩ := hkernel.ends halloc hsmall
    rw [hsome hcount]
    exact ⟨_, View.build_of_ok (Matrix.build_of_ok halloc hrun hsize hextent) call s, rfl⟩
  refine ⟨?uncountable, ?capacity, ?full, ?fault, hoverflow, ?unshapeable, ?empty⟩
  case uncountable =>
    rw [← Shape.not_countable_iff]
    constructor
    -- a shape that can be counted is not declined in these words, however the build ends
    · intro h hcount
      rw [hsome hcount] at h
      cases hbuild : Matrix.build shape (kernel ()) with
      | ok m =>
        rw [View.build_of_ok hbuild] at h
        cases h
      | error failure =>
        rw [View.build_of_error hbuild] at h
        cases h
        exact Matrix.build_ne_uncountable shape _ hbuild
    · intro hcount
      have hnone : o = none := Option.eq_none_iff_forall_ne_some.2 fun r hr =>
        hcount ((ho r).1 hr).1
      rw [hnone]
      exact View.build_of_none call kernel s
  case capacity =>
    intro hcount halloc
    rw [hsome hcount]
    exact View.build_of_error (Matrix.build_of_not_allocatable halloc _) call s
  case full =>
    intro hcount halloc hpos
    -- with entries the steps are small, and the nonzero sides are all of the sides
    refine hok hcount halloc (hkernel.small hcount hpos) ?_
    rw [Matrix.nonzeroExtent_of_pos hpos]
    exact le_allocationLimit_of_mul_bytes_le hbytes halloc
  case fault =>
    intro hcount hzero
    refine ⟨fun hfault => ?_, fun hlarge => ⟨_, _, hoverflow hcount hzero hlarge⟩⟩
    obtain ⟨f, t, hf⟩ := hfault
    by_contra hnone
    have hsmall : ∀ k ∈ steps, k < Size.limit := fun k hk =>
      Nat.lt_of_not_le fun hle => hnone ⟨k, hk, hle⟩
    -- what else can happen is no fault
    by_cases hextent : Size.allocationLimit < Matrix.nonzeroExtent shape
    · rw [hdeclined hcount hzero hsmall hextent] at hf
      cases hf
    · obtain ⟨m, hm, -⟩ := hok hcount (hempty hzero) hsmall (Nat.not_lt.1 hextent)
      rw [hm] at hf
      cases hf
  case unshapeable =>
    intro hcount hzero hsmall
    refine ⟨fun h => ?_, hdeclined hcount hzero hsmall⟩
    by_contra hextent
    obtain ⟨m, hm, -⟩ := hok hcount (hempty hzero) hsmall (Nat.not_lt.1 hextent)
    rw [hm] at h
    cases h
  case empty =>
    intro hcount hzero hsmall hextent
    obtain ⟨m, hm, hshape⟩ := hok hcount (hempty hzero) hsmall hextent
    -- a matrix has as many entries as its shape says
    refine ⟨m, hm, hshape, Array.eq_empty_of_size_eq_zero ?_⟩
    rw [m.size_eq, hshape, hzero]

end Build

end Endings

/-! ### The three products -/

section Products

variable {α : Type} [ByteWidth α] {a b : View α} {n : Nat}

/-- **A view that can be packed**: there is an allocation for its entries. -/
def View.Packable (a : View α) : Prop := a.shape.Allocatable α

/-- The sizes that the kernel of a product multiplies up, from left to right. -/
def productSteps (a b : Shape) : List Nat :=
  [a.rows * b.rows, a.rows * b.rows * a.cols, a.rows * b.rows * a.cols * b.cols]

/-- The sizes that the kernels of the products with an identity multiply up, from left to right. -/
def identitySteps (a : Shape) (n : Nat) : List Nat :=
  [n * a.rows, n * a.rows * n, n * a.rows * n * a.cols]

theorem exists_mem_productSteps {a b : Shape} {P : Nat → Prop} :
    (∃ k ∈ productSteps a b, P k) ↔
      P (a.rows * b.rows) ∨ P (a.rows * b.rows * a.cols) ∨
        P (a.rows * b.rows * a.cols * b.cols) := by
  simp [productSteps]

theorem forall_mem_productSteps {a b : Shape} {P : Nat → Prop} :
    (∀ k ∈ productSteps a b, P k) ↔
      P (a.rows * b.rows) ∧ P (a.rows * b.rows * a.cols) ∧
        P (a.rows * b.rows * a.cols * b.cols) := by
  simp [productSteps]

theorem exists_mem_identitySteps {a : Shape} {P : Nat → Prop} :
    (∃ k ∈ identitySteps a n, P k) ↔
      P (n * a.rows) ∨ P (n * a.rows * n) ∨ P (n * a.rows * n * a.cols) := by
  simp [identitySteps]

theorem forall_mem_identitySteps {a : Shape} {P : Nat → Prop} :
    (∀ k ∈ identitySteps a n, P k) ↔
      P (n * a.rows) ∧ P (n * a.rows * n) ∧ P (n * a.rows * n * a.cols) := by
  simp [identitySteps]

/-- What can be packed can be counted, and has been packed whole. -/
theorem View.Packable.operand_fits (h : a.Packable) (hbytes : 0 < ByteWidth.bytes α) :
    a.operand.rows * a.operand.cols < Size.limit ∧
      a.operand.rows * a.operand.cols ≤ a.operand.entries.size :=
  ⟨lt_limit_of_mul_bytes_le hbytes h, Nat.le_of_eq a.gather_size.symm⟩

omit [ByteWidth α] in
theorem Writes.exists_replicate_eq_ok [Zero α] {act : Write α Unit} {stores : List (Store α)}
    {len : Nat} (h : Writes len act stores) :
    ∃ dst, act (Array.replicate len 0) = .ok () dst ∧ dst.size = len :=
  ⟨_, h _ Array.size_replicate, (size_storing _ _).trans Array.size_replicate⟩

theorem product_runsBySteps [Zero α] [One α] [Mul α] [DecidableEq α] (c : Copier)
    (hbytes : 0 < ByteWidth.bytes α) (hb : b.Packable) :
    RunsBySteps ⟨a.rows * b.rows, a.cols * b.cols⟩ (productSteps a.shape b.shape)
      (DenseKron.product c a.operand b.operand) where
  ends halloc hsmall := by
    obtain ⟨hbLt, hbLe⟩ := hb.operand_fits hbytes
    obtain ⟨hrows, hcolumn, htotal⟩ := forall_mem_productSteps.1 hsmall
    obtain ⟨x, hx⟩ := a.exists_holds_operand
    obtain ⟨y, hy⟩ := b.exists_holds_operand
    have hfit : ProductFits a.operand b.operand (a.rows * b.rows * (a.cols * b.cols)) :=
      productFits_iff.2 ⟨hbLt, hbLe, hrows, hcolumn, htotal,
        Nat.le_of_eq (ProductFits.total_eq a.operand b.operand),
        fun _ => Nat.le_of_eq a.gather_size.symm⟩
    exact (hfit.writes hx hy c).exists_replicate_eq_ok
  stops hlarge dst := by
    obtain ⟨hbLt, hbLe⟩ := hb.operand_fits hbytes
    exact product_of_overflow c hbLt hbLe (exists_mem_productSteps.1 hlarge)
  small hcount hpos := by
    -- the last step counts the entries, and the others are at most that
    have hlt : a.rows * b.rows * a.cols * b.cols < Size.limit := by
      rw [Nat.mul_assoc]
      exact hcount.2.2
    have hrows := Nat.pos_of_mul_pos_right hpos
    have hcols := Nat.pos_of_mul_pos_left hpos
    obtain ⟨hfit, -⟩ := productFits_of_pos (a := a.operand) (b := b.operand)
      ⟨Nat.pos_of_mul_pos_right hrows, Nat.pos_of_mul_pos_right hcols⟩
      ⟨Nat.pos_of_mul_pos_left hrows, Nat.pos_of_mul_pos_left hcols⟩
      (Nat.le_of_eq a.gather_size.symm) (Nat.le_of_eq b.gather_size.symm) hlt (Nat.le_refl _)
    exact forall_mem_productSteps.2 ⟨hfit.rows_lt, hfit.column_lt, hfit.total_lt⟩

/-- Both products with an identity go through the same sizes. -/
theorem identityFits_of_steps (hbytes : 0 < ByteWidth.bytes α) (ha : a.Packable)
    (hsmall : ∀ k ∈ identitySteps a.shape n, k < Size.limit) :
    IdentityFits a.operand n (a.rows * n * (a.cols * n)) := by
  obtain ⟨haLt, haLe⟩ := ha.operand_fits hbytes
  obtain ⟨hrows, hcolumn, htotal⟩ := forall_mem_identitySteps.1 hsmall
  exact ⟨hrows, hcolumn, htotal, Nat.le_of_eq (IdentityFits.total_eq_right a.operand n), haLt, haLe⟩

omit [ByteWidth α] in
theorem identitySteps_lt (hcount : (Shape.mk (a.rows * n) (a.cols * n)).Countable)
    (hpos : 0 < a.rows * n * (a.cols * n)) : ∀ k ∈ identitySteps a.shape n, k < Size.limit := by
  have hlt : n * a.rows * n * a.cols < Size.limit := by
    have htotal : n * a.rows * n * a.cols = a.rows * n * (a.cols * n) := by ring
    rw [htotal]
    exact hcount.2.2
  have hrows := Nat.pos_of_mul_pos_right hpos
  have hcols := Nat.pos_of_mul_pos_left hpos
  -- a product with entries fits, and these are the sizes that fit
  obtain ⟨hfit, -⟩ := identityFits_of_pos (a := a.operand)
    ⟨Nat.pos_of_mul_pos_right hrows, Nat.pos_of_mul_pos_right hcols⟩
    (Nat.pos_of_mul_pos_left hrows) (Nat.le_of_eq a.gather_size.symm) hlt (Nat.le_refl _)
  exact forall_mem_identitySteps.2 ⟨hfit.rows_lt, hfit.column_lt, hfit.total_lt⟩

variable [Zero α]

/-- The common beginning of the products with an identity multiplies up their steps, and whatever
comes behind it has to write the product if this fits. -/
theorem RunsBySteps.clearProduct_bind {next : Nat × Nat × Array α → Write α Unit}
    (hbytes : 0 < ByteWidth.bytes α) (ha : a.Packable)
    (hwrites : IdentityFits a.operand n (a.rows * n * (a.cols * n)) →
      a.rows * n * (a.cols * n) ≤ Size.allocationLimit →
      ∃ stores, Writes (a.rows * n * (a.cols * n)) (clearProduct a.operand n >>= next) stores) :
    RunsBySteps ⟨a.rows * n, a.cols * n⟩ (identitySteps a.shape n)
      (clearProduct a.operand n >>= next) where
  ends halloc hsmall := by
    obtain ⟨stores, hstores⟩ := hwrites (identityFits_of_steps hbytes ha hsmall)
      (le_allocationLimit_of_mul_bytes_le hbytes halloc)
    exact hstores.exists_replicate_eq_ok
  stops hlarge dst :=
    EStateM.bind_of_error (clearProduct_of_overflow (exists_mem_identitySteps.1 hlarge)) next
  small := identitySteps_lt

theorem timesIdentity_runsBySteps (hbytes : 0 < ByteWidth.bytes α) (ha : a.Packable) :
    RunsBySteps ⟨a.rows * n, a.cols * n⟩ (identitySteps a.shape n)
      (DenseKron.timesIdentity a.operand n) :=
  .clearProduct_bind hbytes ha fun hfit hlen => by
    obtain ⟨x, hx⟩ := a.exists_holds_operand
    exact ⟨_, timesIdentity_writes hfit (hfit.diagonal_stride_lt hlen) hx⟩

variable [One α] [Mul α] [DecidableEq α]

theorem identityTimes_runsBySteps (c : Copier) (hbytes : 0 < ByteWidth.bytes α)
    (ha : a.Packable) :
    RunsBySteps ⟨a.rows * n, a.cols * n⟩ (identitySteps a.shape n)
      (DenseKron.identityTimes c a.operand n) :=
  .clearProduct_bind hbytes ha fun hfit hlen => by
    obtain ⟨x, hx⟩ := a.exists_holds_operand
    exact ⟨_, identityTimes_writes c hfit (hfit.block_stride_lt hlen) hx⟩

/-- **How products of views end.** Let the elements occupy memory, and let the views be such that
packed copies of them do as well. Then all three products end by their limits, whatever the strides
of the views, and in the words of their errors. -/
theorem view_products_end_by_limits (c : Copier) (a b : View α) (n : Nat)
    (s : Observed ProductCall Unit) (hbytes : 0 < ByteWidth.bytes α) (ha : a.Packable)
    (hb : b.Packable) :
    EndsByLimits (.product a.shape b.shape) ⟨a.rows * b.rows, a.cols * b.cols⟩
      (productSteps a.shape b.shape) (View.product c a b) s ∧
    EndsByLimits (.timesIdentity a.shape n) ⟨a.rows * n, a.cols * n⟩ (identitySteps a.shape n)
      (View.timesIdentity a n) s ∧
    EndsByLimits (.identityTimes a.shape n) ⟨a.rows * n, a.cols * n⟩ (identitySteps a.shape n)
      (View.identityTimes c a n) s ∧
    (∀ problem, (Error.invalid problem).kind = "ValidationError") ∧
    Problem.uncountable.message = "product shape overflows usize" ∧
    (∀ shape reason, (Problem.unshapeable shape reason).message =
      s!"cannot shape product as ({shape.rows}, {shape.cols}): {reason.message}") ∧
    Fault.capacity.message = "capacity overflow" :=
  ⟨.of_build hbytes (fun _ => Shape.kron?_eq_some_iff_countable)
      (product_runsBySteps c hbytes hb),
    .of_build hbytes (fun _ => Shape.kron?_eq_some_iff_countable)
      (timesIdentity_runsBySteps hbytes ha),
    .of_build hbytes (fun _ => Shape.kron?_eq_some_iff_countable)
      (identityTimes_runsBySteps c hbytes ha),
    fun _ => rfl, rfl, fun _ _ => rfl, rfl⟩

/-- Views without entries that get past the allocation: one of 2⁶² columns, with which the product
is too wide to be a matrix, and one of a single row, of which an identity of order 2³² makes too
many. -/
theorem view_products_end_by_limits_without_entries :
    ∃ wide row pair : View Float, wide.shape = ⟨0, 4611686018427387904⟩ ∧ row.shape = ⟨1, 0⟩ ∧
      pair.shape = ⟨1, 2⟩ ∧ 0 < ByteWidth.bytes Float ∧ wide.Packable ∧ row.Packable ∧
      pair.Packable ∧
      View.product .portable wide pair ⟨(), []⟩ =
        .error (.refused (.invalid (.unshapeable ⟨0, 9223372036854775808⟩ .overflow)))
          ⟨(), [.product ⟨0, 4611686018427387904⟩ ⟨1, 2⟩]⟩ ∧
      View.timesIdentity row 4294967296 ⟨(), []⟩ =
        .error (.fault .mulOverflow) ⟨(), [.timesIdentity ⟨1, 0⟩ 4294967296]⟩ ∧
      ∃ m, View.product .portable row pair ⟨(), []⟩ =
        .ok m ⟨(), [.product ⟨1, 0⟩ ⟨1, 2⟩]⟩ ∧ m.shape = ⟨1, 0⟩ ∧ m.entries = #[] := by
  have hbytes : 0 < ByteWidth.bytes Float := by decide
  obtain ⟨wide, hwide, hwidePackable⟩ : ∃ v : View Float,
      v.shape = ⟨0, 4611686018427387904⟩ ∧ v.Packable :=
    ⟨.ofRows #[] 0 4611686018427387904 rfl, rfl,
      (by decide : 0 * 4611686018427387904 * 8 ≤ Size.allocationLimit)⟩
  obtain ⟨row, hrow, hrowPackable⟩ : ∃ v : View Float, v.shape = ⟨1, 0⟩ ∧ v.Packable :=
    ⟨.ofRows #[] 1 0 rfl, rfl, (by decide : 1 * 0 * 8 ≤ Size.allocationLimit)⟩
  obtain ⟨pair, hpair, hpairPackable⟩ : ∃ v : View Float, v.shape = ⟨1, 2⟩ ∧ v.Packable :=
    ⟨.ofRows #[1, 2] 1 2 rfl, rfl, (by decide : 1 * 2 * 8 ≤ Size.allocationLimit)⟩
  -- each of the three calls is settled by the limit that it is the first to cross
  obtain ⟨hproduct, -⟩ :=
    view_products_end_by_limits .portable wide pair 0 ⟨(), []⟩ hbytes hwidePackable hpairPackable
  obtain ⟨hempty, htimes, -⟩ := view_products_end_by_limits .portable row pair 4294967296 ⟨(), []⟩
    hbytes hrowPackable hpairPackable
  -- the limits are about the shapes alone
  simp only [← View.shape_rows, ← View.shape_cols, hwide, hrow, hpair] at hproduct hempty htimes
  refine ⟨wide, row, pair, hwide, hrow, hpair, hbytes, hwidePackable, hrowPackable, hpairPackable,
    ?_, ?_, ?_⟩
  · exact (hproduct.unshapeable_iff ⟨by decide, by decide, by decide⟩ (by decide)
      (by decide)).2 (by decide)
  · exact htimes.overflow ⟨by decide, by decide, by decide⟩ (by decide) (by decide)
  · exact hempty.empty ⟨by decide, by decide, by decide⟩ (by decide) (by decide) (by decide)

end Products

end DenseKron
