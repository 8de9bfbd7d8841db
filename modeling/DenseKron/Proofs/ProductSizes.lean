import DenseKron.Proofs.CopyFaults
import DenseKron.Proofs.ViewOutcome
import Mathlib.Algebra.Order.BigOperators.GroupWithZero.List

/-!
# One size, computed in several ways

The number of entries of a Kronecker product is computed more than once. Whoever asks for the shape
gets rows and columns, each a product of two sides, and the entries are rows times columns
(`Shape.kron`, `Shape.kron?`). The kernel does not ask. It multiplies the four sides in the order in
which they come, and stops at the first number on the way that is no machine size. The products with
an identity have a third order.

These are different computations, but the same size, as long as no side is zero. A chain of factors
can only grow then: every number on the way is at most the last one, so that the chain is computed
without a fault exactly if the exact product is a machine size (`Size.forall_mem_mulSteps_iff`). The
first two factors do not matter for this. A zero among them makes all of the chain zero, whereas a
zero that comes later hides from the exact product a number that the chain has met.

What the kernels do with the number they arrive at is in `EndsByLength`. It is the length that they
compare with the destination's, and nothing else decides how a run on whole operands ends.
-/

namespace DenseKron

/-! ### Chains of factors -/

namespace Size

/-- **Multiplying up.** The product of sizes, computed from left to right. -/
def mulUp (first : Nat) (factors : List Nat) : Except Fault Nat := factors.foldlM mul first

/-- The numbers that are computed on the way, the product at last. -/
def mulSteps : Nat → List Nat → List Nat
  | _, [] => []
  | x, y :: rest => x * y :: mulSteps (x * y) rest

variable {x y k : Nat} {factors : List Nat} {f : Fault}

theorem mulUp_cons (x y : Nat) (factors : List Nat) :
    mulUp x (y :: factors) = (mul x y >>= fun z => mulUp z factors) :=
  List.foldlM_cons

/-- A product is multiplied up if every number on the way is a machine size. -/
theorem mulUp_eq_ok_iff :
    mulUp x factors = .ok k ↔
      (∀ s ∈ mulSteps x factors, s < limit) ∧ k = x * factors.prod := by
  -- with every factor the product so far takes the place of `x`
  induction factors generalizing x with
  | nil =>
    show Except.ok x = .ok k ↔ _
    simp [mulSteps, eq_comm]
  | cons y rest ih =>
    rw [mulUp_cons, Fault.bind_eq_ok_iff, mulSteps, List.forall_mem_cons, List.prod_cons,
      ← Nat.mul_assoc]
    constructor
    · rintro ⟨z, hz, hrest⟩
      obtain ⟨hlt, rfl⟩ := mul_eq_ok_iff.1 hz
      obtain ⟨hsteps, rfl⟩ := ih.1 hrest
      exact ⟨⟨hlt, hsteps⟩, rfl⟩
    · rintro ⟨⟨hlt, hsteps⟩, rfl⟩
      exact ⟨_, mul_eq_ok_iff.2 ⟨hlt, rfl⟩, ih.2 ⟨hsteps, rfl⟩⟩

/-- There is one way in which multiplying up can fail. -/
theorem mulUp_eq_error_iff :
    mulUp x factors = .error f ↔ (∃ s ∈ mulSteps x factors, limit ≤ s) ∧ f = .mulOverflow := by
  -- the same induction; the fault may come now or later
  induction factors generalizing x with
  | nil =>
    show Except.ok x = .error f ↔ _
    simp [mulSteps]
  | cons y rest ih =>
    rw [mulUp_cons, Fault.bind_eq_error_iff, mulSteps, List.exists_mem_cons_iff]
    constructor
    · rintro (hmul | ⟨z, hz, hrest⟩)
      · obtain ⟨hle, rfl⟩ := mul_eq_error_iff.1 hmul
        exact ⟨Or.inl hle, rfl⟩
      · obtain ⟨-, rfl⟩ := mul_eq_ok_iff.1 hz
        obtain ⟨hsteps, rfl⟩ := ih.1 hrest
        exact ⟨Or.inr hsteps, rfl⟩
    · rintro ⟨hsteps, rfl⟩
      -- the fault is the same one whether this step meets it or a later one
      obtain hlt | hle := Nat.lt_or_ge (x * y) limit
      · have hrest := hsteps.resolve_left (Nat.not_le.2 hlt)
        exact Or.inr ⟨_, mul_eq_ok_iff.2 ⟨hlt, rfl⟩, ih.2 ⟨hrest, rfl⟩⟩
      · exact Or.inl (mul_of_limit_le hle)

/-- **A growing chain.** If no factor after the second is zero, then each number on the way is at
most the last one, and they are all machine sizes if that one is. -/
theorem forall_mem_mulSteps_iff (hpos : ∀ z ∈ factors, 0 < z) :
    (∀ s ∈ mulSteps x (y :: factors), s < limit) ↔ x * y * factors.prod < limit := by
  induction factors generalizing x y with
  | nil => simp [mulSteps]
  | cons z rest ih =>
    obtain ⟨hz, hrest⟩ := List.forall_mem_cons.1 hpos
    rw [mulSteps, List.forall_mem_cons, ih hrest, List.prod_cons, Nat.mul_assoc (x * y)]
    refine ⟨And.right, fun hlt => ⟨?_, hlt⟩⟩
    -- the factors still to come are not zero, so that they make `x * y` no smaller
    calc x * y ≤ x * y * (z * rest.prod) :=
          Nat.le_mul_of_pos_right _ (Nat.mul_pos hz (List.prod_pos hrest))
      _ < limit := hlt

end Size

/-! ### Agreement -/

/-- **Agreeing sizes.** A shape `s` with `count` entries is computed with and without a question for
the entries, and the entries are multiplied up by way of `steps`. All of this succeeds or fails
together, as the exact number `count` is a machine size or not, and the results are the same. -/
structure SizesAgree (s : Shape) (count : Nat) (shape? : Option Shape) (shape : Except Fault Shape)
    (steps : List Nat) (length : Except Fault Nat) : Prop where
  count_eq : s.rows * s.cols = count
  shape?_eq_some_iff : shape? = some s ↔ count < Size.limit
  /-- No other shape is ever found. -/
  shape?_eq : ∀ s', shape? = some s' → s' = s
  steps_iff : (∀ k ∈ steps, k < Size.limit) ↔ count < Size.limit
  length_iff : (∃ k, length = .ok k) ↔ count < Size.limit
  length_eq : ∀ k, length = .ok k → k = s.rows * s.cols
  shape_eq : count < Size.limit → shape = .ok s

section Agreement

variable {a b s : Shape} {n : Nat}

theorem Shape.kron_of_countable
    (h : (Shape.mk (a.rows * b.rows) (a.cols * b.cols)).Countable) :
    a.kron b = .ok ⟨a.rows * b.rows, a.cols * b.cols⟩ := by
  have hrows : Size.mul a.rows b.rows = .ok (a.rows * b.rows) :=
    Size.mul_eq_ok_iff.2 ⟨h.1, rfl⟩
  have hcols : Size.mul a.cols b.cols = .ok (a.cols * b.cols) :=
    Size.mul_eq_ok_iff.2 ⟨h.2.1, rfl⟩
  rw [Shape.kron, hrows, hcols]
  rfl

theorem Shape.kron?_eq_none_iff :
    a.kron? b = none ↔
      Size.limit ≤ a.rows * b.rows ∨ Size.limit ≤ a.cols * b.cols ∨
        Size.limit ≤ a.rows * b.rows * (a.cols * b.cols) := by
  rw [← Shape.not_countable_iff (s := ⟨a.rows * b.rows, a.cols * b.cols⟩),
    Option.eq_none_iff_forall_ne_some]
  -- no shape is computed exactly if none would be countable
  constructor
  · intro hnone hcount
    exact hnone _ (Shape.kron?_eq_some_iff_countable.2 ⟨hcount, rfl⟩)
  · intro hcount s hs
    exact hcount (Shape.kron?_eq_some_iff_countable.1 hs).1

/-- If a shape has entries, neither side is larger than their number. -/
theorem Shape.countable_iff_of_pos (hrows : 0 < s.rows) (hcols : 0 < s.cols) :
    s.Countable ↔ s.rows * s.cols < Size.limit := by
  refine ⟨fun h => h.2.2, fun hlt => ⟨?_, ?_, hlt⟩⟩
  · exact Nat.lt_of_le_of_lt (Nat.le_mul_of_pos_right _ hcols) hlt
  · exact Nat.lt_of_le_of_lt (Nat.le_mul_of_pos_left _ hrows) hlt

/-- The sizes of a product with entries agree with a chain of factors that has the same product. -/
theorem sizesAgree_of_pos {x y count : Nat} {factors : List Nat}
    (hrows : 0 < a.rows * b.rows) (hcols : 0 < a.cols * b.cols) (hpos : ∀ z ∈ factors, 0 < z)
    (hentries : a.rows * b.rows * (a.cols * b.cols) = count)
    (hchain : x * y * factors.prod = count) :
    SizesAgree ⟨a.rows * b.rows, a.cols * b.cols⟩ count (a.kron? b) (a.kron b)
      (Size.mulSteps x (y :: factors)) (Size.mulUp x (y :: factors)) := by
  -- everything is reduced to one inequality, for the number of entries
  have hcountable : (Shape.mk (a.rows * b.rows) (a.cols * b.cols)).Countable ↔
      count < Size.limit := by
    rw [← hentries]
    exact Shape.countable_iff_of_pos hrows hcols
  have hsteps : (∀ k ∈ Size.mulSteps x (y :: factors), k < Size.limit) ↔ count < Size.limit := by
    rw [← hchain]
    exact Size.forall_mem_mulSteps_iff hpos
  have hprod : x * (y :: factors).prod = count := by
    rw [List.prod_cons, ← Nat.mul_assoc, hchain]
  refine ⟨hentries, ?shape?, ?unique, hsteps, ?length, ?lengthEq, ?shape⟩
  case shape? =>
    rw [Shape.kron?_eq_some_iff_countable, hcountable]
    exact and_iff_left rfl
  case unique =>
    intro s' hs'
    exact (Shape.kron?_eq_some_iff_countable.1 hs').2
  case length =>
    rw [← hsteps]
    constructor
    · rintro ⟨k, hk⟩
      exact (Size.mulUp_eq_ok_iff.1 hk).1
    · intro h
      exact ⟨_, Size.mulUp_eq_ok_iff.2 ⟨h, rfl⟩⟩
  case lengthEq =>
    intro k hk
    rw [(Size.mulUp_eq_ok_iff.1 hk).2, hprod, hentries]
  case shape =>
    intro hlt
    exact Shape.kron_of_countable (hcountable.2 hlt)

/-- The number of entries of a product, as its kernel multiplies it up. -/
def productLength (a b : Shape) : Except Fault Nat := Size.mulUp a.rows [b.rows, a.cols, b.cols]

/-- The number of entries of a product with an identity, as its kernels multiply it up. -/
def identityLength (a : Shape) (n : Nat) : Except Fault Nat := Size.mulUp n [a.rows, n, a.cols]

theorem productSteps_eq (a b : Shape) :
    productSteps a b = Size.mulSteps a.rows [b.rows, a.cols, b.cols] := rfl

theorem identitySteps_eq (a : Shape) (n : Nat) :
    identitySteps a n = Size.mulSteps n [a.rows, n, a.cols] := rfl

theorem productLength_eq_ok_iff {k : Nat} :
    productLength a b = .ok k ↔
      (∀ s ∈ productSteps a b, s < Size.limit) ∧ k = a.rows * b.rows * a.cols * b.cols := by
  have hprod : a.rows * [b.rows, a.cols, b.cols].prod = a.rows * b.rows * a.cols * b.cols := by
    simp only [List.prod_cons, List.prod_nil]
    ring
  rw [productLength, Size.mulUp_eq_ok_iff, hprod, productSteps_eq]

theorem identityLength_eq_ok_iff {k : Nat} :
    identityLength a n = .ok k ↔
      (∀ s ∈ identitySteps a n, s < Size.limit) ∧ k = n * a.rows * n * a.cols := by
  have hprod : n * [a.rows, n, a.cols].prod = n * a.rows * n * a.cols := by
    simp only [List.prod_cons, List.prod_nil]
    ring
  rw [identityLength, Size.mulUp_eq_ok_iff, hprod, identitySteps_eq]

/-- The sizes of a product of matrices with entries agree. -/
theorem product_sizesAgree (ha : 0 < a.rows ∧ 0 < a.cols) (hb : 0 < b.rows ∧ 0 < b.cols) :
    SizesAgree ⟨a.rows * b.rows, a.cols * b.cols⟩ (a.rows * b.rows * a.cols * b.cols)
      (a.kron? b) (a.kron b) (productSteps a b) (productLength a b) := by
  rw [productSteps_eq, productLength]
  refine sizesAgree_of_pos (Nat.mul_pos ha.1 hb.1) (Nat.mul_pos ha.2 hb.2) ?_
    (Nat.mul_assoc _ _ _).symm ?_
  · intro z hz
    rcases List.mem_pair.1 hz with rfl | rfl
    · exact ha.2
    · exact hb.2
  -- the kernel has the factors in another order
  · simp only [List.prod_cons, List.prod_nil]
    ring

/-- The sizes of a product with an identity agree, if neither factor is without entries. -/
theorem identity_sizesAgree (ha : 0 < a.rows ∧ 0 < a.cols) (hn : 0 < n) :
    SizesAgree ⟨a.rows * n, a.cols * n⟩ (n * a.rows * n * a.cols)
      (a.kronIdentity? n) (a.kronIdentity n) (identitySteps a n) (identityLength a n) := by
  rw [identitySteps_eq, identityLength]
  -- the identity has the shape of a square
  show SizesAgree _ _ (a.kron? (.square n)) (a.kron (.square n)) _ _
  refine sizesAgree_of_pos (b := .square n) (Nat.mul_pos ha.1 hn) (Nat.mul_pos ha.2 hn) ?_ ?_ ?_
  · intro z hz
    rcases List.mem_pair.1 hz with rfl | rfl
    · exact hn
    · exact ha.2
  · show a.rows * n * (a.cols * n) = n * a.rows * n * a.cols
    ring
  · simp only [List.prod_cons, List.prod_nil]
    ring

/-- If no side is zero, then each of the factors has at most as many entries as the product, and so
has a column of the product. -/
theorem parts_le_product (ha : 0 < a.rows ∧ 0 < a.cols) (hb : 0 < b.rows ∧ 0 < b.cols) :
    a.rows * a.cols ≤ a.rows * b.rows * a.cols * b.cols ∧
      b.rows * b.cols ≤ a.rows * b.rows * a.cols * b.cols ∧
      b.rows * a.rows ≤ a.rows * b.rows * a.cols * b.cols := by
  -- each is multiplied by numbers that are not zero
  refine ⟨?left, ?right, ?height⟩
  case left =>
    calc a.rows * a.cols ≤ a.rows * a.cols * (b.rows * b.cols) :=
          Nat.le_mul_of_pos_right _ (Nat.mul_pos hb.1 hb.2)
      _ = a.rows * b.rows * a.cols * b.cols := by ring
  case right =>
    calc b.rows * b.cols ≤ b.rows * b.cols * (a.rows * a.cols) :=
          Nat.le_mul_of_pos_right _ (Nat.mul_pos ha.1 ha.2)
      _ = a.rows * b.rows * a.cols * b.cols := by ring
  case height =>
    calc b.rows * a.rows ≤ b.rows * a.rows * (a.cols * b.cols) :=
          Nat.le_mul_of_pos_right _ (Nat.mul_pos ha.2 hb.2)
      _ = a.rows * b.rows * a.cols * b.cols := by ring

end Agreement

/-! ### The length that a kernel computes -/

/-- **Whole operands.** The buffer is as long as the shape says, and no longer than an allocation
can be. -/
structure Operand.Whole {α : Type} (a : Operand α) : Prop where
  le_size : a.rows * a.cols ≤ a.entries.size
  size_le : a.entries.size ≤ Size.allocationLimit

theorem Operand.Whole.lt_limit {α : Type} {a : Operand α} (h : a.Whole) :
    a.rows * a.cols < Size.limit :=
  Size.lt_limit_of_le h.le_size h.size_le

/-- **Ending by a length.** The program computes the length. It stops if that cannot be done, it
stops with the fault `short` in a destination that is shorter, and in any other it ends well. -/
structure EndsByLength {α : Type} (length : Except Fault Nat) (short : Fault)
    (act : Write α Unit) : Prop where
  stops : ∀ f, length = .error f → ∀ dst, act dst = .error f dst
  short : ∀ k, length = .ok k → ∀ dst, dst.size < k → act dst = .error short dst
  ends : ∀ k, length = .ok k → ∀ dst, k ≤ dst.size → dst.size ≤ Size.allocationLimit →
    ∃ dst', act dst = .ok () dst'

section Kernels

open Guarded
open EStateM (bind_of_ok bind_of_error)

variable {α : Type} {a b : Operand α} {n : Nat} {dst : Array α}

/-- A product whose length can be computed is refused by a destination that is shorter. -/
theorem product_of_short [One α] [Mul α] [DecidableEq α] (c : Copier) (hb : b.Whole)
    (hrows : a.rows * b.rows < Size.limit) (hcolumn : a.rows * b.rows * a.cols < Size.limit)
    (htotal : a.rows * b.rows * a.cols * b.cols < Size.limit)
    (h : dst.size < a.rows * b.rows * a.cols * b.cols) :
    product c a b dst = .error .shortProduct dst := by
  rw [product, bind_of_ok (Write.length_apply dst),
    liftM_bind_of_ok (Size.mul_eq_ok_iff.2 ⟨hb.lt_limit, rfl⟩), require_bind_of hb.le_size,
    liftM_bind_of_ok (Size.mul_eq_ok_iff.2 ⟨hrows, rfl⟩),
    liftM_bind_of_ok (Size.mul_eq_ok_iff.2 ⟨hcolumn, rfl⟩),
    liftM_bind_of_ok (Size.mul_eq_ok_iff.2 ⟨htotal, rfl⟩)]
  exact liftM_bind_of_error (require_of_not (Nat.not_le.2 h)) _ dst

/-- A destination that is too short is refused before anything in it is cleared. -/
theorem clearProduct_of_short [Zero α] (hrows : n * a.rows < Size.limit)
    (hcolumn : n * a.rows * n < Size.limit) (htotal : n * a.rows * n * a.cols < Size.limit)
    (h : dst.size < n * a.rows * n * a.cols) :
    clearProduct a n dst = .error .shortIdentityProduct dst := by
  rw [clearProduct, bind_of_ok (Write.length_apply dst),
    liftM_bind_of_ok (Size.mul_eq_ok_iff.2 ⟨hrows, rfl⟩),
    liftM_bind_of_ok (Size.mul_eq_ok_iff.2 ⟨hcolumn, rfl⟩),
    liftM_bind_of_ok (Size.mul_eq_ok_iff.2 ⟨htotal, rfl⟩)]
  exact liftM_bind_of_error (require_of_not (Nat.not_le.2 h)) _ dst

theorem product_endsByLength [One α] [Mul α] [DecidableEq α] (c : Copier) (ha : a.Whole)
    (hb : b.Whole) :
    EndsByLength (productLength a.shape b.shape) .shortProduct (product c a b) where
  stops f hf dst := by
    obtain ⟨hsteps, rfl⟩ := Size.mulUp_eq_error_iff.1 hf
    exact product_of_overflow c hb.lt_limit hb.le_size (exists_mem_productSteps.1 hsteps)
  -- the length is computed before it is compared with that of the destination
  short k hk dst hshort := by
    obtain ⟨hsteps, rfl⟩ := productLength_eq_ok_iff.1 hk
    obtain ⟨hrows, hcolumn, htotal⟩ := forall_mem_productSteps.1 hsteps
    exact product_of_short c hb hrows hcolumn htotal hshort
  ends k hk dst hle _ := by
    obtain ⟨hsteps, rfl⟩ := productLength_eq_ok_iff.1 hk
    obtain ⟨hrows, hcolumn, htotal⟩ := forall_mem_productSteps.1 hsteps
    -- the left factor is looked at only if the product has entries
    have hfit : ProductFits a b dst.size := productFits_iff.2
      ⟨hb.lt_limit, hb.le_size, hrows, hcolumn, htotal, hle, fun _ => ha.le_size⟩
    exact exists_product_eq_ok hfit c

theorem identityFits_of_identityLength {k len : Nat} (ha : a.Whole)
    (hk : identityLength a.shape n = .ok k) (hle : k ≤ len) : IdentityFits a n len := by
  obtain ⟨hsteps, rfl⟩ := identityLength_eq_ok_iff.1 hk
  obtain ⟨hrows, hcolumn, htotal⟩ := forall_mem_identitySteps.1 hsteps
  exact ⟨hrows, hcolumn, htotal, hle, ha.lt_limit, ha.le_size⟩

variable [Zero α]

/-- The common beginning of the products with an identity computes their length, and whatever comes
behind it has to end well for them to end by it. -/
theorem EndsByLength.clearProduct_bind {next : Nat × Nat × Array α → Write α Unit}
    (hends : ∀ k, identityLength a.shape n = .ok k → ∀ dst, k ≤ dst.size →
      dst.size ≤ Size.allocationLimit → ∃ dst', (clearProduct a n >>= next) dst = .ok () dst') :
    EndsByLength (identityLength a.shape n) .shortIdentityProduct (clearProduct a n >>= next) where
  stops f hf dst := by
    obtain ⟨hsteps, rfl⟩ := Size.mulUp_eq_error_iff.1 hf
    exact bind_of_error (clearProduct_of_overflow (exists_mem_identitySteps.1 hsteps)) next
  short k hk dst hshort := by
    obtain ⟨hsteps, rfl⟩ := identityLength_eq_ok_iff.1 hk
    obtain ⟨hrows, hcolumn, htotal⟩ := forall_mem_identitySteps.1 hsteps
    exact bind_of_error (clearProduct_of_short hrows hcolumn htotal hshort) next
  ends := hends

theorem timesIdentity_endsByLength (n : Nat) (ha : a.Whole) :
    EndsByLength (identityLength a.shape n) .shortIdentityProduct (timesIdentity a n) :=
  .clearProduct_bind fun _ hk _ hle hdst =>
    exists_timesIdentity_eq_ok (identityFits_of_identityLength ha hk hle) hdst

theorem identityTimes_endsByLength [One α] [Mul α] [DecidableEq α] (c : Copier) (n : Nat)
    (ha : a.Whole) :
    EndsByLength (identityLength a.shape n) .shortIdentityProduct (identityTimes c a n) :=
  .clearProduct_bind fun _ hk _ hle hdst =>
    exists_identityTimes_eq_ok (identityFits_of_identityLength ha hk hle) hdst c

/-- What the common beginning hands on is the shape that a caller would compute. -/
theorem shape_of_clearProduct_eq_ok {ldb total : Nat} {entries dst' : Array α}
    (ha : 0 < a.rows ∧ 0 < a.cols) (hn : 0 < n)
    (h : clearProduct a n dst = .ok (ldb, total, entries) dst') :
    ∃ s, a.shape.kronIdentity? n = some s ∧ n * a.rows = s.rows ∧ ldb = s.rows ∧
      total = s.rows * s.cols := by
  obtain ⟨hfit, hresult, -⟩ := clearProduct_eq_ok_iff.1 h
  have hagree := identity_sizesAgree (a := a.shape) ha hn
  have hrows : n * a.rows = a.rows * n := Nat.mul_comm n a.rows
  cases hresult
  exact ⟨_, hagree.shape?_eq_some_iff.2 hfit.total_lt, hrows, hrows, hagree.count_eq.symm⟩

variable [One α] [Mul α] [DecidableEq α]

/-- **The computations of a size agree.**

* The product of two shapes is not countable exactly if its rows, its columns or its entries are no
  machine size, in exact numbers.
* For factors with entries, the computations of the shape and of the kernel's length agree. If the
  entries are a machine size, then so are those of the factors, and the kernel's leading dimension.
* The same for a product with an identity that is not empty. Both kernels begin by computing the
  rows and the entries of this shape.
* Of whole operands, with entries or without, the three kernels end by these lengths. -/
theorem size_computations_agree (c : Copier) (a b : Operand α) (n : Nat) :
    (a.shape.kron? b.shape = none ↔
      Size.limit ≤ a.rows * b.rows ∨ Size.limit ≤ a.cols * b.cols ∨
        Size.limit ≤ a.rows * b.rows * (a.cols * b.cols)) ∧
    (0 < a.rows ∧ 0 < a.cols → 0 < b.rows ∧ 0 < b.cols →
      SizesAgree ⟨a.rows * b.rows, a.cols * b.cols⟩ (a.rows * b.rows * a.cols * b.cols)
          (a.shape.kron? b.shape) (a.shape.kron b.shape) (productSteps a.shape b.shape)
          (productLength a.shape b.shape) ∧
        (a.rows * b.rows * a.cols * b.cols < Size.limit →
          Size.mul a.rows a.cols = .ok (a.rows * a.cols) ∧
          Size.mul b.rows b.cols = .ok (b.rows * b.cols) ∧
          Size.mul b.rows a.rows = .ok (a.rows * b.rows))) ∧
    (0 < a.rows ∧ 0 < a.cols → 0 < n →
      SizesAgree ⟨a.rows * n, a.cols * n⟩ (n * a.rows * n * a.cols)
          (a.shape.kronIdentity? n) (a.shape.kronIdentity n) (identitySteps a.shape n)
          (identityLength a.shape n) ∧
        ∀ dst ldb total entries dst',
          clearProduct a n dst = .ok (ldb, total, entries) dst' →
          ∃ s, a.shape.kronIdentity? n = some s ∧ n * a.rows = s.rows ∧ ldb = s.rows ∧
            total = s.rows * s.cols) ∧
    (a.Whole → b.Whole →
      EndsByLength (productLength a.shape b.shape) .shortProduct (product c a b)) ∧
    (a.Whole →
      EndsByLength (identityLength a.shape n) .shortIdentityProduct (timesIdentity a n) ∧
      EndsByLength (identityLength a.shape n) .shortIdentityProduct (identityTimes c a n)) := by
  refine ⟨Shape.kron?_eq_none_iff, fun ha hb => ?factors, fun ha hn => ?identity,
    product_endsByLength c,
    fun ha => ⟨timesIdentity_endsByLength n ha, identityTimes_endsByLength c n ha⟩⟩
  -- the parts are bounded by the whole, and the whole is a size
  case factors =>
    refine ⟨product_sizesAgree (a := a.shape) (b := b.shape) ha hb, fun hlt => ?_⟩
    obtain ⟨hleft, hright, hheight⟩ := parts_le_product (a := a.shape) (b := b.shape) ha hb
    refine ⟨Size.mul_eq_ok_iff.2 ⟨?_, rfl⟩, Size.mul_eq_ok_iff.2 ⟨?_, rfl⟩,
      Size.mul_eq_ok_iff.2 ⟨?_, Nat.mul_comm _ _⟩⟩
    · exact Nat.lt_of_le_of_lt hleft hlt
    · exact Nat.lt_of_le_of_lt hright hlt
    · exact Nat.lt_of_le_of_lt hheight hlt
  case identity =>
    refine ⟨identity_sizesAgree (a := a.shape) ha hn, fun dst ldb total entries dst' hclear => ?_⟩
    exact shape_of_clearProduct_eq_ok ha hn hclear

/-- Sides whose product is the largest machine size, sides whose product is the next number, and a
destination that is short of a product by one element. -/
theorem size_computations_agree_largest :
    Shape.kron? ⟨3, 5⟩ ⟨17, 72340172838076673⟩ = some ⟨51, 361700864190383365⟩ ∧
      productLength ⟨3, 5⟩ ⟨17, 72340172838076673⟩ = .ok 0xFFFFFFFFFFFFFFFF ∧
      (¬ ∃ k, identityLength ⟨65536, 65536⟩ 65536 = .ok k) ∧
      timesIdentity (⟨#[1, 2], 2, 1⟩ : Operand Nat) 2 (Array.replicate 7 9) =
        .error .shortIdentityProduct (Array.replicate 7 9) := by
  obtain ⟨-, hfactors, -⟩ := size_computations_agree .portable (⟨#[], 3, 5⟩ : Operand Nat)
    ⟨#[], 17, 72340172838076673⟩ 0
  obtain ⟨-, -, hidentity, -⟩ := size_computations_agree .portable
    (⟨#[], 65536, 65536⟩ : Operand Nat) ⟨#[], 0, 0⟩ 65536
  obtain ⟨-, -, -, -, hkernels⟩ := size_computations_agree .portable
    (⟨#[1, 2], 2, 1⟩ : Operand Nat) ⟨#[], 0, 0⟩ 2
  obtain ⟨hlargest, -⟩ := hfactors (by decide) (by decide)
  obtain ⟨hnext, -⟩ := hidentity (by decide) (by decide)
  obtain ⟨hright, -⟩ := hkernels ⟨by decide, by decide⟩
  obtain ⟨k, hk⟩ := hlargest.length_iff.2 (by decide)
  rw [hlargest.length_eq k hk] at hk
  exact ⟨hlargest.shape?_eq_some_iff.2 (by decide), hk, mt hnext.length_iff.1 (by decide),
    hright.short 8 rfl _ (by decide)⟩

end Kernels

end DenseKron
