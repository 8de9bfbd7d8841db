import DenseKron.Proofs.IdentityBlocks
import DenseKron.Proofs.ProductBlocks

/-!
# When a kernel stops

A kernel computes with machine sizes throughout: it adds to its cursor, multiplies strides, cuts
windows out of its buffers and asks a copier that checks once more. Each of these can fault, and a
fault behind the first store would leave a destination half written. None does. What a kernel checks
before its first store is all that can fail (`ProductFits`, `IdentityFits`), so that a kernel either
stops in the buffer that it found or runs to its end.

Both halves are needed. A run that passes the checks ends well: for the product this is
`product_writes`, and for the products with an identity it takes one more observation, since their
strides are sums that no check has seen. A stride is at most the length of the destination, or twice
that, and a buffer is never longer than an allocation (`IdentityFits.diagonal_stride_lt`,
`IdentityFits.block_stride_lt`). And a run that fails a check has not written anything, since
the checks only read (`Guarded.StopsUntouched`).
-/

namespace DenseKron

/-! ### Faults before the first change -/

namespace Guarded

variable {σ β γ : Type}

/-- **Stopping untouched.** A fault that the program meets finds the state it started from. -/
def StopsUntouched (act : Guarded σ β) (s : σ) : Prop :=
  ∀ f t, act s = .error f t → t = s

variable {act : Guarded σ β} {s : σ}

theorem StopsUntouched.of_eq_ok {x : β} {t : σ} (h : act s = .ok x t) : StopsUntouched act s := by
  intro f u hf
  rw [h] at hf
  cases hf

theorem StopsUntouched.bind_of_eq_ok {x : β} (h : act s = .ok x s) {next : β → Guarded σ γ}
    (hnext : StopsUntouched (next x) s) : StopsUntouched (act >>= next) s := by
  intro f t hf
  rw [EStateM.bind_of_ok h] at hf
  exact hnext f t hf

/-- A check does not change anything, and neither does what stops untouched behind it. -/
theorem StopsUntouched.liftM_bind {e : Except Fault β} {next : β → Guarded σ γ}
    (h : ∀ x, e = .ok x → StopsUntouched (next x) s) :
    StopsUntouched ((liftM e : Guarded σ β) >>= next) s := by
  intro f t hf
  cases e with
  | ok x =>
    rw [liftM_bind_of_ok rfl] at hf
    exact h x rfl f t hf
  | error fault =>
    rw [liftM_bind_of_error rfl] at hf
    cases hf
    rfl

/-- A program that cannot end well meets a fault. -/
theorem exists_eq_error_iff (act : Guarded σ Unit) (s : σ) :
    (∃ f t, act s = .error f t) ↔ ¬ ∃ t, act s = .ok () t := by
  cases act s with
  | ok x t => simp
  | error f t => simp

end Guarded

open Guarded
open EStateM (bind_of_ok bind_of_error)

variable {α : Type} {a b : Operand α} {n : Nat} {dst : Array α}

/-! ### The product -/

section Product

/-- The conditions of a product in exact numbers. The packed left factor needs no check of its own:
where the product has entries, it has at least as many as the left factor. -/
theorem productFits_iff {len : Nat} :
    ProductFits a b len ↔
      b.rows * b.cols < Size.limit ∧ b.rows * b.cols ≤ b.entries.size ∧
      a.rows * b.rows < Size.limit ∧ a.rows * b.rows * a.cols < Size.limit ∧
      a.rows * b.rows * a.cols * b.cols < Size.limit ∧
      a.rows * b.rows * a.cols * b.cols ≤ len ∧
      (0 < a.rows ∧ 0 < a.cols ∧ 0 < b.rows ∧ 0 < b.cols → a.rows * a.cols ≤ a.entries.size) := by
  constructor
  · intro h
    refine ⟨h.right_lt, h.right_le, h.rows_lt, h.column_lt, h.total_lt, h.total_le, fun hpos => ?_⟩
    exact (h.left.resolve_left (not_productEmpty_iff.2 hpos)).2
  · rintro ⟨hrightLt, hrightLe, hrowsLt, hcolumnLt, htotalLt, htotalLe, hleft⟩
    refine ⟨hrightLt, hrightLe, hrowsLt, hcolumnLt, htotalLt, htotalLe, ?_⟩
    by_cases hempty : ProductEmpty a b
    · exact Or.inl hempty
    -- with entries in both factors the left one is no larger than the product
    · have hpos := not_productEmpty_iff.1 hempty
      refine Or.inr ⟨?_, hleft hpos⟩
      calc a.rows * a.cols ≤ a.rows * a.cols * (b.rows * b.cols) :=
            Nat.le_mul_of_pos_right _ (Nat.mul_pos hpos.2.2.1 hpos.2.2.2)
        _ = a.rows * b.rows * a.cols * b.cols := by ring
        _ < Size.limit := htotalLt

/-- A product with entries fits, if the number of its entries is a size: the other sizes are parts
of that number. -/
theorem productFits_of_pos {len : Nat} (ha : 0 < a.rows ∧ 0 < a.cols) (hb : 0 < b.rows ∧ 0 < b.cols)
    (haLength : a.rows * a.cols ≤ a.entries.size) (hbLength : b.rows * b.cols ≤ b.entries.size)
    (hlt : a.rows * b.rows * a.cols * b.cols < Size.limit)
    (hle : a.rows * b.rows * a.cols * b.cols ≤ len) :
    ProductFits a b len ∧ ¬ ProductEmpty a b := by
  obtain ⟨har, hac⟩ := ha
  obtain ⟨hbr, hbc⟩ := hb
  -- a part of the product is no larger than the product
  have hcolumn : a.rows * b.rows * a.cols ≤ a.rows * b.rows * a.cols * b.cols :=
    Nat.le_mul_of_pos_right _ hbc
  have hrows : a.rows * b.rows ≤ a.rows * b.rows * a.cols := Nat.le_mul_of_pos_right _ hac
  have hright : b.rows * b.cols ≤ a.rows * b.rows * a.cols * b.cols := by
    calc b.rows * b.cols ≤ a.rows * a.cols * (b.rows * b.cols) :=
          Nat.le_mul_of_pos_left _ (Nat.mul_pos har hac)
      _ = a.rows * b.rows * a.cols * b.cols := by ring
  refine ⟨productFits_iff.2
    ⟨by omega, hbLength, by omega, by omega, hlt, hle, fun _ => haLength⟩,
    not_productEmpty_iff.2 ⟨har, hac, hbr, hbc⟩⟩

variable [One α] [Mul α] [DecidableEq α]

/-- A product that fits is written, whether or not it has entries. -/
theorem exists_product_eq_ok (h : ProductFits a b dst.size) (c : Copier) :
    ∃ dst', product c a b dst = .ok () dst' := by
  -- an empty product has passed the checks and is done
  by_cases hempty : ProductEmpty a b
  · exact ⟨dst, product_of_empty h hempty c⟩
  -- with entries the kernel runs over what the operands hold
  · obtain ⟨x, hx⟩ := a.exists_holds_entries (1 : α) (h.left.resolve_left hempty).2
    obtain ⟨y, hy⟩ := b.exists_holds_entries (1 : α) h.right_le
    exact ⟨_, product_writes h hempty hx hy c dst rfl⟩

/-- The length of a product is multiplied up from left to right, and the first step that does not
fit a machine word stops the kernel. -/
theorem product_of_overflow (c : Copier) (hlt : b.rows * b.cols < Size.limit)
    (hle : b.rows * b.cols ≤ b.entries.size)
    (h : Size.limit ≤ a.rows * b.rows ∨ Size.limit ≤ a.rows * b.rows * a.cols ∨
      Size.limit ≤ a.rows * b.rows * a.cols * b.cols) :
    product c a b dst = .error .mulOverflow dst := by
  rw [product, bind_of_ok (Write.length_apply dst),
    liftM_bind_of_ok (Size.mul_eq_ok_iff.2 ⟨hlt, rfl⟩), require_bind_of hle]
  -- the first of the three products that is no size stops it
  by_cases hrows : Size.limit ≤ a.rows * b.rows
  · rw [liftM_bind_of_error (Size.mul_of_limit_le hrows)]
  · rw [liftM_bind_of_ok (Size.mul_eq_ok_iff.2 ⟨Nat.not_le.1 hrows, rfl⟩)]
    by_cases hcolumn : Size.limit ≤ a.rows * b.rows * a.cols
    · rw [liftM_bind_of_error (Size.mul_of_limit_le hcolumn)]
    · have htotal := (h.resolve_left hrows).resolve_left hcolumn
      rw [liftM_bind_of_ok (Size.mul_eq_ok_iff.2 ⟨Nat.not_le.1 hcolumn, rfl⟩),
        liftM_bind_of_error (Size.mul_of_limit_le htotal)]

theorem exists_product_eq_ok_iff {c : Copier} :
    (∃ dst', product c a b dst = .ok () dst') ↔ ProductFits a b dst.size :=
  ⟨fun ⟨_, h⟩ => productFits_of_product_eq_ok h, fun h => exists_product_eq_ok h c⟩

/-- **A product stops untouched.** -/
theorem product_stopsUntouched (c : Copier) : StopsUntouched (product c a b) dst := by
  by_cases hfit : ProductFits a b dst.size
  · obtain ⟨dst', h⟩ := exists_product_eq_ok hfit c
    exact .of_eq_ok h
  · -- one of the checks fails; a run past all of them would fit
    unfold product
    refine .bind_of_eq_ok (Write.length_apply dst) ?_
    refine .liftM_bind fun rightLength hright => .liftM_bind fun _ hrightLe => ?_
    refine .liftM_bind fun height hrows => .liftM_bind fun column hcolumn => ?_
    refine .liftM_bind fun total htotal => .liftM_bind fun _ htotalLe => ?_
    obtain ⟨hrightLt, rfl⟩ := Size.mul_eq_ok_iff.1 hright
    obtain ⟨hrowsLt, rfl⟩ := Size.mul_eq_ok_iff.1 hrows
    obtain ⟨hcolumnLt, rfl⟩ := Size.mul_eq_ok_iff.1 hcolumn
    obtain ⟨htotalLt, rfl⟩ := Size.mul_eq_ok_iff.1 htotal
    have hfits := fun hleft => hfit ⟨hrightLt, require_eq_ok_iff.1 hrightLe, hrowsLt, hcolumnLt,
      htotalLt, require_eq_ok_iff.1 htotalLe, hleft⟩
    split
    · exact .of_eq_ok rfl
    · refine .liftM_bind fun _ _ => .liftM_bind fun _ hpacked => ?_
      obtain ⟨hpackedLt, hpackedLe, -⟩ := Operand.packed_eq_ok_iff.1 hpacked
      exact absurd (Or.inr ⟨hpackedLt, hpackedLe⟩) hfits

end Product

/-! ### Products with an identity -/

section Identity

theorem IdentityFits.rows_mul_le {len : Nat} (h : IdentityFits a n len)
    (hne : n * a.rows * n * a.cols ≠ 0) : n * a.rows ≤ len := by
  obtain ⟨hn, -, hcols⟩ := pos_of_total_ne_zero hne
  calc n * a.rows ≤ n * a.rows * n := Nat.le_mul_of_pos_right _ hn
    _ ≤ n * a.rows * n * a.cols := Nat.le_mul_of_pos_right _ hcols
    _ ≤ len := h.total_le

theorem identityFits_of_pos {len : Nat} (ha : 0 < a.rows ∧ 0 < a.cols) (hn : 0 < n)
    (haLength : a.rows * a.cols ≤ a.entries.size) (hlt : n * a.rows * n * a.cols < Size.limit)
    (hle : n * a.rows * n * a.cols ≤ len) :
    IdentityFits a n len ∧ n * a.rows * n * a.cols ≠ 0 := by
  obtain ⟨har, hac⟩ := ha
  have hcolumn : n * a.rows * n ≤ n * a.rows * n * a.cols := Nat.le_mul_of_pos_right _ hac
  have hrows : n * a.rows ≤ n * a.rows * n := Nat.le_mul_of_pos_right _ hn
  have hpacked : a.rows * a.cols ≤ n * a.rows * n * a.cols := by
    calc a.rows * a.cols ≤ n * n * (a.rows * a.cols) :=
          Nat.le_mul_of_pos_left _ (Nat.mul_pos hn hn)
      _ = n * a.rows * n * a.cols := by ring
  exact ⟨⟨by omega, by omega, hlt, hle, by omega, haLength⟩, by positivity⟩

/-- The stride along a diagonal is one more than a length. -/
theorem IdentityFits.diagonal_stride_lt {len : Nat} (h : IdentityFits a n len)
    (hlen : len ≤ Size.allocationLimit) (hrows : 0 < a.rows) (hcols : 0 < a.cols) :
    n * a.rows + 1 < Size.limit := by
  -- an identity of order zero has the stride one
  rcases Nat.eq_zero_or_pos n with rfl | hn
  · rw [Nat.zero_mul]
    decide
  · have hle := h.rows_mul_le (by positivity)
    unfold Size.allocationLimit at hlen
    unfold Size.limit
    omega

/-- The stride from block to block is a length and a part of a length. -/
theorem IdentityFits.block_stride_lt {len : Nat} (h : IdentityFits a n len)
    (hlen : len ≤ Size.allocationLimit) (hne : n * a.rows * n * a.cols ≠ 0) :
    n * a.rows * a.cols + a.rows < Size.limit := by
  obtain ⟨hn, -, -⟩ := pos_of_total_ne_zero hne
  -- a row of blocks and a column of the operand, each no longer than the destination
  have hcolumns : n * a.rows * a.cols ≤ len := by
    calc n * a.rows * a.cols ≤ n * (n * a.rows * a.cols) := Nat.le_mul_of_pos_left _ hn
      _ = n * a.rows * n * a.cols := by ring
      _ ≤ len := h.total_le
  have hrows : a.rows ≤ n * a.rows := Nat.le_mul_of_pos_left _ hn
  have hle := h.rows_mul_le hne
  unfold Size.allocationLimit at hlen
  unfold Size.limit
  omega

variable [Zero α]

/-- The length of a product with an identity is multiplied up from left to right as well. -/
theorem clearProduct_of_overflow
    (h : Size.limit ≤ n * a.rows ∨ Size.limit ≤ n * a.rows * n ∨
      Size.limit ≤ n * a.rows * n * a.cols) :
    clearProduct a n dst = .error .mulOverflow dst := by
  rw [clearProduct, bind_of_ok (Write.length_apply dst)]
  -- as for the product, step by step
  by_cases hrows : Size.limit ≤ n * a.rows
  · rw [liftM_bind_of_error (Size.mul_of_limit_le hrows)]
  · rw [liftM_bind_of_ok (Size.mul_eq_ok_iff.2 ⟨Nat.not_le.1 hrows, rfl⟩)]
    by_cases hcolumn : Size.limit ≤ n * a.rows * n
    · rw [liftM_bind_of_error (Size.mul_of_limit_le hcolumn)]
    · have htotal := (h.resolve_left hrows).resolve_left hcolumn
      rw [liftM_bind_of_ok (Size.mul_eq_ok_iff.2 ⟨Nat.not_le.1 hcolumn, rfl⟩),
        liftM_bind_of_error (Size.mul_of_limit_le htotal)]

/-- The common beginning clears the product only when nothing can stop it any more. -/
theorem clearProduct_stopsUntouched : StopsUntouched (clearProduct a n) dst := by
  unfold clearProduct
  refine .bind_of_eq_ok (Write.length_apply dst) ?_
  refine .liftM_bind fun _ _ => .liftM_bind fun _ _ => .liftM_bind fun total _ => ?_
  refine .liftM_bind fun _ hle => .liftM_bind fun entries _ => ?_
  -- once the length has been checked, clearing cannot stop
  have hfill := Writes.fill (require_eq_ok_iff.1 hle) (0 : α) dst rfl
  exact .of_eq_ok (bind_of_ok hfill _)

/-- A product with an identity stops untouched if it runs to its end whenever it fits. -/
theorem StopsUntouched.clearProduct_bind {next : Nat × Nat × Array α → Write α Unit}
    (h : IdentityFits a n dst.size → ∃ dst', (clearProduct a n >>= next) dst = .ok () dst') :
    StopsUntouched (clearProduct a n >>= next) dst := by
  -- the beginning stops before it clears anything, and behind it the product is known to fit
  cases hclear : clearProduct a n dst with
  | ok result dst' =>
    obtain ⟨_, hok⟩ := h (clearProduct_eq_ok_iff.1 hclear).1
    exact .of_eq_ok hok
  | error fault dst' =>
    intro f t hf
    rw [bind_of_error hclear] at hf
    cases hf
    exact clearProduct_stopsUntouched _ _ hclear

theorem exists_timesIdentity_eq_ok (h : IdentityFits a n dst.size)
    (hdst : dst.size ≤ Size.allocationLimit) : ∃ dst', timesIdentity a n dst = .ok () dst' := by
  obtain ⟨x, hx⟩ := a.exists_holds_entries (0 : α) h.packed_le
  exact ⟨_, timesIdentity_writes h (h.diagonal_stride_lt hdst) hx dst rfl⟩

theorem exists_timesIdentity_eq_ok_iff (hdst : dst.size ≤ Size.allocationLimit) :
    (∃ dst', timesIdentity a n dst = .ok () dst') ↔ IdentityFits a n dst.size :=
  ⟨fun ⟨_, h⟩ => identityFits_of_timesIdentity_eq_ok h, fun h => exists_timesIdentity_eq_ok h hdst⟩

theorem timesIdentity_stopsUntouched (hdst : dst.size ≤ Size.allocationLimit) :
    StopsUntouched (timesIdentity a n) dst :=
  StopsUntouched.clearProduct_bind fun h => exists_timesIdentity_eq_ok h hdst

variable [One α] [Mul α] [DecidableEq α]

theorem exists_identityTimes_eq_ok (h : IdentityFits a n dst.size)
    (hdst : dst.size ≤ Size.allocationLimit) (c : Copier) :
    ∃ dst', identityTimes c a n dst = .ok () dst' := by
  obtain ⟨x, hx⟩ := a.exists_holds_entries (0 : α) h.packed_le
  exact ⟨_, identityTimes_writes c h (h.block_stride_lt hdst) hx dst rfl⟩

theorem exists_identityTimes_eq_ok_iff (hdst : dst.size ≤ Size.allocationLimit) {c : Copier} :
    (∃ dst', identityTimes c a n dst = .ok () dst') ↔ IdentityFits a n dst.size :=
  ⟨fun ⟨_, h⟩ => identityFits_of_identityTimes_eq_ok h,
    fun h => exists_identityTimes_eq_ok h hdst c⟩

theorem identityTimes_stopsUntouched (hdst : dst.size ≤ Size.allocationLimit) (c : Copier) :
    StopsUntouched (identityTimes c a n) dst :=
  StopsUntouched.clearProduct_bind fun h => exists_identityTimes_eq_ok h hdst c

end Identity

/-! ### The three kernels -/

section Kernels

theorem not_productFits_iff {len : Nat} :
    ¬ ProductFits a b len ↔
      Size.limit ≤ b.rows * b.cols ∨ b.entries.size < b.rows * b.cols ∨
      Size.limit ≤ a.rows * b.rows ∨ Size.limit ≤ a.rows * b.rows * a.cols ∨
      Size.limit ≤ a.rows * b.rows * a.cols * b.cols ∨
      len < a.rows * b.rows * a.cols * b.cols ∨
      (0 < a.rows ∧ 0 < a.cols ∧ 0 < b.rows ∧ 0 < b.cols) ∧ a.entries.size < a.rows * a.cols := by
  rw [productFits_iff]
  omega

theorem not_identityFits_iff {len : Nat} :
    ¬ IdentityFits a n len ↔
      Size.limit ≤ n * a.rows ∨ Size.limit ≤ n * a.rows * n ∨
      Size.limit ≤ n * a.rows * n * a.cols ∨ len < n * a.rows * n * a.cols ∨
      Size.limit ≤ a.rows * a.cols ∨ a.entries.size < a.rows * a.cols := by
  have hiff : IdentityFits a n len ↔ n * a.rows < Size.limit ∧ n * a.rows * n < Size.limit ∧
      n * a.rows * n * a.cols < Size.limit ∧ n * a.rows * n * a.cols ≤ len ∧
      a.rows * a.cols < Size.limit ∧ a.rows * a.cols ≤ a.entries.size :=
    ⟨fun h => ⟨h.rows_lt, h.column_lt, h.total_lt, h.total_le, h.packed_lt, h.packed_le⟩,
      fun ⟨h₁, h₂, h₃, h₄, h₅, h₆⟩ => ⟨h₁, h₂, h₃, h₄, h₅, h₆⟩⟩
  rw [hiff]
  omega

variable [Zero α] [One α] [Mul α] [DecidableEq α]

/-- **When the kernels stop.** Each of the three stops exactly if one of its lengths is no machine
size, its destination is shorter than the product, or an operand is shorter than its shape says; the
left factor of a product without entries is not looked at. It then stops in the buffer that it
found. In any other call it runs to its end, by whatever copier: nothing that is computed, cut or
checked on the way can fail. -/
theorem kernels_fault_iff (c : Copier) (a b : Operand α) (n : Nat)
    (hdst : dst.size ≤ Size.allocationLimit) :
    ((∃ f dst', product c a b dst = .error f dst') ↔
      Size.limit ≤ b.rows * b.cols ∨ b.entries.size < b.rows * b.cols ∨
      Size.limit ≤ a.rows * b.rows ∨ Size.limit ≤ a.rows * b.rows * a.cols ∨
      Size.limit ≤ a.rows * b.rows * a.cols * b.cols ∨
      dst.size < a.rows * b.rows * a.cols * b.cols ∨
      (0 < a.rows ∧ 0 < a.cols ∧ 0 < b.rows ∧ 0 < b.cols) ∧
        a.entries.size < a.rows * a.cols) ∧
    ((∃ f dst', timesIdentity a n dst = .error f dst') ↔
      Size.limit ≤ n * a.rows ∨ Size.limit ≤ n * a.rows * n ∨
      Size.limit ≤ n * a.rows * n * a.cols ∨ dst.size < n * a.rows * n * a.cols ∨
      Size.limit ≤ a.rows * a.cols ∨ a.entries.size < a.rows * a.cols) ∧
    ((∃ f dst', identityTimes c a n dst = .error f dst') ↔
      Size.limit ≤ n * a.rows ∨ Size.limit ≤ n * a.rows * n ∨
      Size.limit ≤ n * a.rows * n * a.cols ∨ dst.size < n * a.rows * n * a.cols ∨
      Size.limit ≤ a.rows * a.cols ∨ a.entries.size < a.rows * a.cols) ∧
    (∀ f dst', product c a b dst = .error f dst' → dst' = dst) ∧
    (∀ f dst', timesIdentity a n dst = .error f dst' → dst' = dst) ∧
    (∀ f dst', identityTimes c a n dst = .error f dst' → dst' = dst) := by
  refine ⟨?_, ?_, ?_, product_stopsUntouched c, timesIdentity_stopsUntouched hdst,
    identityTimes_stopsUntouched hdst c⟩
  -- a kernel that does not end well has met a fault
  · rw [exists_eq_error_iff, exists_product_eq_ok_iff, not_productFits_iff]
  · rw [exists_eq_error_iff, exists_timesIdentity_eq_ok_iff hdst, not_identityFits_iff]
  · rw [exists_eq_error_iff, exists_identityTimes_eq_ok_iff hdst, not_identityFits_iff]

/-- An operand with an element missing stops each of the kernels before the first store. -/
theorem kernels_fault_iff_short_operand :
    (Array.replicate 16 9).size ≤ Size.allocationLimit ∧
      (∃ f, product (.parallel 0) (⟨#[1, 2, 3], 2, 2⟩ : Operand Nat) ⟨#[1], 1, 1⟩
        (Array.replicate 16 9) = .error f (Array.replicate 16 9)) ∧
      (∃ f, timesIdentity (⟨#[1, 2, 3], 2, 2⟩ : Operand Nat) 2 (Array.replicate 16 9) =
        .error f (Array.replicate 16 9)) ∧
      ∃ f, identityTimes (.parallel 0) (⟨#[1, 2, 3], 2, 2⟩ : Operand Nat) 2
        (Array.replicate 16 9) = .error f (Array.replicate 16 9) := by
  have hdst : (Array.replicate 16 9).size ≤ Size.allocationLimit := by decide
  obtain ⟨hproduct, hright, hleft, hproduct', hright', hleft'⟩ :=
    kernels_fault_iff (.parallel 0) (⟨#[1, 2, 3], 2, 2⟩ : Operand Nat) ⟨#[1], 1, 1⟩ 2 hdst
  obtain ⟨f, _, hf⟩ := hproduct.2 (by decide)
  obtain ⟨g, _, hg⟩ := hright.2 (by decide)
  obtain ⟨k, _, hk⟩ := hleft.2 (by decide)
  refine ⟨hdst, ⟨f, ?_⟩, ⟨g, ?_⟩, ⟨k, ?_⟩⟩
  · rw [hf, hproduct' f _ hf]
  · rw [hg, hright' g _ hg]
  · rw [hk, hleft' k _ hk]

end Kernels

end DenseKron
