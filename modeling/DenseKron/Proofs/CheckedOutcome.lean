import DenseKron.Proofs.KernelFaults
import DenseKron.Proofs.Screen
import DenseKron.Proofs.Written

/-!
# How a checked product ends

A checked product is a screen with a kernel behind it, and so there are three ways for it to end:

* the screen refuses it. The first ground that holds is the reason, whatever else is the case;
  nothing has been written, and one event says the same as the refusal;
* the kernel runs to its end. The destination holds the product, and nothing has been reported;
* the kernel stops.

`checked_products_decided` is about the first two, which are all for a call that returns. That every
call returns is not true. The screen counts the entries of a product as rows times columns, and the
kernel multiplies its way up to the same number in another order, by way of the rows times a part of
the columns. This is at most the number of entries unless there are none. So a product without
columns can pass the screen and make its kernel stop; nothing else can
(`checked_products_fault_iff`).
-/

namespace DenseKron

open Ground

namespace Checked

open Observing
open EStateM (bind_of_error)

variable {α : Type} {grounds : List Ground} {s : Observed CheckEvent (Array α)}
  {kernel : Write α Unit}

/-! ### Refusals and results -/

/-- **Decided by grounds.** If one of the grounds holds, the first that does is why the request is
refused: the buffer is as it was, and one event has been added, the one that announces the refusal.
If none holds, a run that is not stopped by a fault ends well, with the buffer written as it should
be and no event. -/
structure DecidedBy (grounds : List Ground) (written : Array α → Array α → Prop)
    (act : Checked α Unit) (s : Observed CheckEvent (Array α)) : Prop where
  refused : ∀ g, first grounds = some g →
    act s = .error (.refused g.event.error) ⟨s.state, s.events ++ [g.event]⟩ ∧
      g.event.entry.level = .debug
  accepted : first grounds = none → (∀ f t, act s ≠ .error (.fault f) t) →
    ∃ dst', act s = .ok () ⟨dst', s.events⟩ ∧ written s.state dst'

theorem DecidedBy.of_eq_screen {written : Array α → Array α → Prop} {act : Checked α Unit}
    (hact : act s = (screen grounds >>= fun _ => guarded kernel) s)
    (hkernel : first grounds = none → ∀ dst', kernel s.state = .ok () dst' →
      written s.state dst') : DecidedBy grounds written act s where
  refused g hg := by
    rw [hact, bind_of_error (screen_of_first_eq_some hg s)]
    exact ⟨rfl, g.event.level_entry⟩
  accepted hnone hreturns := by
    cases hrun : kernel s.state with
    | ok _ dst' =>
      refine ⟨dst', ?_, hkernel hnone dst' hrun⟩
      rw [hact, screen_bind_guarded_of_ok hnone hrun]
    -- the only fault that there can be is that of the kernel, and the run has none
    | error f dst' =>
      refine absurd ?_ (hreturns f ⟨dst', s.events⟩)
      rw [hact]
      exact screen_bind_guarded_eq_fault_iff.2 ⟨hnone, dst', hrun, rfl⟩

end Checked

open Checked

section Decisions

variable {α : Type} [Zero α] [One α] [Mul α] [DecidableEq α]

/-- **How the checked products are decided.** Each by its own grounds, in the order in which they
stand there, and with the product of its kernel as the result. -/
theorem checked_products_decided (c : Copier) (a b : Operand α) (n : Nat)
    (s : Observed CheckEvent (Array α)) :
    DecidedBy (Ground.product a b s.state.size) (ProductWritten a b) (Checked.product c a b) s ∧
    DecidedBy (identityProduct a n s.state.size) (TimesIdentityWritten a n)
      (Checked.timesIdentity a n) s ∧
    DecidedBy (identityProduct a n s.state.size) (IdentityTimesWritten a n)
      (Checked.identityTimes c a n) s := by
  refine ⟨.of_eq_screen (product_eq_screen c a b s) fun hnone dst' h => ?_,
    .of_eq_screen (timesIdentity_eq_screen a n s) fun _ dst' h => timesIdentityWritten_of_eq_ok h,
    .of_eq_screen (identityTimes_eq_screen c a n s) fun _ dst' h =>
      identityTimesWritten_of_eq_ok h⟩
  -- the kernel may leave the left factor unread, but the screen has checked its length
  obtain ⟨⟨-, hleft⟩, -⟩ := first_product_eq_none_iff.1 hnone
  exact productWritten_of_eq_ok h hleft

/-- An operand and a destination that are both too short, and a product that is written. -/
theorem checked_products_decided_short_operand :
    Checked.timesIdentity (⟨#[1, 2, 3], 2, 2⟩ : Operand Nat) 2 ⟨#[5], []⟩ =
        .error (.refused (.buffer "a" 4 3)) ⟨#[5], [.undersized "a" 4 3]⟩ ∧
      ∃ dst', Checked.product (.parallel 0) (⟨#[3], 1, 1⟩ : Operand Nat) ⟨#[1, 2], 2, 1⟩
          ⟨#[0, 0, 9], []⟩ = .ok () ⟨dst', []⟩ ∧
        ProductWritten (⟨#[3], 1, 1⟩ : Operand Nat) ⟨#[1, 2], 2, 1⟩ #[0, 0, 9] dst' := by
  obtain ⟨-, hright, -⟩ := checked_products_decided .portable (⟨#[1, 2, 3], 2, 2⟩ : Operand Nat)
    ⟨#[], 0, 0⟩ 2 ⟨#[5], []⟩
  obtain ⟨hproduct, -, -⟩ := checked_products_decided (.parallel 0) (⟨#[3], 1, 1⟩ : Operand Nat)
    ⟨#[1, 2], 2, 1⟩ 0 ⟨#[0, 0, 9], []⟩
  refine ⟨(hright.refused (undersized "a" 4 3) (by decide)).1, hproduct.accepted (by decide) ?_⟩
  intro f t h
  have hrun : Checked.product (.parallel 0) (⟨#[3], 1, 1⟩ : Operand Nat) ⟨#[1, 2], 2, 1⟩
      ⟨#[0, 0, 9], []⟩ = .ok () ⟨#[3, 6, 9], []⟩ := by decide +kernel
  rw [hrun] at h
  cases h

end Decisions

/-! ### Faults behind the screen -/

section Faults

variable {α : Type} {a b : Operand α} {n length : Nat} {dst : Array α}

/-- A factor of a number that fits a machine word fits as well, if the number is not zero. -/
theorem lt_limit_of_mul_lt_limit {x y : Nat} (h : x * y < Size.limit)
    (hx : ¬ (y = 0 ∧ Size.limit ≤ x)) : x < Size.limit := by
  by_contra hlimit
  have hy : y ≠ 0 := fun hy => hx ⟨hy, Nat.not_lt.1 hlimit⟩
  refine hlimit ?_
  calc x ≤ x * y := Nat.le_mul_of_pos_right _ (Nat.pos_of_ne_zero hy)
    _ < Size.limit := h

theorem productFits_of_first_eq_none (h : first (Ground.product a b length) = none)
    (hcolumn : ¬ (b.cols = 0 ∧ Size.limit ≤ a.rows * b.rows * a.cols)) :
    ProductFits a b length := by
  obtain ⟨ha, hb, hrows, -, hlt, hle⟩ := first_product_eq_none_iff.1 h
  -- from the order in which the screen counts the entries to that of the kernel
  rw [← ProductFits.total_eq] at hlt hle
  exact ⟨hb.1, hb.2, hrows, lt_limit_of_mul_lt_limit hlt hcolumn, hlt, hle, Or.inr ha⟩

theorem identityFits_of_first_eq_none (h : first (identityProduct a n length) = none)
    (hcolumn : ¬ (a.cols = 0 ∧ Size.limit ≤ n * a.rows * n)) : IdentityFits a n length := by
  obtain ⟨ha, hrows, -, hlt, hle⟩ := first_identityProduct_eq_none_iff.1 h
  have htotal : a.rows * n * (a.cols * n) = n * a.rows * n * a.cols := by ring
  rw [htotal] at hlt hle
  rw [Nat.mul_comm] at hrows
  exact ⟨hrows, lt_limit_of_mul_lt_limit hlt hcolumn, hlt, hle, ha.1, ha.2⟩

/-- What the kernel checks before it multiplies up its length, the screen has checked. -/
theorem product_of_limit_le [One α] [Mul α] [DecidableEq α] (c : Copier)
    (h : first (Ground.product a b length) = none)
    (hcolumn : Size.limit ≤ a.rows * b.rows * a.cols) :
    DenseKron.product c a b dst = .error .mulOverflow dst := by
  obtain ⟨-, ⟨hbLt, hbLe⟩, -⟩ := first_product_eq_none_iff.1 h
  exact product_of_overflow c hbLt hbLe (Or.inr (Or.inl hcolumn))

variable [Zero α] [One α] [Mul α] [DecidableEq α]

/-- **When a checked product stops.** It passes its screen, but has no columns, and the number that
its kernel computes before the number of columns comes in does not fit a machine word. The buffer is
as it was, and nothing has been reported. In every other call it returns, with a result or a
refusal. -/
theorem checked_products_fault_iff (c : Copier) (a b : Operand α) (n : Nat) (f : Fault)
    (s t : Observed CheckEvent (Array α)) (hdst : s.state.size ≤ Size.allocationLimit) :
    (Checked.product c a b s = .error (.fault f) t ↔
      first (Ground.product a b s.state.size) = none ∧
        (b.cols = 0 ∧ Size.limit ≤ a.rows * b.rows * a.cols) ∧ f = .mulOverflow ∧ t = s) ∧
    (Checked.timesIdentity a n s = .error (.fault f) t ↔
      first (identityProduct a n s.state.size) = none ∧
        (a.cols = 0 ∧ Size.limit ≤ n * a.rows * n) ∧ f = .mulOverflow ∧ t = s) ∧
    (Checked.identityTimes c a n s = .error (.fault f) t ↔
      first (identityProduct a n s.state.size) = none ∧
        (a.cols = 0 ∧ Size.limit ≤ n * a.rows * n) ∧ f = .mulOverflow ∧ t = s) := by
  -- for each kernel: an overflow on the way to a length that a zero makes small stops it, and
  -- without one it runs to its end
  refine ⟨?_, ?_, ?_⟩
  · refine eq_fault_iff_of_eq_screen (product_eq_screen c a b s) ?_ ?_
    · exact fun hnone hp => product_of_limit_le c hnone hp.2
    · exact fun hnone hp => exists_product_eq_ok (productFits_of_first_eq_none hnone hp) c
  · refine eq_fault_iff_of_eq_screen (timesIdentity_eq_screen a n s) ?_ ?_
    · exact fun _ hp => EStateM.bind_of_error (clearProduct_of_overflow (Or.inr (Or.inl hp.2))) _
    · exact fun hnone hp =>
        exists_timesIdentity_eq_ok (identityFits_of_first_eq_none hnone hp) hdst
  · refine eq_fault_iff_of_eq_screen (identityTimes_eq_screen c a n s) ?_ ?_
    · exact fun _ hp => EStateM.bind_of_error (clearProduct_of_overflow (Or.inr (Or.inl hp.2))) _
    · exact fun hnone hp =>
        exists_identityTimes_eq_ok (identityFits_of_first_eq_none hnone hp) hdst c

/-- A matrix of three rows and no columns and an identity of order 2³³. -/
theorem checked_products_fault_iff_without_columns :
    #[4, 5].size ≤ Size.allocationLimit ∧
      Checked.timesIdentity (⟨#[], 3, 0⟩ : Operand Nat) 8589934592 ⟨#[4, 5], []⟩ =
        .error (.fault .mulOverflow) ⟨#[4, 5], []⟩ := by
  have hdst : #[4, 5].size ≤ Size.allocationLimit := by decide
  obtain ⟨-, hright, -⟩ := checked_products_fault_iff .portable (⟨#[], 3, 0⟩ : Operand Nat)
    ⟨#[], 0, 0⟩ 8589934592 .mulOverflow ⟨#[4, 5], []⟩ ⟨#[4, 5], []⟩ hdst
  exact ⟨hdst, hright.2 ⟨by decide, ⟨rfl, by decide⟩, rfl, rfl⟩⟩

/-- Each of the three checked products stops on some operands although the product has no entries
and no buffer is too short. -/
theorem checked_products_fault_without_entries :
    Checked.product .portable (⟨#[1, 1, 1, 1], 2, 2⟩ : Operand Nat)
        ⟨#[], 4611686018427387904, 0⟩ ⟨#[], []⟩ = .error (.fault .mulOverflow) ⟨#[], []⟩ ∧
      Checked.timesIdentity (⟨#[], 1, 0⟩ : Operand Nat) 4294967296 ⟨#[], []⟩ =
        .error (.fault .mulOverflow) ⟨#[], []⟩ ∧
      Checked.identityTimes .portable (⟨#[], 1, 0⟩ : Operand Nat) 4294967296 ⟨#[], []⟩ =
        .error (.fault .mulOverflow) ⟨#[], []⟩ :=
  ⟨rfl, rfl, rfl⟩

end Faults

end DenseKron
