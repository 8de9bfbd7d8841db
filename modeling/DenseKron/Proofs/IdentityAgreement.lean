import DenseKron.Proofs.Identity
import DenseKron.Proofs.Written

/-!
# Products with an identity that is written out

A product with an identity can be computed in two ways: by the kernel that is made for it, which
never looks at an identity, or by the general kernel, with the identity written out beforehand as
one of its operands. The first copies, and the second multiplies: an entry meets the ones and the
zeros of the identity, on the side on which the identity stands, and a factor that is `1` is not
multiplied by.

Both leave a block matrix, over the whole of a destination of just the right size, so that they are
compared block by block (`WrittenBlocks.alike`). They agree wherever an entry is not changed by a
multiplication with one, and wherever it is taken to zero by one with zero
(`identity_products_agree`). Where it is not, as for an infinite or undefined number, the special
kernel has a zero and the general one has the product.

What it means for elements to be equal is left open. Identity will do; but a product of zero with a
negative number is a negative zero, which is equal to zero as a number and is another element
(`PartialEquality`).
-/

namespace DenseKron

/-- **Equality, as far as it goes.** A relation that need not hold between an element and itself.
With floating-point numbers an undefined one is not equal to itself, and zeros are, whatever their
signs. -/
structure PartialEquality {α : Type} (eqv : α → α → Prop) : Prop where
  symm : ∀ {x y}, eqv x y → eqv y x
  trans : ∀ {x y z}, eqv x y → eqv y z → eqv x z

theorem partialEquality_eq {α : Type} : PartialEquality fun x y : α => x = y :=
  ⟨Eq.symm, Eq.trans⟩

/-- **An element that obeys zero and one.** Zero takes it to zero from either side, and a one on the
right leaves it as it is. A one on the left is never multiplied by. -/
structure ObeysZeroOne {α : Type} [Zero α] [One α] [Mul α] (eqv : α → α → Prop) (x : α) : Prop where
  mul_zero : eqv (x * 0) 0
  zero_mul : eqv (0 * x) 0
  mul_one : eqv (x * 1) x

section

variable {α : Type} [Zero α] [One α] [Mul α] [DecidableEq α] {eqv : α → α → Prop}

omit [DecidableEq α] in
theorem ObeysZeroOne.self {x : α} (h : ObeysZeroOne eqv x) (heqv : PartialEquality eqv) : eqv x x :=
  heqv.trans (heqv.symm h.mul_one) h.mul_one

/-- An entry, and its product with an entry of the identity. -/
theorem ObeysZeroOne.scale_identity {x : α} (h : ObeysZeroOne eqv x) (heqv : PartialEquality eqv)
    (p : Prop) [Decidable p] : eqv (scale x (if p then 1 else 0)) (if p then x else 0) := by
  by_cases hx : x = 1
  -- the entry of the identity is copied
  · rw [hx, scale_one, ← hx]
    split
    · exact h.self heqv
    · exact heqv.trans (heqv.symm h.mul_zero) h.mul_zero
  · rw [scale_of_ne_one hx]
    split
    · exact h.mul_one
    · exact h.mul_zero

/-- An entry, and the product of an entry of the identity with it. -/
theorem ObeysZeroOne.scale_of_identity {x : α} (h : ObeysZeroOne eqv x)
    (heqv : PartialEquality eqv) (p : Prop) [Decidable p] :
    eqv (scale (if p then 1 else 0) x) (if p then x else 0) := by
  by_cases hp : p
  -- on the diagonal the entry is copied, as it is by the special kernel
  · rw [if_pos hp, if_pos hp, scale_one]
    exact h.self heqv
  · rw [if_neg hp, if_neg hp]
    by_cases hzero : (0 : α) = 1
    -- where zero is one, an element is equal to its product with either
    · have hmul : eqv (x * 0) x := by
        rw [hzero]
        exact h.mul_one
      rw [hzero, scale_one, ← hzero]
      exact heqv.trans (heqv.symm hmul) h.mul_zero
    · rw [scale_of_ne_one hzero]
      exact h.zero_mul

/-- A factor from the identity, on the left. -/
theorem scale_of_identity_eq (x : α) (p : Prop) [Decidable p] :
    scale (if p then 1 else 0) x = if p then x else if (0 : α) = 1 then x else 0 * x := by
  by_cases hp : p
  · rw [if_pos hp, if_pos hp, scale_one]
  · rw [if_neg hp, if_neg hp]
    rfl

/-- A factor from the identity, on the right. -/
theorem scale_identity_eq (x : α) (p : Prop) [Decidable p] :
    scale x (if p then 1 else 0) =
      if p then (if x = 1 then 1 else x * 1) else if x = 1 then 0 else x * 0 := by
  by_cases hp : p
  · rw [if_pos hp, if_pos hp]
    rfl
  · rw [if_neg hp, if_neg hp]
    rfl

variable {a : Operand α} {n : Nat} {e e' : Array α} {x : Nat → Nat → α}

/-- **The two ways to a product with an identity agree.** Let `a` be the packed matrix `x`, and let
`e'` be the identity of order `n`, written out.

Over destinations of the size of the product, `a ⊗ I` is left by the special kernel as `dst'` and by
the general one as `d'`. The blocks of `dst'` have the entry of `x` on the diagonal and zero beside
it; those of `d'` have the products with one and zero, or the ones and zeros themselves if the entry
is `1`. So the buffers agree on the diagonals of the blocks where `x * 1 = x`, and altogether if all
entries obey zero and one. `I ⊗ a` is left in the same two ways: either way with `x` in the blocks
on the diagonal, and beside them with zero or with zero times `x`. -/
theorem identity_products_agree (c c' : Copier)
    (hx : Holds a.entries a.rows a.cols a.rows x) (he : identity n e = .ok () e') :
    (∀ dst dst' d d' : Array α,
      dst.size = a.rows * n * (a.cols * n) → d.size = a.rows * n * (a.cols * n) →
      timesIdentity a n dst = .ok () dst' → product c a ⟨e', n, n⟩ d = .ok () d' →
      WrittenBlocks a.rows a.cols n n (fun i j k l => if k = l then x i j else 0) dst dst' ∧
      WrittenBlocks a.rows a.cols n n (fun i j k l =>
        if k = l then (if x i j = 1 then 1 else x i j * 1)
        else if x i j = 1 then 0 else x i j * 0) d d' ∧
      (∀ i < a.rows, ∀ j < a.cols, ∀ k < n, x i j * 1 = x i j →
        d'[(j * n + k) * (a.rows * n) + (i * n + k)]? =
          dst'[(j * n + k) * (a.rows * n) + (i * n + k)]?) ∧
      ((∀ i < a.rows, ∀ j < a.cols, ObeysZeroOne (· = ·) (x i j)) → d' = dst') ∧
      ∀ eqv, PartialEquality eqv → (∀ i < a.rows, ∀ j < a.cols, ObeysZeroOne eqv (x i j)) →
        Alike eqv d' dst') ∧
    (∀ dst dst' d d' : Array α,
      dst.size = n * a.rows * (n * a.cols) → d.size = n * a.rows * (n * a.cols) →
      identityTimes c' a n dst = .ok () dst' → product c ⟨e', n, n⟩ a d = .ok () d' →
      WrittenBlocks n n a.rows a.cols (fun u v r s => if u = v then x r s else 0) dst dst' ∧
      WrittenBlocks n n a.rows a.cols (fun u v r s =>
        if u = v then x r s else if (0 : α) = 1 then x r s else 0 * x r s) d d' ∧
      (∀ u < n, ∀ r < a.rows, ∀ s < a.cols,
        d'[(u * a.cols + s) * (n * a.rows) + (u * a.rows + r)]? =
          dst'[(u * a.cols + s) * (n * a.rows) + (u * a.rows + r)]?) ∧
      ((∀ i < a.rows, ∀ j < a.cols, ObeysZeroOne (· = ·) (x i j)) → d' = dst') ∧
      ∀ eqv, PartialEquality eqv → (∀ i < a.rows, ∀ j < a.cols, ObeysZeroOne eqv (x i j)) →
        Alike eqv d' dst') := by
  have hholds := holds_of_identity_eq_ok he
  constructor
  · intro dst dst' d d' hdst hd hspecial hgeneral
    -- both kernels leave blocks over the whole destination, and only these have to be compared
    have hspecial := timesIdentity_writtenBlocks hx hspecial
    have hgeneral := product_writtenBlocks hx hholds hgeneral
    have halike : ∀ eqv, PartialEquality eqv →
        (∀ i < a.rows, ∀ j < a.cols, ObeysZeroOne eqv (x i j)) → Alike eqv d' dst' := by
      intro eqv heqv hobeys
      refine hgeneral.alike hspecial (fun i hi j hj k _ l _ => ?_) hd hdst
      exact (hobeys i hi j hj).scale_identity heqv (k = l)
    refine ⟨hspecial, hgeneral.congr fun i _ j _ k _ l _ => scale_identity_eq _ _, ?_,
      fun hobeys => alike_eq_iff.1 (halike _ partialEquality_eq hobeys), halike⟩
    intro i hi j hj k hk hone
    -- on the diagonal it takes no more than that a one on the right does nothing
    rw [hgeneral.entry i hi j hj k hk k hk, hspecial.entry i hi j hj k hk k hk, if_pos rfl,
      if_pos rfl]
    by_cases hx1 : x i j = 1
    · rw [hx1, scale_one]
    · rw [scale_of_ne_one hx1, hone]
  -- the identity on the left: the same comparison, of the other two kernels
  · intro dst dst' d d' hdst hd hspecial hgeneral
    have hspecial := identityTimes_writtenBlocks hx hspecial
    have hgeneral := product_writtenBlocks hholds hx hgeneral
    have halike : ∀ eqv, PartialEquality eqv →
        (∀ i < a.rows, ∀ j < a.cols, ObeysZeroOne eqv (x i j)) → Alike eqv d' dst' := by
      intro eqv heqv hobeys
      refine hgeneral.alike hspecial (fun u _ v _ r hr s hs => ?_) hd hdst
      exact (hobeys r hr s hs).scale_of_identity heqv (u = v)
    refine ⟨hspecial, hgeneral.congr fun u _ v _ r _ s _ => scale_of_identity_eq _ _, ?_,
      fun hobeys => alike_eq_iff.1 (halike _ partialEquality_eq hobeys), halike⟩
    intro u hu r hr s hs
    rw [hgeneral.entry u hu u hu r hr s hs, hspecial.entry u hu u hu r hr s hs, if_pos rfl,
      if_pos rfl, scale_one]

/-- A column, with an entry that is `1`, over destinations with different contents. -/
theorem identity_products_agree_column :
    Holds #[3, 1] 2 1 2 (fun r _ => if r = 0 then 3 else 1) ∧
      identity 2 #[7, 7, 7, 7] = .ok () #[1, 0, 0, 1] ∧
      timesIdentity (⟨#[3, 1], 2, 1⟩ : Operand Nat) 2 (Array.replicate 8 9) =
        .ok () #[3, 0, 1, 0, 0, 3, 0, 1] ∧
      (∃ d', product (.parallel 0) (⟨#[3, 1], 2, 1⟩ : Operand Nat) ⟨#[1, 0, 0, 1], 2, 2⟩
        (Array.replicate 8 5) = .ok () d' ∧ d' = #[3, 0, 1, 0, 0, 3, 0, 1]) ∧
      identityTimes .portable (⟨#[3, 1], 2, 1⟩ : Operand Nat) 2 (Array.replicate 8 9) =
        .ok () #[3, 1, 0, 0, 0, 0, 3, 1] ∧
      ∃ d', product (.parallel 0) ⟨#[1, 0, 0, 1], 2, 2⟩ (⟨#[3, 1], 2, 1⟩ : Operand Nat)
        (Array.replicate 8 5) = .ok () d' ∧ d' = #[3, 1, 0, 0, 0, 0, 3, 1] := by
  have hx : Holds #[3, 1] 2 1 2 (fun r _ => if r = 0 then 3 else 1) := by
    unfold Holds
    decide
  have he : identity 2 #[7, 7, 7, 7] = .ok () #[1, 0, 0, 1] := by decide +kernel
  have hright : timesIdentity (⟨#[3, 1], 2, 1⟩ : Operand Nat) 2 (Array.replicate 8 9) =
      .ok () #[3, 0, 1, 0, 0, 3, 0, 1] := by decide +kernel
  have hright' : product (.parallel 0) (⟨#[3, 1], 2, 1⟩ : Operand Nat) ⟨#[1, 0, 0, 1], 2, 2⟩
      (Array.replicate 8 5) = .ok () #[3, 0, 1, 0, 0, 3, 0, 1] := by decide +kernel
  have hleft : identityTimes .portable (⟨#[3, 1], 2, 1⟩ : Operand Nat) 2 (Array.replicate 8 9) =
      .ok () #[3, 1, 0, 0, 0, 0, 3, 1] := by decide +kernel
  have hleft' : product (.parallel 0) ⟨#[1, 0, 0, 1], 2, 2⟩ (⟨#[3, 1], 2, 1⟩ : Operand Nat)
      (Array.replicate 8 5) = .ok () #[3, 1, 0, 0, 0, 0, 3, 1] := by decide +kernel
  -- natural numbers obey the laws, with equality itself
  have hobeys : ∀ y : Nat, ObeysZeroOne (· = ·) y := fun y =>
    ⟨Nat.mul_zero y, Nat.zero_mul y, Nat.mul_one y⟩
  obtain ⟨hagreeRight, hagreeLeft⟩ :=
    identity_products_agree (a := ⟨#[3, 1], 2, 1⟩) (.parallel 0) .portable hx he
  obtain ⟨-, -, -, heqRight, -⟩ := hagreeRight _ _ _ _ (by decide) (by decide) hright hright'
  obtain ⟨-, -, -, heqLeft, -⟩ := hagreeLeft _ _ _ _ (by decide) (by decide) hleft hleft'
  exact ⟨hx, he, hright, ⟨_, hright', heqRight fun _ _ _ _ => hobeys _⟩, hleft,
    ⟨_, hleft', heqLeft fun _ _ _ _ => hobeys _⟩⟩

end

end DenseKron
