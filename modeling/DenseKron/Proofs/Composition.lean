import DenseKron.Proofs.Made

/-!
# Products with identities, one after another

Making a product with an identity of a product with an identity is making one product with an
identity. On the same side the orders multiply: `(A ⊗ I) ⊗ I` is `A ⊗ I`, and `I ⊗ (I ⊗ A)` is
`I ⊗ A`. On different sides the two do not see each other, and `I ⊗ (A ⊗ I)` is `(I ⊗ A) ⊗ I`.
The product of an identity with another one is an identity, whichever kernel makes it.

No entry is multiplied on either way, so all of this holds of any elements whatever. As laws about
matrices of blocks, they say that a division by a product is two divisions: an entry of the outer
matrix finds its block, and then its block in that block (`eq_iff_div_eq_mod_eq`,
`mod_mul_eq_mod_mul_iff`). The buffers follow (`identity_products_compose`).
-/

namespace DenseKron

/-! ### Two divisions in one -/

section Division

variable {m n r c : Nat}

/-- Two numbers are equal if their quotients are and their remainders are. -/
theorem eq_iff_div_eq_mod_eq (n : Nat) : r = c ↔ r / n = c / n ∧ r % n = c % n := by
  constructor
  · rintro rfl
    exact ⟨rfl, rfl⟩
  · rintro ⟨hdiv, hmod⟩
    rw [← Nat.div_add_mod r n, hdiv, hmod, Nat.div_add_mod]

/-- The remainder by a product is made of two remainders. -/
theorem mod_mul_eq_mod_mul_iff :
    r % (m * n) = c % (m * n) ↔ r % n = c % n ∧ r / n % m = c / n % m := by
  rw [eq_iff_div_eq_mod_eq n, Nat.mod_mul_left_div_self, Nat.mod_mul_left_div_self,
    Nat.mod_mul_left_mod, Nat.mod_mul_left_mod]
  exact and_comm

end Division

/-! ### Laws of matrices -/

section Matrices

variable {α : Type} [Zero α]

/-- The orders of two identities on the right multiply. -/
theorem tensorUnit_tensorUnit (m n : Nat) (x : Nat → Nat → α) :
    tensorUnit n (tensorUnit m x) = tensorUnit (m * n) x := by
  funext r c
  calc tensorUnit n (tensorUnit m x) r c
      = if r % n = c % n ∧ r / n % m = c / n % m then x (r / n / m) (c / n / m) else 0 := by
        rw [tensorUnit_apply, tensorUnit_apply, ite_and]
    -- the remainder by the product is made of the two remainders
    _ = if r % (m * n) = c % (m * n) then x (r / (m * n)) (c / (m * n)) else 0 := by
        rw [Nat.div_div_eq_div_mul, Nat.div_div_eq_div_mul, Nat.mul_comm n m]
        exact if_congr mod_mul_eq_mod_mul_iff.symm rfl rfl
    _ = tensorUnit (m * n) x r c := (tensorUnit_apply _ x r c).symm

/-- So do those of two identities on the left. They do not show in the entries: to belong to one
inner block is to belong to one outer block and to one inner block of it. -/
theorem unitTensor_unitTensor (m p q : Nat) (x : Nat → Nat → α) :
    unitTensor (m * p) (m * q) (unitTensor p q x) = unitTensor p q x := by
  funext r c
  -- the number of the inner block, and its number in the outer one
  have hblock : r / p = c / q ↔
      r / (m * p) = c / (m * q) ∧ r % (m * p) / p = c % (m * q) / q := by
    rw [eq_iff_div_eq_mod_eq m, Nat.div_div_eq_div_mul, Nat.div_div_eq_div_mul,
      Nat.mul_comm p m, Nat.mul_comm q m, Nat.mod_mul_left_div_self, Nat.mod_mul_left_div_self]
  calc unitTensor (m * p) (m * q) (unitTensor p q x) r c
      = if r / (m * p) = c / (m * q) ∧ r % (m * p) / p = c % (m * q) / q
          then x (r % p) (c % q) else 0 := by
        rw [unitTensor_apply, unitTensor_apply, ite_and, Nat.mod_mul_left_mod,
          Nat.mod_mul_left_mod]
    _ = if r / p = c / q then x (r % p) (c % q) else 0 := if_congr hblock.symm rfl rfl
    _ = unitTensor p q x r c := (unitTensor_apply p q x r c).symm

/-- An identity on the left and one on the right may come in either order. -/
theorem unitTensor_tensorUnit (n p q : Nat) (x : Nat → Nat → α) :
    unitTensor (p * n) (q * n) (tensorUnit n x) = tensorUnit n (unitTensor p q x) := by
  funext r c
  -- the left identity looks at the first of three counters, and the right one at the last
  calc unitTensor (p * n) (q * n) (tensorUnit n x) r c
      = if r / n / p = c / n / q ∧ r % n = c % n then x (r / n % p) (c / n % q) else 0 := by
        rw [unitTensor_apply, tensorUnit_apply, ite_and, Nat.mod_mul_left_mod,
          Nat.mod_mul_left_mod, Nat.mod_mul_left_div_self, Nat.mod_mul_left_div_self,
          Nat.div_div_eq_div_mul, Nat.div_div_eq_div_mul, Nat.mul_comm n p, Nat.mul_comm n q]
    _ = if r % n = c % n ∧ r / n / p = c / n / q then x (r / n % p) (c / n % q) else 0 :=
        if_congr and_comm rfl rfl
    _ = tensorUnit n (unitTensor p q x) r c := by
        rw [tensorUnit_apply, unitTensor_apply, ite_and]

/-- An identity of blocks that are identities, made on the right. -/
theorem tensorUnit_unitMatrix [One α] (n : Nat) :
    tensorUnit n (unitMatrix : Nat → Nat → α) = unitMatrix := by
  funext r c
  show (if r % n = c % n then if r / n = c / n then (1 : α) else 0 else 0) = if r = c then 1 else 0
  rw [← ite_and]
  exact if_congr (and_comm.trans (eq_iff_div_eq_mod_eq n).symm) rfl rfl

/-- And the same made on the left. -/
theorem unitTensor_unitMatrix [One α] (n : Nat) :
    unitTensor n n (unitMatrix : Nat → Nat → α) = unitMatrix := by
  funext r c
  show (if r / n = c / n then if r % n = c % n then (1 : α) else 0 else 0) = if r = c then 1 else 0
  rw [← ite_and]
  exact if_congr (eq_iff_div_eq_mod_eq n).symm rfl rfl

end Matrices

/-! ### Laws of kernels -/

section Kernels

variable {α : Type} [Zero α] {a b p q : Operand α} {m n : Nat}

/-- Two products with an identity on the right are one. -/
theorem IsTimesIdentity.timesIdentity_eq (hb : IsTimesIdentity a m b) (hp : IsTimesIdentity b n p)
    (hq : IsTimesIdentity a (m * n) q) : p = q := by
  obtain ⟨x, hx⟩ := hb.exists_holds
  have hpPacks := hp.packs (hb.packs hx).holds
  -- both sides pack one matrix
  rw [tensorUnit_tensorUnit] at hpPacks
  refine hpPacks.unique (hq.packs hx) ?_ ?_
  · rw [hp.rows_eq, hb.rows_eq, hq.rows_eq, Nat.mul_assoc]
  · rw [hp.cols_eq, hb.cols_eq, hq.cols_eq, Nat.mul_assoc]

/-- The product with the identity on the right of an identity is an identity. -/
theorem IsIdentity.timesIdentity_eq [One α] (hb : IsIdentity m b) (hp : IsTimesIdentity b n p)
    (hq : IsIdentity (m * n) q) : p = q := by
  have hpPacks := hp.packs hb.packs.holds
  rw [tensorUnit_unitMatrix] at hpPacks
  refine hpPacks.unique hq.packs ?_ ?_
  · rw [hp.rows_eq, hb.rows_eq, hq.rows_eq]
  · rw [hp.cols_eq, hb.cols_eq, hq.cols_eq]

variable [One α] [Mul α] [DecidableEq α] {c c₁ c₂ c₃ : Copier}

/-- Two products with an identity on the left are one. -/
theorem IsIdentityTimes.identityTimes_eq (hb : IsIdentityTimes c₁ a m b)
    (hp : IsIdentityTimes c₂ b n p) (hq : IsIdentityTimes c₃ a (m * n) q) : p = q := by
  obtain ⟨x, hx⟩ := hb.exists_holds
  have hpPacks := hp.packs (hb.packs hx).holds
  -- the outer blocks are as large as `b`, which is `m` times as large as `a`
  rw [hb.rows_eq, hb.cols_eq, unitTensor_unitTensor] at hpPacks
  refine hpPacks.unique (hq.packs hx) ?_ ?_
  · rw [hp.rows_eq, hb.rows_eq, hq.rows_eq, ← Nat.mul_assoc, Nat.mul_comm n m]
  · rw [hp.cols_eq, hb.cols_eq, hq.cols_eq, ← Nat.mul_assoc, Nat.mul_comm n m]

/-- Products with an identity on either side are made in either order. -/
theorem IsTimesIdentity.identityTimes_eq {b' : Operand α} (hb : IsTimesIdentity a m b)
    (hp : IsIdentityTimes c₁ b n p) (hb' : IsIdentityTimes c₂ a n b')
    (hq : IsTimesIdentity b' m q) : p = q := by
  obtain ⟨x, hx⟩ := hb.exists_holds
  have hpPacks := hp.packs (hb.packs hx).holds
  -- the outer blocks are as large as `b`, and in this order the two identities commute
  rw [hb.rows_eq, hb.cols_eq, unitTensor_tensorUnit] at hpPacks
  refine hpPacks.unique (hq.packs (hb'.packs hx).holds) ?_ ?_
  · rw [hp.rows_eq, hb.rows_eq, hq.rows_eq, hb'.rows_eq, Nat.mul_assoc]
  · rw [hp.cols_eq, hb.cols_eq, hq.cols_eq, hb'.cols_eq, Nat.mul_assoc]

/-- The product with the identity on the left of an identity is an identity. -/
theorem IsIdentity.identityTimes_eq (hb : IsIdentity m b) (hp : IsIdentityTimes c b n p)
    (hq : IsIdentity (m * n) q) : p = q := by
  have hpPacks := hp.packs hb.packs.holds
  rw [hb.rows_eq, hb.cols_eq, unitTensor_unitMatrix] at hpPacks
  refine hpPacks.unique hq.packs ?_ ?_
  · rw [hp.rows_eq, hb.rows_eq, hq.rows_eq, Nat.mul_comm]
  · rw [hp.cols_eq, hb.cols_eq, hq.cols_eq, Nat.mul_comm]

/-- **Products with identities compose.** All of the operands are made in buffers of just their
size, by any copiers.

If `b` is `a ⊗ I` with the order `m` and `p` is `b ⊗ I` with the order `n`, then `p` is `a ⊗ I` with
the order `m * n`, element by element; and likewise on the left. If `b` is `a ⊗ I` and `p` is
`I ⊗ b`, then `p` is what comes of making `I ⊗ a` first. A product of an identity with an identity,
by either kernel, is the identity that is written out. -/
theorem identity_products_compose :
    (∀ b p q : Operand α, IsTimesIdentity a m b → IsTimesIdentity b n p →
      IsTimesIdentity a (m * n) q → p = q) ∧
    (∀ (c c' c'' : Copier) (b p q : Operand α), IsIdentityTimes c a m b →
      IsIdentityTimes c' b n p → IsIdentityTimes c'' a (m * n) q → p = q) ∧
    (∀ (c c' : Copier) (b b' p q : Operand α), IsTimesIdentity a m b → IsIdentityTimes c b n p →
      IsIdentityTimes c' a n b' → IsTimesIdentity b' m q → p = q) ∧
    ∀ (c : Copier) (e p p' q : Operand α), IsIdentity m e → IsTimesIdentity e n p →
      IsIdentityTimes c e n p' → IsIdentity (m * n) q → p = q ∧ p' = q := by
  refine ⟨?_, ?_, ?_, ?_⟩
  · intro b p q hb hp hq
    exact hb.timesIdentity_eq hp hq
  · intro c c' c'' b p q hb hp hq
    exact hb.identityTimes_eq hp hq
  · intro c c' b b' p q hb hp hb' hq
    exact hb.identityTimes_eq hp hb' hq
  · intro c e p p' q he hp hp' hq
    exact ⟨he.timesIdentity_eq hp hq, he.identityTimes_eq hp' hq⟩

/-- A column and identities of order two, made over other elements. -/
theorem identity_products_compose_column :
    ∃ a b b' e : Operand Nat, a = ⟨#[3, 5], 2, 1⟩ ∧ IsTimesIdentity a 2 b ∧
      IsIdentityTimes (.parallel 0) a 2 b' ∧ IsIdentity 2 e ∧
      (∃ p q, IsTimesIdentity b 2 p ∧ IsTimesIdentity a (2 * 2) q ∧ p = q) ∧
      (∃ p q, IsIdentityTimes .portable b' 2 p ∧ IsIdentityTimes (.parallel 9) a (2 * 2) q ∧
        p = q) ∧
      (∃ p q, IsIdentityTimes .portable b 2 p ∧ IsTimesIdentity b' 2 q ∧ p = q) ∧
      ∃ p p' q, IsTimesIdentity e 2 p ∧ IsIdentityTimes .portable e 2 p' ∧
        IsIdentity (2 * 2) q ∧ p = q ∧ p' = q := by
  let a : Operand Nat := ⟨#[3, 5], 2, 1⟩
  let b : Operand Nat := ⟨#[3, 0, 5, 0, 0, 3, 0, 5], 4, 2⟩
  let b' : Operand Nat := ⟨#[3, 5, 0, 0, 0, 0, 3, 5], 4, 2⟩
  let e : Operand Nat := ⟨#[1, 0, 0, 1], 2, 2⟩
  have hb : IsTimesIdentity a 2 b := .of_replicate 9 (by decide +kernel)
  have hb' : IsIdentityTimes (.parallel 0) a 2 b' := .of_replicate 9 (by decide +kernel)
  have he : IsIdentity 2 e := .of_replicate 9 (by decide +kernel)
  -- each side of a law is run on other elements than the other side
  obtain ⟨p₁, hp₁, hq₁⟩ : ∃ p, IsTimesIdentity b 2 p ∧ IsTimesIdentity a (2 * 2) p :=
    ⟨⟨#[3, 0, 0, 0, 5, 0, 0, 0, 0, 3, 0, 0, 0, 5, 0, 0, 0, 0, 3, 0, 0, 0, 5, 0, 0, 0, 0, 3, 0, 0,
        0, 5], 8, 4⟩, .of_replicate 9 (by decide +kernel), .of_replicate 8 (by decide +kernel)⟩
  obtain ⟨p₂, hp₂, hq₂⟩ : ∃ p, IsIdentityTimes .portable b' 2 p ∧
      IsIdentityTimes (.parallel 9) a (2 * 2) p :=
    ⟨⟨#[3, 5, 0, 0, 0, 0, 0, 0, 0, 0, 3, 5, 0, 0, 0, 0, 0, 0, 0, 0, 3, 5, 0, 0, 0, 0, 0, 0, 0, 0,
        3, 5], 8, 4⟩, .of_replicate 9 (by decide +kernel), .of_replicate 8 (by decide +kernel)⟩
  obtain ⟨p₃, hp₃, hq₃⟩ : ∃ p, IsIdentityTimes .portable b 2 p ∧ IsTimesIdentity b' 2 p :=
    ⟨⟨#[3, 0, 5, 0, 0, 0, 0, 0, 0, 3, 0, 5, 0, 0, 0, 0, 0, 0, 0, 0, 3, 0, 5, 0, 0, 0, 0, 0, 0, 3,
        0, 5], 8, 4⟩, .of_replicate 9 (by decide +kernel), .of_replicate 8 (by decide +kernel)⟩
  obtain ⟨p₄, hp₄, hp₄', hq₄⟩ : ∃ p, IsTimesIdentity e 2 p ∧ IsIdentityTimes .portable e 2 p ∧
      IsIdentity (2 * 2) p :=
    ⟨⟨#[1, 0, 0, 0, 0, 1, 0, 0, 0, 0, 1, 0, 0, 0, 0, 1], 4, 4⟩,
      .of_replicate 9 (by decide +kernel), .of_replicate 8 (by decide +kernel),
      .of_replicate 7 (by decide +kernel)⟩
  obtain ⟨hright, hleft, hboth, hidentity⟩ := identity_products_compose (a := a) (m := 2) (n := 2)
  exact ⟨a, b, b', e, rfl, hb, hb', he, ⟨p₁, p₁, hp₁, hq₁, hright b p₁ p₁ hb hp₁ hq₁⟩,
    ⟨p₂, p₂, hp₂, hq₂, hleft _ _ _ b' p₂ p₂ hb' hp₂ hq₂⟩,
    ⟨p₃, p₃, hp₃, hq₃, hboth _ _ b b' p₃ p₃ hb hp₃ hb' hq₃⟩,
    p₄, p₄, p₄, hp₄, hp₄', hq₄, hidentity _ e p₄ p₄ p₄ he hp₄ hp₄' hq₄⟩

end Kernels

end DenseKron
