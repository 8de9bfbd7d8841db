import DenseKron.Proofs.Made

/-!
# Transposed products

A block copy that transposes makes the transpose of a packed operand (`IsTranspose`), and the
transpose of a product is the product of the transposes, in the same order. This is so for all three
kernels, although on the two sides of the law rows and columns have traded places: another leading
dimension, another number of blocks on top of each other, another jump behind each of their columns.

A copy that transposes multiplies each element by its factor even if this is `1`. On one side of the
law the multiplication comes after the product has been made, and on the other side before. So the
elements have to be those that a one on the left leaves as they are (`transposition_commutes`). For
the products with an identity it is enough to ask this of zero: each entry is multiplied once on
either side, but zeros are written unmultiplied when the transpose is made first.
-/

namespace DenseKron

variable {α : Type} [One α] [Mul α] [DecidableEq α]

/-! ### Transposes -/

/-- The request to copy the transpose of an operand to where it is packed again. -/
def Operand.transposition (a : Operand α) : CopyRequest where
  transpose := .trans
  rows := a.rows
  cols := a.cols
  lda := a.rows
  ldb := a.cols

/-- The operand `p` is the transpose of `a`, as a copy with the factor `1` makes it. -/
def IsTranspose (c : Copier) (a p : Operand α) : Prop :=
  p.Made a.cols a.rows (c.copy a.transposition 1 a.entries 0)

/-- The transpose of a matrix, as it is copied: each entry has been multiplied by one. -/
def transposed (x : Nat → Nat → α) (row col : Nat) : α := 1 * x col row

/-- What can be transposed has its entries. -/
theorem IsTranspose.exists_holds {c : Copier} {a p : Operand α} (h : IsTranspose c a p) :
    ∃ x, Holds a.entries a.rows a.cols a.rows x := by
  obtain ⟨-, -, dst, -, hrun⟩ := h
  obtain ⟨x, hx, -⟩ := Copier.exists_arrivals_of_copy_eq_ok hrun
  exact ⟨x, hx⟩

/-- The entries of a transpose have been multiplied, whatever they are. -/
theorem IsTranspose.packs {c : Copier} {a p : Operand α} {x : Nat → Nat → α}
    (h : IsTranspose c a p) (hx : Holds a.entries a.rows a.cols a.rows x) :
    p.Packs (transposed x) := by
  obtain ⟨hrows, hcols, dst, hdst, hrun⟩ := h
  obtain ⟨y, hy, harrive, -, hsize⟩ := Copier.exists_arrivals_of_copy_eq_ok hrun
  refine ⟨by rw [hsize, hdst, hrows, hcols], ?_⟩
  rw [hrows, hcols]
  intro col hcol row hrow
  -- the copy has the entries that the operand is known to hold
  have hentry : y row col = x row col :=
    Option.some.inj ((hy row hrow col hcol).symm.trans (hx row hrow col hcol))
  have harrived := harrive row hrow col hcol
  rw [Nat.zero_add, hentry] at harrived
  exact harrived

/-! ### Laws of matrices -/

section Matrices

variable [Zero α]

omit [DecidableEq α] in
/-- What is zero in a product with an identity is zero in its transpose, if one times zero is. -/
theorem transposed_tensorUnit (h : (1 : α) * 0 = 0) (n : Nat) (x : Nat → Nat → α) :
    transposed (tensorUnit n x) = tensorUnit n (transposed x) := by
  funext r c
  unfold transposed
  rw [tensorUnit_apply, tensorUnit_apply, mul_ite, h]
  exact if_congr eq_comm rfl rfl

omit [DecidableEq α] in
theorem transposed_unitTensor (h : (1 : α) * 0 = 0) (p q : Nat) (x : Nat → Nat → α) :
    transposed (unitTensor p q x) = unitTensor q p (transposed x) := by
  funext r c
  unfold transposed
  rw [unitTensor_apply, unitTensor_apply, mul_ite, h]
  exact if_congr eq_comm rfl rfl

end Matrices

/-! ### Laws of kernels -/

section Kernels

variable {a b : Operand α}

/-- The transpose of a product. -/
theorem IsProduct.transpose_eq {c₁ c₂ c₃ c₄ c₅ : Copier} {a' b' p p' q : Operand α}
    (ha : IsTranspose c₁ a a') (hb : IsTranspose c₂ b b') (hp : IsProduct c₃ a b p)
    (hp' : IsTranspose c₄ p p') (hq : IsProduct c₅ a' b' q) (haone : ∀ e ∈ a.entries, 1 * e = e)
    (hbone : ∀ e ∈ b.entries, 1 * e = e) (hpone : ∀ e ∈ p.entries, 1 * e = e) : p' = q := by
  obtain ⟨x, hx⟩ := ha.exists_holds
  obtain ⟨y, hy⟩ := hb.exists_holds
  have hpPacks := hp.packs hx hy
  have hqPacks := hq.packs (ha.packs hx).holds (hb.packs hy).holds
  refine (hp'.packs hpPacks.holds).eq hqPacks ?_ ?_ ?_
  · rw [hp'.rows_eq, hp.cols_eq, hq.rows_eq, ha.rows_eq, hb.rows_eq]
  · rw [hp'.cols_eq, hp.rows_eq, hq.cols_eq, ha.cols_eq, hb.cols_eq]
  · intro col hcol row hrow
    rw [hp'.rows_eq] at hcol
    rw [hp'.cols_eq] at hrow
    unfold transposed
    rw [hpone _ (hpPacks.mem hrow hcol), hb.rows_eq, hb.cols_eq]
    rw [hp.cols_eq] at hcol
    rw [hp.rows_eq] at hrow
    -- entry `(k, l)` of block `(i, j)` is entry `(l, k)` of block `(j, i)` on the other side, where
    -- both of its factors have been multiplied
    obtain ⟨j, hj, l, hl, rfl⟩ := exists_mul_add hcol
    obtain ⟨i, hi, k, hk, rfl⟩ := exists_mul_add hrow
    have hxone : 1 * x i j = x i j := haone _ (Array.mem_of_getElem? (hx i hi j hj))
    have hyone : 1 * y k l = y k l := hbone _ (Array.mem_of_getElem? (hy k hk l hl))
    rw [tensor, blocks_mul_add _ i j hk hl, tensor, blocks_mul_add _ j i hl hk, hxone, hyone]

variable [Zero α] {n : Nat}

/-- The transpose of a product with the identity on the right. -/
theorem IsTimesIdentity.transpose_eq {c₁ c₂ : Copier} {a' p p' q : Operand α}
    (ha : IsTranspose c₁ a a') (hp : IsTimesIdentity a n p) (hp' : IsTranspose c₂ p p')
    (hq : IsTimesIdentity a' n q) (hzero : (1 : α) * 0 = 0) : p' = q := by
  obtain ⟨x, hx⟩ := ha.exists_holds
  have hqPacks := hq.packs (ha.packs hx).holds
  -- the transpose may be made before the product or after it
  rw [← transposed_tensorUnit hzero] at hqPacks
  refine (hp'.packs (hp.packs hx).holds).unique hqPacks ?_ ?_
  · rw [hp'.rows_eq, hp.cols_eq, hq.rows_eq, ha.rows_eq]
  · rw [hp'.cols_eq, hp.rows_eq, hq.cols_eq, ha.cols_eq]

/-- The transpose of a product with the identity on the left. -/
theorem IsIdentityTimes.transpose_eq {c₁ c₂ c₃ c₄ : Copier} {a' p p' q : Operand α}
    (ha : IsTranspose c₁ a a') (hp : IsIdentityTimes c₂ a n p) (hp' : IsTranspose c₃ p p')
    (hq : IsIdentityTimes c₄ a' n q) (hzero : (1 : α) * 0 = 0) : p' = q := by
  obtain ⟨x, hx⟩ := ha.exists_holds
  have hqPacks := hq.packs (ha.packs hx).holds
  rw [ha.rows_eq, ha.cols_eq, ← transposed_unitTensor hzero] at hqPacks
  refine (hp'.packs (hp.packs hx).holds).unique hqPacks ?_ ?_
  · rw [hp'.rows_eq, hp.cols_eq, hq.rows_eq, ha.rows_eq]
  · rw [hp'.cols_eq, hp.rows_eq, hq.cols_eq, ha.cols_eq]

/-- **Transposition commutes with all three products.** All of the operands are made in buffers of
just their size, by any copiers.

Let `a'` and `b'` be the transposes of `a` and `b`. The transpose `p'` of the product `p` of `a` and
`b` is the product `q` of `a'` and `b'`, element by element, if a one on the left leaves the
elements of `a`, `b` and `p` as they are. The transpose of `a ⊗ I` is `a' ⊗ I`, and that of `I ⊗ a`
is `I ⊗ a'`, if it leaves zero as it is. -/
theorem transposition_commutes :
    (∀ (c₁ c₂ c₃ c₄ c₅ : Copier) (a' b' p p' q : Operand α), IsTranspose c₁ a a' →
      IsTranspose c₂ b b' → IsProduct c₃ a b p → IsTranspose c₄ p p' → IsProduct c₅ a' b' q →
      (∀ e ∈ a.entries, 1 * e = e) → (∀ e ∈ b.entries, 1 * e = e) →
      (∀ e ∈ p.entries, 1 * e = e) → p' = q) ∧
    (∀ (c₁ c₂ : Copier) (n : Nat) (a' p p' q : Operand α), IsTranspose c₁ a a' →
      IsTimesIdentity a n p → IsTranspose c₂ p p' → IsTimesIdentity a' n q → (1 : α) * 0 = 0 →
      p' = q) ∧
    ∀ (c₁ c₂ c₃ c₄ : Copier) (n : Nat) (a' p p' q : Operand α), IsTranspose c₁ a a' →
      IsIdentityTimes c₂ a n p → IsTranspose c₃ p p' → IsIdentityTimes c₄ a' n q →
      (1 : α) * 0 = 0 → p' = q := by
  refine ⟨?_, ?_, ?_⟩
  · intro c₁ c₂ c₃ c₄ c₅ a' b' p p' q ha hb hp hp' hq haone hbone hpone
    exact IsProduct.transpose_eq ha hb hp hp' hq haone hbone hpone
  · intro c₁ c₂ n a' p p' q ha hp hp' hq hzero
    exact IsTimesIdentity.transpose_eq ha hp hp' hq hzero
  · intro c₁ c₂ c₃ c₄ n a' p p' q ha hp hp' hq hzero
    exact IsIdentityTimes.transpose_eq ha hp hp' hq hzero

/-- A column and a row of different lengths, made over other elements. -/
theorem transposition_commutes_column_row :
    ∃ a a' b b' : Operand Nat, a = ⟨#[3, 5], 2, 1⟩ ∧ b = ⟨#[7, 1, 2], 1, 3⟩ ∧
      IsTranspose .portable a a' ∧ IsTranspose (.parallel 0) b b' ∧
      (∃ p p' q, IsProduct .portable a b p ∧ IsTranspose (.parallel 0) p p' ∧
        IsProduct (.parallel 2) a' b' q ∧ p' = q) ∧
      (∃ p p' q, IsTimesIdentity a 2 p ∧ IsTranspose .portable p p' ∧ IsTimesIdentity a' 2 q ∧
        p' = q) ∧
      ∃ p p' q, IsIdentityTimes .portable a 2 p ∧ IsTranspose .portable p p' ∧
        IsIdentityTimes (.parallel 0) a' 2 q ∧ p' = q := by
  let a : Operand Nat := ⟨#[3, 5], 2, 1⟩
  let b : Operand Nat := ⟨#[7, 1, 2], 1, 3⟩
  let a' : Operand Nat := ⟨#[3, 5], 1, 2⟩
  let b' : Operand Nat := ⟨#[7, 1, 2], 3, 1⟩
  -- the transpose of a column is a row with the same elements
  have ha : IsTranspose .portable a a' := .of_replicate 9 (by decide +kernel)
  have hb : IsTranspose (.parallel 0) b b' := .of_replicate 9 (by decide +kernel)
  obtain ⟨p₁, q₁, hp₁, hp₁', hq₁⟩ : ∃ p q, IsProduct .portable a b p ∧
      IsTranspose (.parallel 0) p q ∧ IsProduct (.parallel 2) a' b' q :=
    ⟨⟨#[21, 35, 3, 5, 6, 10], 2, 3⟩, ⟨#[21, 3, 6, 35, 5, 10], 3, 2⟩,
      .of_replicate 9 (by decide +kernel), .of_replicate 8 (by decide +kernel),
      .of_replicate 7 (by decide +kernel)⟩
  obtain ⟨p₂, q₂, hp₂, hp₂', hq₂⟩ : ∃ p q, IsTimesIdentity a 2 p ∧ IsTranspose .portable p q ∧
      IsTimesIdentity a' 2 q :=
    ⟨⟨#[3, 0, 5, 0, 0, 3, 0, 5], 4, 2⟩, ⟨#[3, 0, 0, 3, 5, 0, 0, 5], 2, 4⟩,
      .of_replicate 9 (by decide +kernel), .of_replicate 8 (by decide +kernel),
      .of_replicate 7 (by decide +kernel)⟩
  obtain ⟨p₃, q₃, hp₃, hp₃', hq₃⟩ : ∃ p q, IsIdentityTimes .portable a 2 p ∧
      IsTranspose .portable p q ∧ IsIdentityTimes (.parallel 0) a' 2 q :=
    ⟨⟨#[3, 5, 0, 0, 0, 0, 3, 5], 4, 2⟩, ⟨#[3, 0, 5, 0, 0, 3, 0, 5], 2, 4⟩,
      .of_replicate 9 (by decide +kernel), .of_replicate 8 (by decide +kernel),
      .of_replicate 7 (by decide +kernel)⟩
  obtain ⟨hproduct, hright, hleft⟩ := transposition_commutes (a := a) (b := b)
  exact ⟨a, a', b, b', rfl, rfl, ha, hb,
    ⟨p₁, q₁, q₁, hp₁, hp₁', hq₁, hproduct _ _ _ _ _ a' b' p₁ q₁ q₁ ha hb hp₁ hp₁' hq₁
      (fun e _ => Nat.one_mul e) (fun e _ => Nat.one_mul e) fun e _ => Nat.one_mul e⟩,
    ⟨p₂, q₂, q₂, hp₂, hp₂', hq₂, hright _ _ 2 a' p₂ q₂ q₂ ha hp₂ hp₂' hq₂ rfl⟩,
    p₃, q₃, q₃, hp₃, hp₃', hq₃, hleft _ _ _ _ 2 a' p₃ q₃ q₃ ha hp₃ hp₃' hq₃ rfl⟩

end Kernels

end DenseKron
