import DenseKron.Proofs.Made

/-!
# Threefold products

A product of three operands is made in two ways, `(A ⊗ B) ⊗ C` and `A ⊗ (B ⊗ C)`. The buffers in
between have nothing in common, and neither have the blocks: the one product has blocks as large as
`C`, and the other as large as `B ⊗ C`. But an entry of either is made of the same three entries. A
row of the product is a row of each factor, the three of them as the digits of one number, and so is
a column (`Coordinates.row`, `Coordinates.col`); both ways of cutting the product into blocks read
the same digits (`tensor_tensor_left`, `tensor_tensor_right`).

What differs is how the three entries are multiplied, and this is where the elements have to help.
The factor `1` is not multiplied by, wherever it turns up: in `A`, in `B`, or as a product of two
entries in the buffer in between. It takes no more than associativity and that a one on the left
leaves the entries of `C` as they are (`scale_assoc`).
-/

namespace DenseKron

/-! ### Digits -/

section Digits

variable {m p r i i' k k' u u' t : Nat}

theorem digits_lt (hi : i < m) (hk : k < p) (hu : u < r) : (i * p + k) * r + u < m * p * r :=
  mul_add_lt_mul (mul_add_lt_mul hi hk) hu

/-- Three digits are determined by the number. -/
theorem digits_inj (hk : k < p) (hk' : k' < p) (hu : u < r) (hu' : u' < r)
    (h : (i * p + k) * r + u = (i' * p + k') * r + u') : i = i' ∧ k = k' ∧ u = u' := by
  -- the last digit first
  obtain ⟨hik, hu⟩ := mul_add_inj hu hu' h
  obtain ⟨hi, hk⟩ := mul_add_inj hk hk' hik
  exact ⟨hi, hk, hu⟩

/-- Every number below `m * p * r` has three digits. -/
theorem exists_digits (h : t < m * p * r) :
    ∃ i < m, ∃ k < p, ∃ u < r, t = (i * p + k) * r + u := by
  obtain ⟨ik, hik, u, hu, rfl⟩ := exists_mul_add h
  obtain ⟨i, hi, k, hk, rfl⟩ := exists_mul_add hik
  exact ⟨i, hi, k, hk, u, hu, rfl⟩

/-- The first digit and the two others, which are a number of their own. -/
theorem digits_eq (p r i k u : Nat) : (i * p + k) * r + u = i * (p * r) + (k * r + u) := by
  ring

end Digits

variable {α : Type}

/-! ### Coordinates -/

/-- **Coordinates** of an entry of a threefold product: a row and a column of each factor. -/
structure Coordinates (a b c : Operand α) where
  i : Fin a.rows
  j : Fin a.cols
  k : Fin b.rows
  l : Fin b.cols
  u : Fin c.rows
  v : Fin c.cols

namespace Coordinates

variable {a b c : Operand α}

/-- The row of the product. -/
def row (e : Coordinates a b c) : Nat := (e.i * b.rows + e.k) * c.rows + e.u

/-- The column of the product. -/
def col (e : Coordinates a b c) : Nat := (e.j * b.cols + e.l) * c.cols + e.v

/-- The index of the entry in a packed buffer. -/
def place (e : Coordinates a b c) : Nat := e.col * (a.rows * b.rows * c.rows) + e.row

/-- The entries of the factors that have these coordinates. -/
structure Meets (e : Coordinates a b c) (x y z : α) : Prop where
  left : a.entries[e.j * a.rows + e.i]? = some x
  middle : b.entries[e.l * b.rows + e.k]? = some y
  right : c.entries[e.v * c.rows + e.u]? = some z

theorem row_lt (e : Coordinates a b c) : e.row < a.rows * b.rows * c.rows :=
  digits_lt e.i.isLt e.k.isLt e.u.isLt

theorem col_lt (e : Coordinates a b c) : e.col < a.cols * b.cols * c.cols :=
  digits_lt e.j.isLt e.l.isLt e.v.isLt

/-- **Every index has its coordinates**, and no others. -/
theorem existsUnique_place {t : Nat}
    (h : t < a.rows * b.rows * c.rows * (a.cols * b.cols * c.cols)) :
    ∃! e : Coordinates a b c, e.place = t := by
  rw [Nat.mul_comm] at h
  obtain ⟨col, hcol, row, hrow, rfl⟩ := exists_mul_add h
  obtain ⟨j, hj, l, hl, v, hv, rfl⟩ := exists_digits hcol
  obtain ⟨i, hi, k, hk, u, hu, rfl⟩ := exists_digits hrow
  refine ⟨⟨⟨i, hi⟩, ⟨j, hj⟩, ⟨k, hk⟩, ⟨l, hl⟩, ⟨u, hu⟩, ⟨v, hv⟩⟩, rfl, ?_⟩
  rintro ⟨i', j', k', l', u', v'⟩ heq
  -- the height tells the column from the row
  obtain ⟨hcols, hrows⟩ := mul_add_inj (digits_lt i'.isLt k'.isLt u'.isLt) hrow heq
  obtain ⟨rfl, rfl, rfl⟩ := digits_inj l'.isLt hl v'.isLt hv hcols
  obtain ⟨rfl, rfl, rfl⟩ := digits_inj k'.isLt hk u'.isLt hu hrows
  rfl

end Coordinates

/-! ### Threefold matrices -/

section Matrices

variable [One α] [Mul α] [DecidableEq α] {i j k l u v p q r s : Nat}

theorem scale_of_one_mul {z : α} (h : 1 * z = z) (x : α) : scale x z = x * z := by
  by_cases hx : x = 1
  · rw [hx, scale_one, h]
  · exact scale_of_ne_one hx z

/-- Scaling twice is scaling by the scaled factor. The product of `x` and `y` may be `1` where
neither of them is, and it is then not multiplied by. -/
theorem scale_assoc {x y z : α} (h : x * y * z = x * (y * z)) (hz : 1 * z = z) :
    scale (scale x y) z = scale x (scale y z) := by
  rw [scale_of_one_mul hz, scale_of_one_mul hz]
  -- it is left to compare the two ways of not multiplying by `x`
  by_cases hx : x = 1
  · rw [hx, scale_one, scale_one]
  · rw [scale_of_ne_one hx, scale_of_ne_one hx, h]

variable (x y z : Nat → Nat → α)

/-- An entry of `(x ⊗ y) ⊗ z`. -/
theorem tensor_tensor_left (i j : Nat) (hk : k < p) (hl : l < q) (hu : u < r) (hv : v < s) :
    tensor r s (tensor p q x y) z ((i * p + k) * r + u) ((j * q + l) * s + v) =
      scale (scale (x i j) (y k l)) (z u v) := by
  rw [tensor, blocks_mul_add _ _ _ hu hv, tensor, blocks_mul_add _ _ _ hk hl]

/-- The entry of `x ⊗ (y ⊗ z)` in the same row and column. -/
theorem tensor_tensor_right (i j : Nat) (hk : k < p) (hl : l < q) (hu : u < r) (hv : v < s) :
    tensor (p * r) (q * s) x (tensor r s y z) ((i * p + k) * r + u) ((j * q + l) * s + v) =
      scale (x i j) (scale (y k l) (z u v)) := by
  rw [digits_eq, digits_eq, tensor,
    blocks_mul_add _ _ _ (mul_add_lt_mul hk hu) (mul_add_lt_mul hl hv), tensor,
    blocks_mul_add _ _ _ hu hv]

end Matrices

/-! ### Threefold products -/

section Kernels

variable {a b c p q ab bc : Operand α}

/-- A packed matrix of the size of the threefold product, at an entry with given coordinates. -/
theorem Operand.Packs.getElem?_place {w : Nat → Nat → α} (h : p.Packs w)
    (hrows : p.rows = a.rows * b.rows * c.rows) (hcols : p.cols = a.cols * b.cols * c.cols)
    (e : Coordinates a b c) : p.entries[e.place]? = some (w e.row e.col) := by
  rw [Coordinates.place, ← hrows]
  exact h.holds e.row (hrows ▸ e.row_lt) e.col (hcols ▸ e.col_lt)

variable [One α] [Mul α] [DecidableEq α] {c₁ c₂ c₃ c₄ : Copier}

theorem IsProduct.size_eq (h : IsProduct c₁ a b p) :
    p.entries.size = a.rows * b.rows * (a.cols * b.cols) := by
  obtain ⟨-, -, dst, hdst, hrun⟩ := h
  obtain ⟨_, _, -, hentries⟩ := exists_stores_of_product_eq_ok hrun
  rw [hentries, size_storing, hdst]

/-- The factors of a product that has an entry have all of theirs. -/
theorem IsProduct.exists_holds (h : IsProduct c₁ a b p) (i : Fin a.rows) (j : Fin a.cols)
    (k : Fin b.rows) (l : Fin b.cols) :
    (∃ x, Holds a.entries a.rows a.cols a.rows x) ∧
      ∃ y, Holds b.entries b.rows b.cols b.rows y := by
  obtain ⟨-, -, dst, -, hrun⟩ := h
  obtain ⟨x, y, hxy, -⟩ := exists_stores_of_product_eq_ok hrun
  exact ⟨⟨x, fun row hrow col hcol => (hxy row hrow col hcol k k.isLt l l.isLt).1⟩,
    y, fun row hrow col hcol => (hxy i i.isLt j j.isLt row hrow col hcol).2⟩

/-- The shape of `(a ⊗ b) ⊗ c`. -/
theorem IsProduct.left_shape (hab : IsProduct c₁ a b ab) (hp : IsProduct c₂ ab c p) :
    p.rows = a.rows * b.rows * c.rows ∧ p.cols = a.cols * b.cols * c.cols := by
  rw [hp.rows_eq, hp.cols_eq, hab.rows_eq, hab.cols_eq]
  exact ⟨rfl, rfl⟩

/-- The shape of `a ⊗ (b ⊗ c)`. -/
theorem IsProduct.right_shape (hbc : IsProduct c₁ b c bc) (hq : IsProduct c₂ a bc q) :
    q.rows = a.rows * b.rows * c.rows ∧ q.cols = a.cols * b.cols * c.cols := by
  rw [hq.rows_eq, hq.cols_eq, hbc.rows_eq, hbc.cols_eq, Nat.mul_assoc, Nat.mul_assoc]
  exact ⟨rfl, rfl⟩

/-- The two products, at an entry with given coordinates. -/
theorem exists_threefold_entries (hab : IsProduct c₁ a b ab) (hp : IsProduct c₂ ab c p)
    (hbc : IsProduct c₃ b c bc) (hq : IsProduct c₄ a bc q) (e : Coordinates a b c) :
    ∃ x y z, e.Meets x y z ∧ p.entries[e.place]? = some (scale (scale x y) z) ∧
      q.entries[e.place]? = some (scale x (scale y z)) := by
  obtain ⟨⟨x, hx⟩, y, hy⟩ := hab.exists_holds e.i e.j e.k e.l
  obtain ⟨-, z, hz⟩ := hbc.exists_holds e.k e.l e.u e.v
  -- one row and one column of each factor
  have hmeets : e.Meets (x e.i e.j) (y e.k e.l) (z e.u e.v) :=
    ⟨hx _ e.i.isLt _ e.j.isLt, hy _ e.k.isLt _ e.l.isLt, hz _ e.u.isLt _ e.v.isLt⟩
  have hpPacks := hp.packs (hab.packs hx hy).holds hz
  have hqPacks := hq.packs hx (hbc.packs hy hz).holds
  -- a block of `a ⊗ bc` has the shape of `bc`
  rw [hbc.rows_eq, hbc.cols_eq] at hqPacks
  obtain ⟨hprows, hpcols⟩ := hab.left_shape hp
  obtain ⟨hqrows, hqcols⟩ := hbc.right_shape hq
  refine ⟨_, _, _, hmeets, ?_, ?_⟩
  · rw [hpPacks.getElem?_place hprows hpcols e]
    exact congrArg some
      (tensor_tensor_left x y z e.i e.j e.k.isLt e.l.isLt e.u.isLt e.v.isLt)
  · rw [hqPacks.getElem?_place hqrows hqcols e]
    exact congrArg some
      (tensor_tensor_right x y z e.i e.j e.k.isLt e.l.isLt e.u.isLt e.v.isLt)

/-- **Threefold products.** All of the operands are made in buffers of just their size, by any
copiers: `p` is `(a ⊗ b) ⊗ c`, by way of `ab`, and `q` is `a ⊗ (b ⊗ c)`, by way of `bc`.

The two have one shape and one length, and every index is that of exactly one entry, which has its
coordinates in all three factors. There `p` has `xy` times `z` and `q` has `x` times `yz`, for the
same three entries `x`, `y` and `z`, where `xy` is `x` times `y` and `yz` is `y` times `z`; in all
four of these products the second factor is not multiplied if the first one is `1`. If the
multiplication of these entries is associative, and a one on the left leaves those of `c` as they
are, `p` and `q` are equal. -/
theorem products_associate (hab : IsProduct c₁ a b ab) (hp : IsProduct c₂ ab c p)
    (hbc : IsProduct c₃ b c bc) (hq : IsProduct c₄ a bc q) :
    p.shape = q.shape ∧ p.entries.size = q.entries.size ∧
    (∀ t < p.entries.size, ∃! e : Coordinates a b c, e.place = t) ∧
    (∀ e : Coordinates a b c, ∃ x y z xy yz, e.Meets x y z ∧
      xy = (if x = 1 then y else x * y) ∧ yz = (if y = 1 then z else y * z) ∧
      p.entries[e.place]? = some (if xy = 1 then z else xy * z) ∧
      q.entries[e.place]? = some (if x = 1 then yz else x * yz)) ∧
    ((∀ (e : Coordinates a b c) x y z, e.Meets x y z → x * y * z = x * (y * z) ∧ 1 * z = z) →
      p = q) := by
  obtain ⟨hprows, hpcols⟩ := hab.left_shape hp
  obtain ⟨hqrows, hqcols⟩ := hbc.right_shape hq
  have hrows : p.rows = q.rows := hprows.trans hqrows.symm
  have hcols : p.cols = q.cols := hpcols.trans hqcols.symm
  have hshape : p.shape = q.shape := by rw [Operand.shape, Operand.shape, hrows, hcols]
  have hpsize : p.entries.size = a.rows * b.rows * c.rows * (a.cols * b.cols * c.cols) := by
    rw [hp.size_eq, hab.rows_eq, hab.cols_eq]
  have hsize : p.entries.size = q.entries.size := by
    rw [hpsize, hq.size_eq, ← hq.rows_eq, ← hq.cols_eq, hqrows, hqcols]
  -- the coordinates are the digits of an index
  have hunique : ∀ t < p.entries.size, ∃! e : Coordinates a b c, e.place = t := by
    intro t ht
    rw [hpsize] at ht
    exact Coordinates.existsUnique_place ht
  have hentries := exists_threefold_entries hab hp hbc hq
  refine ⟨hshape, hsize, hunique, fun e => ?_, fun hlaws => ?_⟩
  · obtain ⟨x, y, z, hmeets, hleft, hright⟩ := hentries e
    exact ⟨x, y, z, _, _, hmeets, rfl, rfl, hleft, hright⟩
  -- the laws are asked of the entries that meet, and these are all that the products are made of
  have helements : p.entries = q.entries := by
    refine Array.ext_getElem? fun t => ?_
    by_cases ht : t < p.entries.size
    · obtain ⟨e, rfl, -⟩ := hunique t ht
      obtain ⟨x, y, z, hmeets, hleft, hright⟩ := hentries e
      obtain ⟨hassoc, hone⟩ := hlaws e x y z hmeets
      rw [hleft, hright, scale_assoc hassoc hone]
    · rw [Array.getElem?_eq_none (Nat.not_lt.1 ht),
        Array.getElem?_eq_none (hsize ▸ Nat.not_lt.1 ht)]
  cases p
  cases q
  cases hrows
  cases hcols
  cases helements
  rfl

/-- A column, a row and a column, with a one in each of them, made over other elements. -/
theorem products_associate_column_row_column :
    ∃ a b c ab bc p q : Operand Nat, a = ⟨#[1, 3], 2, 1⟩ ∧ b = ⟨#[5, 1], 1, 2⟩ ∧
      c = ⟨#[1, 7], 2, 1⟩ ∧ IsProduct .portable a b ab ∧ IsProduct (.parallel 0) ab c p ∧
      IsProduct (.parallel 2) b c bc ∧ IsProduct .portable a bc q ∧ p.shape = ⟨4, 2⟩ ∧
      (∃! e : Coordinates a b c, e.place = 7) ∧ p = q := by
  let a : Operand Nat := ⟨#[1, 3], 2, 1⟩
  let b : Operand Nat := ⟨#[5, 1], 1, 2⟩
  let c : Operand Nat := ⟨#[1, 7], 2, 1⟩
  let ab : Operand Nat := ⟨#[5, 15, 1, 3], 2, 2⟩
  let bc : Operand Nat := ⟨#[5, 35, 1, 7], 2, 2⟩
  let p : Operand Nat := ⟨#[5, 35, 15, 105, 1, 7, 3, 21], 4, 2⟩
  have hab : IsProduct .portable a b ab := .of_replicate 9 (by decide +kernel)
  have hp : IsProduct (.parallel 0) ab c p := .of_replicate 8 (by decide +kernel)
  have hbc : IsProduct (.parallel 2) b c bc := .of_replicate 9 (by decide +kernel)
  have hq : IsProduct .portable a bc p := .of_replicate 8 (by decide +kernel)
  obtain ⟨-, -, hunique, -, heq⟩ := products_associate hab hp hbc hq
  exact ⟨a, b, c, ab, bc, p, p, rfl, rfl, rfl, hab, hp, hbc, hq, rfl, hunique 7 (by decide),
    heq fun _ x y z _ => ⟨Nat.mul_assoc x y z, Nat.one_mul z⟩⟩

end Kernels

end DenseKron
