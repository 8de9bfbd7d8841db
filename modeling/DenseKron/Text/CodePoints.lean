/-!
# Sets of code points and white space

A property of characters is a set of code points, and such a set is a list of ranges: each pair
holds the first and the last code point of a range, and the ranges ascend.

The smallest of the properties in this library is `White_Space`. It has characters far outside of
ASCII and leaves out some that look as if they belonged to it, such as the zero-width space. `trim`
takes away what has it at the two ends of a text.
-/

namespace DenseKron.Text

/-- **Set of code points**, as ascending ranges with both ends included. -/
abbrev CodePoints : Type := List (Nat × Nat)

namespace CodePoints

/-- Whether a character belongs to a set. -/
def contains (set : CodePoints) (c : Char) : Bool :=
  set.any fun range => range.1 ≤ c.toNat && c.toNat ≤ range.2

theorem contains_eq_true_iff {set : CodePoints} {c : Char} :
    set.contains c = true ↔ ∃ range ∈ set, range.1 ≤ c.toNat ∧ c.toNat ≤ range.2 := by
  simp [contains, List.any_eq_true]

end CodePoints

/-! ### White space -/

/-- The characters with the property `White_Space`. -/
def blanks : CodePoints :=
  [(0x9, 0xD), (0x20, 0x20), (0x85, 0x85), (0xA0, 0xA0), (0x1680, 0x1680), (0x2000, 0x200A),
    (0x2028, 0x2029), (0x202F, 0x202F), (0x205F, 0x205F), (0x3000, 0x3000)]

/-- Whether a character is white space. -/
def isBlank (c : Char) : Bool := blanks.contains c

/-- The text without the white space at its two ends. -/
def trim (text : List Char) : List Char :=
  ((text.dropWhile isBlank).reverse.dropWhile isBlank).reverse

/-- A text that neither begins nor ends with white space is its own trimmed form. -/
theorem trim_eq_self {text : List Char} (hhead : ∀ c ∈ text.head?, isBlank c = false)
    (hlast : ∀ c ∈ text.getLast?, isBlank c = false) : trim text = text := by
  have hdrop : ∀ l : List Char, (∀ c ∈ l.head?, isBlank c = false) → l.dropWhile isBlank = l := by
    intro l h
    cases l with
    | nil => rfl
    | cons c rest => simp [h c (by simp)]
  rw [trim, hdrop text hhead, hdrop _ (by simpa using hlast), List.reverse_reverse]

end DenseKron.Text
