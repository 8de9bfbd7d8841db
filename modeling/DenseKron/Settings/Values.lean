import DenseKron.BlockCopy.Copier
import DenseKron.Error
import DenseKron.Text.LowerCase

/-!
# The values of settings

Two things can be set by a text. White space around it does not count.

* A **backend** is a family of copiers that can be chosen by name. A name is read without regard to
  the case of its letters; one that is not known is reported in the form in which it was compared.
* A **threshold** is a positive decimal number, with an optional plus sign and any number of leading
  zeros. Digits are the ten ASCII digits. A number that does not fit a machine word is not a
  threshold, and neither is zero.
-/

namespace DenseKron

/-! ### Backends -/

/-- **Backend.** Which copier the kernels are given. -/
inductive Backend where
  | portable
  | parallel
  deriving DecidableEq, Repr

namespace Backend

instance : Inhabited Backend := ⟨.portable⟩

/-- The name of a backend in a configuration. -/
def name : Backend → String
  | portable => "portable"
  | parallel => "parallel"

/-- The name of a backend in the log. -/
def label : Backend → String
  | portable => "Portable"
  | parallel => "Parallel"

/-- The form in which names are compared: without white space at its ends, in lower case. -/
def canonical (text : String) : List Char := Text.lower (Text.trim text.toList)

/-- **Reading a backend.** -/
def parse (text : String) : Except Error Backend :=
  let form := canonical text
  if form = portable.name.toList then .ok portable
  else if form = parallel.name.toList then .ok parallel
  else .error (.invalid (.unknownBackend (String.ofList form)))

end Backend

/-! ### Thresholds -/

namespace Threshold

/-- Whether a character is one of the ten digits. -/
def isDigit (c : Char) : Bool := '0' ≤ c && c ≤ '9'

/-- The value of a list of digits. -/
def value (digits : List Char) : Nat := digits.foldl (fun n c => 10 * n + (c.toNat - '0'.toNat)) 0

/-- The text behind an optional plus sign. -/
def unsigned : List Char → List Char
  | '+' :: rest => rest
  | text => text

/-- The size that a text without white space denotes, if it denotes one. -/
def size? (text : List Char) : Option Nat :=
  let digits := unsigned text
  if digits ≠ [] ∧ digits.all isDigit ∧ value digits < Size.limit then some (value digits) else none

/-- **Reading a threshold.** -/
def parse? (text : String) : Option Nat := (size? (Text.trim text.toList)).filter (0 < ·)

end Threshold

end DenseKron
