import DenseKron.Text.Printable

/-!
# Values in text form

How the values that this library reports are shown.

* A *text* stands between double quotes, and every character in it can be seen: quotes and
  backslashes are escaped, the common control characters have escapes of one letter, and any other
  character that is not printable is given by its code point in braces.
* A *record* is its type's name and its fields in braces, as in `Point { x: 1, y: 2 }`, and a
  *tuple* its values in parentheses.
* In a *column* a text is moved to the right edge by spaces in front of it. One that is as wide as
  the column, or wider, stays as it is.
-/

namespace DenseKron.Text

/-! ### Quoted texts -/

/-- The digits of a number in base 16, lower case. -/
def hex (n : Nat) : String := String.ofList (Nat.toDigits 16 n)

/-- One character of a quoted text. -/
def escape (c : Char) : String :=
  match c with
  | '\x00' => "\\0"
  | '\t' => "\\t"
  | '\r' => "\\r"
  | '\n' => "\\n"
  | '\\' => "\\\\"
  | '"' => "\\\""
  | _ => if isPrintable c then c.toString else "\\u\x7b" ++ hex c.toNat ++ "\x7d"

/-- **Quoted text.** -/
def quoted (text : String) : String :=
  "\"" ++ String.join (text.toList.map escape) ++ "\""

/-! ### Records, tuples and columns -/

/-- The text of a record with at least one field. The values are in text form already. -/
def record (name : String) (fields : List (String × String)) : String :=
  let shown := fields.map fun field => field.1 ++ ": " ++ field.2
  name ++ " \x7b " ++ ", ".intercalate shown ++ " \x7d"

/-- The text of a tuple. -/
def tuple (values : List String) : String := "(" ++ ", ".intercalate values ++ ")"

/-- A text at the right edge of a column of `width` characters. -/
def padLeft (width : Nat) (text : String) : String :=
  String.ofList (List.replicate (width - text.length) ' ') ++ text

end DenseKron.Text
