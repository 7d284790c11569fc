import UnitFoundry.Text.Digits
import UnitFoundry.Text.Printable

/-! # Quoted text

A quoted text stands between double quotes. The usual control characters, the backslash and the
quote are written with a backslash, and a character that would not show as itself is written by
its code point. -/

namespace UnitFoundry.Text

/-- How a character is written between double quotes. -/
def escape (c : Char) : List Char :=
  match c with
  | '\x00' => ['\\', '0']
  | '\t' => ['\\', 't']
  | '\r' => ['\\', 'r']
  | '\n' => ['\\', 'n']
  | '\\' => ['\\', '\\']
  | '"' => ['\\', '"']
  | c => if isPrintable c then [c] else ['\\', 'u', '\x7b'] ++ hexDigits c.toNat ++ ['\x7d']

/-- A text between double quotes. -/
def quoted (s : String) : String :=
  String.ofList ('"' :: s.toList.flatMap escape ++ ['"'])

/-- A list of already written items between square brackets. -/
def bracketed (items : List String) : String :=
  "[" ++ ", ".intercalate items ++ "]"

end UnitFoundry.Text
