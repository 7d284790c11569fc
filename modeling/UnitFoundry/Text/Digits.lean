/-! # Digits

Decimal and hexadecimal digits, their values, and the digits at the front of a text. -/

namespace UnitFoundry.Text

/-- The value of a decimal digit. -/
def digit? (c : Char) : Option Nat :=
  if '0' ≤ c ∧ c ≤ '9' then some (c.toNat - '0'.toNat) else none

/-- The value of a hexadecimal digit. -/
def hexDigit? (c : Char) : Option Nat :=
  if '0' ≤ c ∧ c ≤ '9' then some (c.toNat - '0'.toNat)
  else if 'a' ≤ c ∧ c ≤ 'f' then some (c.toNat - 'a'.toNat + 10)
  else if 'A' ≤ c ∧ c ≤ 'F' then some (c.toNat - 'A'.toNat + 10)
  else none

/-- The lower-case hexadecimal digits of `n`, without leading zeros. -/
def hexDigits (n : Nat) : List Char :=
  Nat.toDigits 16 n

/-- The two lower-case hexadecimal digits of a number below 256. -/
def hexPair (n : Nat) : List Char :=
  [Nat.digitChar (n / 16), Nat.digitChar (n % 16)]

/-- Splits the decimal digits at the front off. -/
def spanDigits (cs : List Char) : List Char × List Char :=
  (cs.takeWhile (digit? · |>.isSome), cs.dropWhile (digit? · |>.isSome))

/-- The natural number that decimal digits denote. -/
def digitsValue (cs : List Char) : Nat :=
  cs.foldl (fun n c => 10 * n + (digit? c).getD 0) 0

/-- Nothing is lost when the digits are split off. -/
theorem append_spanDigits (cs : List Char) : (spanDigits cs).1 ++ (spanDigits cs).2 = cs := by
  simp [spanDigits, List.takeWhile_append_dropWhile]

end UnitFoundry.Text
