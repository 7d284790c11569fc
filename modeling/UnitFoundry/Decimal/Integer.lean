import UnitFoundry.Text.Digits

/-! # Decimal integers within bounds

`readInteger` reads an optionally signed decimal integer that must lie between two bounds. The
text is judged from left to right: at each digit position a character that is no digit is reported
before the value so far can leave the bounds. -/

namespace UnitFoundry.Decimal

/-- Why a text is not an integer within the bounds. -/
inductive IntegerFault where
  /-- There is no text. -/
  | empty
  /-- A character is not a decimal digit. -/
  | invalidDigit
  /-- The value lies above the upper bound. -/
  | tooLarge
  /-- The value lies below the lower bound. -/
  | tooSmall
deriving DecidableEq, Repr

/-- What the fault says to a reader. -/
def IntegerFault.message : IntegerFault → String
  | .empty => "cannot parse integer from empty string"
  | .invalidDigit => "invalid digit found in string"
  | .tooLarge => "number too large to fit in target type"
  | .tooSmall => "number too small to fit in target type"

/-- Reads the digits after the sign, adding each of them to `acc` upwards. -/
def readUpwards (hi : Int) (acc : Int) : List Char → Except IntegerFault Int
  | [] => .ok acc
  | c :: cs =>
    match Text.digit? c with
    | none => .error .invalidDigit
    | some d =>
      let next := 10 * acc + d
      if next ≤ hi then readUpwards hi next cs else .error .tooLarge

/-- Reads the digits after a minus sign, subtracting each of them from `acc`. -/
def readDownwards (lo : Int) (acc : Int) : List Char → Except IntegerFault Int
  | [] => .ok acc
  | c :: cs =>
    match Text.digit? c with
    | none => .error .invalidDigit
    | some d =>
      let next := 10 * acc - d
      if lo ≤ next then readDownwards lo next cs else .error .tooSmall

/-- Reads an integer between `lo` and `hi`; a sign needs a digit after it. -/
def readInteger (lo hi : Int) (s : String) : Except IntegerFault Int :=
  match s.toList with
  | [] => .error .empty
  | ['+'] | ['-'] => .error .invalidDigit
  | '+' :: cs => readUpwards hi 0 cs
  | '-' :: cs => readDownwards lo 0 cs
  | cs => readUpwards hi 0 cs

end UnitFoundry.Decimal
