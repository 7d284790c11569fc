import UnitFoundry.Decimal.Binary
import UnitFoundry.Text.Digits

/-! # Decimal numerals of floating-point values

A numeral has an optional sign, digits with an optional point between, before or after them, and
an optional exponent. `inf`, `infinity` and `nan` stand for themselves in any case. The value is
the nearest one of the format. -/

namespace UnitFoundry.Decimal

/-- Why a text is not a numeral. -/
inductive NumeralFault where
  /-- There is no text. -/
  | empty
  /-- The text does not follow the grammar of numerals. -/
  | malformed
deriving DecidableEq, Repr

/-- What the fault says to a reader. -/
def NumeralFault.message : NumeralFault → String
  | .empty => "cannot parse float from empty string"
  | .malformed => "invalid float literal"

/-- Reads an exponent after its mark: an optional sign and at least one digit, up to the end. -/
def readExponent? (cs : List Char) : Option Int :=
  let (negative, digits) :=
    match cs with
    | '-' :: r => (true, r)
    | '+' :: r => (false, r)
    | r => (false, r)
  if digits.isEmpty || !digits.all (Text.digit? · |>.isSome) then none
  else
    let n : Int := Text.digitsValue digits
    some (if negative then -n else n)

/-- Reads an unsigned decimal numeral: its digits without the point, and the power of ten of the
last of them. -/
def readDecimal? (cs : List Char) : Option (List Char × Int) :=
  let (whole, rest) := Text.spanDigits cs
  let (fraction, rest) :=
    match rest with
    | '.' :: r => Text.spanDigits r
    | r => ([], r)
  if whole.isEmpty && fraction.isEmpty then none
  else
    let digits := whole ++ fraction
    let places : Int := fraction.length
    match rest with
    | [] => some (digits, -places)
    | 'e' :: r | 'E' :: r => (readExponent? r).map fun e => (digits, e - places)
    | _ => none

/-- The bits of the magnitude nearest to `digits · 10 ^ exponent`. Exponents that put the value
beyond every finite magnitude, or below half of the least one, are decided without the power. -/
def FloatFormat.ofDecimal (f : FloatFormat) (digits : List Char) (exponent : Int) : Nat :=
  let significant := digits.dropWhile (· == '0')
  let n := Text.digitsValue significant
  let size := (significant.length : Int) + exponent
  if n = 0 then 0
  else if 400 < size then f.infinity
  else if size < -400 then 0
  else if 0 ≤ exponent then f.nearest (n * Nat.pow 10 exponent.toNat) 1
  else f.nearest n (Nat.pow 10 (-exponent).toNat)

/-- Reads a numeral: the bits of the nearest value of the format. -/
def FloatFormat.read (f : FloatFormat) (s : String) : Except NumeralFault Nat :=
  let (sign, cs) :=
    match s.toList with
    | '-' :: r => (f.signBit, r)
    | '+' :: r => (0, r)
    | r => (0, r)
  if s.isEmpty then .error .empty
  else
    match String.ofList (cs.map Char.toLower) with
    | "inf" | "infinity" => .ok (sign + f.infinity)
    | "nan" => .ok (sign + f.notANumber)
    | _ =>
      match readDecimal? cs with
      | some (digits, exponent) => .ok (sign + f.ofDecimal digits exponent)
      | none => .error .malformed

end UnitFoundry.Decimal
