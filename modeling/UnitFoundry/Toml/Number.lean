import UnitFoundry.Decimal.Numeral
import UnitFoundry.Toml.Text
import UnitFoundry.Toml.Value

/-! # Numbers and times of TOML

Digits may be grouped by single underscores between them. Integers have 64 bits; a floating-point
number may not exceed the finite ones. Dates must exist, and a minute may have a leap second. -/

namespace UnitFoundry.Toml

/-! ## Digits -/

/-- Reads digits with underscores between them, if there is a digit in front. -/
def readDigits (isDigit : Char → Bool) : Reader (List Char)
  | [] => none
  | c :: cs => if isDigit c then some (c :: (more cs).1, (more cs).2) else none
where
  /-- The digits that follow a digit, each perhaps after an underscore. -/
  more : List Char → List Char × List Char
    | '_' :: d :: cs =>
      if isDigit d then (d :: (more cs).1, (more cs).2) else ([], '_' :: d :: cs)
    | c :: cs => if isDigit c then (c :: (more cs).1, (more cs).2) else ([], c :: cs)
    | [] => ([], [])

/-- Whether a character is a decimal digit. -/
def isDecimal (c : Char) : Bool :=
  (Text.digit? c).isSome

/-- Whether a character is a digit of a base up to sixteen. -/
def isDigitOf (base : Nat) (c : Char) : Bool :=
  match Text.hexDigit? c with
  | some d => d < base
  | none => false

/-- Splits a sign off. -/
def splitSign : List Char → List Char × List Char
  | '+' :: cs => (['+'], cs)
  | '-' :: cs => (['-'], cs)
  | cs => ([], cs)

/-- Reads the digits of a decimal number: a zero, or digits that do not begin with one. -/
def readDecimalDigits : Reader (List Char)
  | '0' :: cs => some (['0'], cs)
  | cs => readDigits isDecimal cs

/-! ## Numbers -/

/-- The number that digits denote in a base. -/
def digitsValue (base : Nat) (ds : List Char) : Nat :=
  ds.foldl (fun n c => base * n + (Text.hexDigit? c).getD 0) 0

/-- An integer, if it has at most 64 bits. -/
def int64? (n : Int) : Option Value :=
  if -0x8000000000000000 ≤ n ∧ n < 0x8000000000000000 then some (.integer n) else none

/-- Reads an integer in a base that its mark gives, after the mark. -/
def readBased (base : Nat) : Reader Value := fun cs => do
  let (ds, cs) ← readDigits (isDigitOf base) cs
  return (← int64? (digitsValue base ds), cs)

/-- Reads an integer. -/
def readInteger : Reader Value
  | '0' :: 'x' :: cs => readBased 16 cs
  | '0' :: 'o' :: cs => readBased 8 cs
  | '0' :: 'b' :: cs => readBased 2 cs
  | cs => do
    let (sign, cs) := splitSign cs
    let (ds, cs) ← readDecimalDigits cs
    let n : Int := digitsValue 10 ds
    return (← int64? (if sign = ['-'] then -n else n), cs)

/-- Reads the point and the digits after it. -/
def readFraction : Reader (List Char)
  | '.' :: cs => do
    let (ds, cs) ← readDigits isDecimal cs
    return ('.' :: ds, cs)
  | _ => none

/-- Reads an exponent. -/
def readExponent : Reader (List Char)
  | c :: cs =>
    if c = 'e' ∨ c = 'E' then do
      let (sign, cs) := splitSign cs
      let (ds, cs) ← readDigits isDecimal cs
      return ('e' :: sign ++ ds, cs)
    else none
  | [] => none

/-- Reads what makes digits a floating-point number: a fraction, an exponent or both. -/
def readFloatEnd : Reader (List Char) := fun cs =>
  match readFraction cs with
  | none => readExponent cs
  | some (fraction, cs) =>
    match readExponent cs with
    | none => some (fraction, cs)
    | some (exponent, cs) => some (fraction ++ exponent, cs)

/-- Reads a floating-point number of digits. -/
def readDecimalFloat : Reader Value := fun cs => do
  let (sign, cs) := splitSign cs
  let (whole, cs) ← readDecimalDigits cs
  let (rest, cs) ← readFloatEnd cs
  let bits ← (Decimal.FloatFormat.double.read (String.ofList (sign ++ whole ++ rest))).toOption
  if bits = Decimal.FloatFormat.double.infinity then none
  return (.float bits, cs)

/-- Reads the name of an infinite value or of no value. -/
def readNamedFloat : Reader Value := fun cs =>
  let f := Decimal.FloatFormat.double
  let (sign, cs) := splitSign cs
  let signed (bits : Nat) := Value.float (if sign = ['-'] then f.signBit + bits else bits)
  match cs with
  | 'i' :: 'n' :: 'f' :: cs => some (signed f.infinity, cs)
  | 'n' :: 'a' :: 'n' :: cs => some (signed f.notANumber, cs)
  | _ => none

/-! ## Dates and times -/

/-- Reads a number of so many digits between two bounds. -/
def readFixed (width lo hi : Nat) : Reader Nat := fun cs =>
  let ds := cs.take width
  let n := Text.digitsValue ds
  if ds.length = width ∧ ds.all isDecimal ∧ lo ≤ n ∧ n ≤ hi then some (n, cs.drop width) else none

/-- Reads one character. -/
def readChar (c : Char) : Reader Unit
  | d :: cs => if d = c then some ((), cs) else none
  | [] => none

/-- Whether a year has a leap day. -/
def isLeapYear (year : Nat) : Bool :=
  year % 4 = 0 && (year % 100 ≠ 0 || year % 400 = 0)

/-- The number of days of a month. -/
def daysOf (year month : Nat) : Nat :=
  if month = 2 then if isLeapYear year then 29 else 28
  else if [4, 6, 9, 11].contains month then 30
  else 31

/-- Removes a date in front. -/
def skipDate? (cs : List Char) : Option (List Char) := do
  let (year, cs) ← readFixed 4 0 9999 cs
  let (_, cs) ← readChar '-' cs
  let (month, cs) ← readFixed 2 1 12 cs
  let (_, cs) ← readChar '-' cs
  let (_, cs) ← readFixed 2 1 (daysOf year month) cs
  return cs

/-- Removes a fraction of a second in front, if there is one. -/
def skipSecondFraction : List Char → List Char
  | '.' :: cs => if (cs.takeWhile isDecimal).isEmpty then '.' :: cs else cs.dropWhile isDecimal
  | cs => cs

/-- Removes a time in front. -/
def skipTime? (cs : List Char) : Option (List Char) := do
  let (_, cs) ← readFixed 2 0 23 cs
  let (_, cs) ← readChar ':' cs
  let (_, cs) ← readFixed 2 0 59 cs
  let (_, cs) ← readChar ':' cs
  let (_, cs) ← readFixed 2 0 60 cs
  return skipSecondFraction cs

/-- Removes the hours and minutes of an offset in front. -/
def skipOffset? (cs : List Char) : Option (List Char) := do
  let (_, cs) ← readFixed 2 0 23 cs
  let (_, cs) ← readChar ':' cs
  let (_, cs) ← readFixed 2 0 59 cs
  return cs

/-- Removes an offset in front, if there is one. -/
def skipOffset (cs : List Char) : List Char :=
  match cs with
  | c :: rest =>
    if c = 'Z' ∨ c = 'z' then rest
    else if c = '+' ∨ c = '-' then (skipOffset? rest).getD cs
    else cs
  | [] => []

/-- Removes the time and the offset that follow a date, if they do. -/
def skipTimeOfDay (cs : List Char) : List Char :=
  match cs with
  | c :: rest =>
    if c = 'T' ∨ c = 't' ∨ c = ' ' then
      match skipTime? rest with
      | some rest => skipOffset rest
      | none => cs
    else cs
  | [] => []

/-- Reads a date, a time or both. -/
def readDatetime : Reader Value := fun cs => do
  let rest ←
    match skipDate? cs with
    | some rest => some (skipTimeOfDay rest)
    | none => skipTime? cs
  return (.datetime (String.ofList (cs.take (cs.length - rest.length))), rest)

end UnitFoundry.Toml
