/-! # Binary floating-point formats

A finite magnitude of a format is `significand · 2 ^ exponent`. Its bits, read as a number, grow
with the magnitude, so `FloatFormat.nearest` can round a positive quotient to the nearest
magnitude by one division: a significand that rounds up to the next power of two carries into the
exponent field by itself. -/

namespace UnitFoundry.Decimal

/-- The widths of the fields of a binary interchange format. -/
structure FloatFormat where
  /-- The number of bits of the fraction field. -/
  fractionBits : Nat
  /-- The number of bits of the exponent field. -/
  exponentBits : Nat
deriving DecidableEq, Repr

namespace FloatFormat

/-- The 32-bit format. -/
def single : FloatFormat := ⟨23, 8⟩

/-- The 64-bit format. -/
def double : FloatFormat := ⟨52, 11⟩

/-- The exponent of the least positive magnitude. -/
def leastExponent (f : FloatFormat) : Int :=
  2 - Nat.pow 2 (f.exponentBits - 1) - f.fractionBits

/-- The bits of infinity. -/
def infinity (f : FloatFormat) : Nat :=
  (Nat.pow 2 f.exponentBits - 1) * Nat.pow 2 f.fractionBits

/-- The bits of the sign. -/
def signBit (f : FloatFormat) : Nat :=
  Nat.pow 2 (f.fractionBits + f.exponentBits)

/-- The bits of a quiet value that is not a number. -/
def notANumber (f : FloatFormat) : Nat :=
  f.infinity + Nat.pow 2 (f.fractionBits - 1)

/-- The significand and the exponent of a finite magnitude given by its bits. -/
def magnitude (f : FloatFormat) (bits : Nat) : Nat × Int :=
  let field := bits / Nat.pow 2 f.fractionBits
  let fraction := bits % Nat.pow 2 f.fractionBits
  if field = 0 then (fraction, f.leastExponent)
  else (Nat.pow 2 f.fractionBits + fraction, f.leastExponent + (field - 1 : Nat))

end FloatFormat

/-- The quotient rounded to the nearest natural number, a half going to the even neighbour. -/
def roundHalfEven (num den : Nat) : Nat :=
  let q := num / den
  let r := num % den
  if 2 * r < den then q
  else if den < 2 * r then q + 1
  else q + q % 2

/-- The natural number `n · 2 ^ e` over a power of two: numerator and denominator. -/
def scaleByTwo (n : Nat) (e : Int) : Nat × Nat :=
  if 0 ≤ e then (n * Nat.pow 2 e.toNat, 1) else (n, Nat.pow 2 (-e).toNat)

/-- The greatest `e` with `2 ^ e ≤ num / den`, for positive `num` and `den`. -/
def floorLog2 (num den : Nat) : Int :=
  let e : Int := (num.log2 : Int) - den.log2
  let (n, d) := scaleByTwo 1 e
  if den * n ≤ num * d then e else e - 1

/-- The bits of the magnitude nearest to `num / den`, a tie going to the even significand and what
is too large to infinity. -/
def FloatFormat.nearest (f : FloatFormat) (num den : Nat) : Nat :=
  if num = 0 then 0
  else
    let e := max (floorLog2 num den - f.fractionBits) f.leastExponent
    let (n, d) := scaleByTwo 1 e
    let significand := roundHalfEven (num * d) (den * n)
    min ((e - f.leastExponent).toNat * Nat.pow 2 f.fractionBits + significand) f.infinity

end UnitFoundry.Decimal
