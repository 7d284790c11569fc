import UnitFoundry.Decimal.Binary

/-! # The shortest digits that read back

A finite magnitude is the nearest one to every real in an interval around it, whose ends belong to
it when the significand is even. The shortest decimal in that interval is found by trying the
decimal grids from the coarsest to the finest: on each grid only the two neighbours of the
magnitude can be the nearest point of the interval. -/

namespace UnitFoundry.Decimal

/-- A decimal `digits · 10 ^ exponent`. -/
structure Scaled where
  /-- The digits, as a natural number. -/
  digits : Nat
  /-- The power of ten of the last digit. -/
  exponent : Int
deriving DecidableEq, Repr

/-- The reals that round to a magnitude, as quotients over one denominator. -/
structure Rounding where
  /-- The numerator of the lower end. -/
  low : Nat
  /-- The numerator of the magnitude. -/
  value : Nat
  /-- The numerator of the upper end. -/
  high : Nat
  /-- The common denominator. -/
  den : Nat
  /-- Whether the ends belong to the interval. -/
  closed : Bool

/-- The interval of a positive finite magnitude. Below a power of two the neighbours lie at half
the distance. -/
def FloatFormat.rounding (f : FloatFormat) (bits : Nat) : Rounding :=
  let (m, q) := f.magnitude bits
  let narrow := m == Nat.pow 2 f.fractionBits && f.leastExponent < q
  let (n, d) := scaleByTwo 1 (q - 2)
  { low := (if narrow then 4 * m - 1 else 4 * m - 2) * n
    value := 4 * m * n
    high := (4 * m + 2) * n
    den := d
    closed := m % 2 == 0 }

/-- Whether `num / den` lies in the interval, for a numerator over the interval's denominator
times `scale`. -/
def Rounding.contains (r : Rounding) (scale num : Nat) : Bool :=
  if r.closed then r.low * scale ≤ num && num ≤ r.high * scale
  else r.low * scale < num && num < r.high * scale

/-- The point of the grid of multiples of `10 ^ g` that lies in the interval and is nearest to the
magnitude; of two equally near ones the greater. -/
def Rounding.onGrid? (r : Rounding) (g : Int) : Option Nat :=
  -- a grid point `k` is `k · step` over the denominator `r.den · scale`
  let scale := if g < 0 then Nat.pow 10 (-g).toNat else 1
  let step := (if 0 ≤ g then Nat.pow 10 g.toNat else 1) * r.den
  let below := r.value * scale / step
  let above := below + 1
  match r.contains scale (below * step), r.contains scale (above * step) with
  | true, true =>
    if r.value * scale - below * step < above * step - r.value * scale then some below
    else some above
  | true, false => some below
  | false, true => some above
  | false, false => none

/-- The first grid with a point in the interval, among `count` grids from `10 ^ g` downwards. -/
def Rounding.firstOnGrids? (r : Rounding) (g : Int) : Nat → Option Scaled
  | 0 => none
  | count + 1 =>
    match r.onGrid? g with
    | some k => some ⟨k, g⟩
    | none => r.firstOnGrids? (g - 1) count

/-- Takes the zeros off the end of the digits. -/
def Scaled.normalize (s : Scaled) : Scaled :=
  if h : s.digits ≠ 0 ∧ s.digits % 10 = 0 then
    Scaled.normalize ⟨s.digits / 10, s.exponent + 1⟩
  else s
termination_by s.digits
decreasing_by omega

/-- A power of ten above `num / den`: an upper bound for the first grid to be tried. -/
def gridAbove (num den : Nat) : Int :=
  -- three binary digits make less than one decimal digit
  if den ≤ num then ((Nat.toDigits 10 (num / den)).length : Int)
  else 1 - ((Nat.toDigits 10 (den / num)).length : Int)

/-- The shortest decimal that is nearest to no other magnitude than that of `bits`, and of those
the one nearest to it. -/
def FloatFormat.shortest (f : FloatFormat) (bits : Nat) : Scaled :=
  let r := f.rounding bits
  ((r.firstOnGrids? (gridAbove r.value r.den) (f.fractionBits + 3)).getD ⟨0, 0⟩).normalize

/-- A decimal in positional notation, without an exponent and without zeros that say nothing. -/
def Scaled.positional (s : Scaled) : String :=
  let ds := Nat.toDigits 10 s.digits
  if 0 ≤ s.exponent then String.ofList (ds ++ List.replicate s.exponent.toNat '0')
  else
    let places := (-s.exponent).toNat
    let padded := List.replicate (places + 1 - ds.length) '0' ++ ds
    let point := padded.length - places
    String.ofList (padded.take point ++ '.' :: padded.drop point)

/-- The text of the value with these bits: the shortest digits that read back, in positional
notation, with the sign of a negative zero kept. -/
def FloatFormat.toText (f : FloatFormat) (bits : Nat) : String :=
  let negative := f.signBit ≤ bits
  let m := bits % f.signBit
  if f.infinity < m then "NaN"
  else
    let text :=
      if m = f.infinity then "inf"
      else if m = 0 then "0"
      else (f.shortest m).positional
    if negative then "-" ++ text else text

end UnitFoundry.Decimal
