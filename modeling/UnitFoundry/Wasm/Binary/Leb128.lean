import UnitFoundry.Wasm.Fault

/-! # Variable-length integers

An integer is written in groups of seven bits, the lowest first; every byte but the last has its
high bit set. A signed integer continues its sign beyond the last group. Reading refuses bits
beyond the width. -/

namespace UnitFoundry.Wasm.Binary

/-- Reads an unsigned integer of `width` bits. -/
def readUnsigned (width : Nat) : List UInt8 → Except BinaryFault (Nat × List UInt8)
  | [] => .error .truncated
  | b :: bs =>
    let n := b.toNat
    if n < 128 then
      if n < Nat.pow 2 width then .ok (n, bs) else .error .badNumber
    else if width ≤ 7 then .error .badNumber
    else do
      let (high, rest) ← readUnsigned (width - 7) bs
      return (n - 128 + 128 * high, rest)

/-- Reads a signed integer of `width` bits. -/
def readSigned (width : Nat) : List UInt8 → Except BinaryFault (Int × List UInt8)
  | [] => .error .truncated
  | b :: bs =>
    let n := b.toNat
    if n < 128 then
      let value : Int := if n < 64 then n else (n : Int) - 128
      let bound : Int := Nat.pow 2 (width - 1)
      if -bound ≤ value ∧ value < bound then .ok (value, bs) else .error .badNumber
    else if width ≤ 7 then .error .badNumber
    else do
      let (high, rest) ← readSigned (width - 7) bs
      return ((n : Int) - 128 + 128 * high, rest)

/-- Writes a natural number. -/
def writeUnsigned (n : Nat) : List UInt8 :=
  if n < 128 then [UInt8.ofNat n]
  else UInt8.ofNat (n % 128 + 128) :: writeUnsigned (n / 128)
termination_by n
decreasing_by omega

/-- Writes an integer. -/
def writeSigned (i : Int) : List UInt8 :=
  if -64 ≤ i ∧ i < 64 then [UInt8.ofNat (i % 128).toNat]
  else UInt8.ofNat ((i % 128).toNat + 128) :: writeSigned (i / 128)
termination_by i.natAbs
decreasing_by omega

end UnitFoundry.Wasm.Binary
