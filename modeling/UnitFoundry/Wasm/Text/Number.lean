import UnitFoundry.Text.Digits

/-! # Integers of the text format

An integer has an optional sign, an optional mark for base sixteen, and digits that may be grouped
by single underscores. -/

namespace UnitFoundry.Wasm.Text

/-- The value of digits in a base below seventeen, where an underscore may stand between two of
them; `ready` after a digit. -/
def digitsValue? (base : Nat) (value : Nat) (ready : Bool) : List Char → Option Nat
  | [] => if ready then some value else none
  | c :: cs =>
    if c = '_' then if ready then digitsValue? base value false cs else none
    else
      match UnitFoundry.Text.hexDigit? c with
      | some d => if d < base then digitsValue? base (base * value + d) true cs else none
      | none => none

/-- The magnitude that the digits of an integer denote. -/
def magnitude? : List Char → Option Nat
  | '0' :: 'x' :: cs => digitsValue? 16 0 false cs
  | cs => digitsValue? 10 0 false cs

/-- The integer that a word denotes, and whether a minus sign stands in front. -/
def integer? (s : String) : Option (Bool × Nat) :=
  match s.toList with
  | '+' :: cs => (magnitude? cs).map (false, ·)
  | '-' :: cs => (magnitude? cs).map (true, ·)
  | cs => (magnitude? cs).map (false, ·)

/-- The natural number of a width that a word denotes. -/
def naturalOf? (width : Nat) (s : String) : Option Nat :=
  match integer? s with
  | some (false, n) => if n < Nat.pow 2 width then some n else none
  | _ => none

/-- The natural number below `2 ^ 32` that a word denotes. -/
def natural? (s : String) : Option Nat :=
  naturalOf? 32 s

/-- The integer of a width that a word denotes, modulo `2 ^ width`; it may be signed or not. -/
def constant? (width : Nat) (s : String) : Option Nat :=
  match integer? s with
  | some (false, n) => if n < Nat.pow 2 width then some n else none
  | some (true, n) =>
    if n ≤ Nat.pow 2 (width - 1) then some ((Nat.pow 2 width - n) % Nat.pow 2 width) else none
  | none => none

end UnitFoundry.Wasm.Text
