import UnitFoundry.Json.Basic
import UnitFoundry.Text.Digits

/-! # Reading JSON

The readers take characters from the front and return the rest. Nesting may go to any depth; the
number of characters bounds it. -/

namespace UnitFoundry.Json

/-- A reader that takes characters from the front. -/
abbrev Reader (α : Type) : Type := List Char → Option (α × List Char)

/-- Whether a character may stand between tokens. -/
def isSpace (c : Char) : Bool :=
  c == ' ' || c == '\t' || c == '\n' || c == '\r'

/-- Removes the spaces in front. -/
def skipSpace (cs : List Char) : List Char :=
  cs.dropWhile isSpace

/-! ## Strings -/

/-- A part of a string: a character, or an escaped half of a surrogate pair. -/
inductive Piece where
  /-- A character. -/
  | char (c : Char)
  /-- A half of a surrogate pair. -/
  | half (unit : Nat)
deriving DecidableEq, Repr

/-- Whether a code unit is the first half of a surrogate pair. -/
def isHighHalf (n : Nat) : Bool := 0xD800 ≤ n && n < 0xDC00

/-- Whether a code unit is the second half of a surrogate pair. -/
def isLowHalf (n : Nat) : Bool := 0xDC00 ≤ n && n < 0xE000

/-- The characters of the pieces, if no half stands alone. -/
def joinPieces : List Piece → Option (List Char)
  | [] => some []
  | .char c :: ps => (joinPieces ps).map (c :: ·)
  | .half h :: .half l :: ps =>
    if isHighHalf h && isLowHalf l then
      (joinPieces ps).map (Char.ofNat (0x10000 + (h - 0xD800) * 0x400 + (l - 0xDC00)) :: ·)
    else none
  | .half _ :: _ => none

/-- The code unit that four hexadecimal digits give. -/
def codeUnit? (a b c d : Char) : Option Nat := do
  return (((← Text.hexDigit? a) * 16 + (← Text.hexDigit? b)) * 16 + (← Text.hexDigit? c)) * 16 +
    (← Text.hexDigit? d)

/-- The piece that a code unit gives. -/
def Piece.ofUnit (n : Nat) : Piece :=
  if isHighHalf n || isLowHalf n then .half n else .char (Char.ofNat n)

/-- The character that a one-letter escape stands for. -/
def simpleEscape? : Char → Option Char
  | '"' => some '"'
  | '\\' => some '\\'
  | '/' => some '/'
  | 'b' => some '\x08'
  | 'f' => some '\x0c'
  | 'n' => some '\n'
  | 'r' => some '\r'
  | 't' => some '\t'
  | _ => none

/-- Reads the pieces of a string after its opening quote, up to its closing quote. -/
def readPieces : Reader (List Piece)
  | [] => none
  | '"' :: cs => some ([], cs)
  | '\\' :: 'u' :: a :: b :: c :: d :: cs => do
    let n ← codeUnit? a b c d
    let (ps, cs) ← readPieces cs
    return (Piece.ofUnit n :: ps, cs)
  | '\\' :: c :: cs => do
    let e ← simpleEscape? c
    let (ps, cs) ← readPieces cs
    return (.char e :: ps, cs)
  | '\\' :: [] => none
  | c :: cs =>
    if c.toNat < 0x20 then none
    else do
      let (ps, cs) ← readPieces cs
      return (.char c :: ps, cs)

/-- Reads a string after its opening quote: its text, if it has one. -/
def readText : Reader (Option String) := fun cs => do
  let (ps, cs) ← readPieces cs
  return ((joinPieces ps).map String.ofList, cs)

/-! ## Numbers and names -/

/-- Reads the digits before the point: a zero, or digits that do not start with one. -/
def readWhole : Reader (List Char) := fun cs =>
  match Text.spanDigits cs with
  | (['0'], rest) => some (['0'], rest)
  | ([], _) | ('0' :: _, _) => none
  | (ds, rest) => some (ds, rest)

/-- Reads the point and the digits after it, if there is a point. -/
def readFraction : Reader (List Char)
  | '.' :: cs =>
    match Text.spanDigits cs with
    | ([], _) => none
    | (ds, rest) => some ('.' :: ds, rest)
  | cs => some ([], cs)

/-- Reads the sign and the digits of an exponent after its mark. -/
def readExponentDigits (mark : Char) (cs : List Char) : Option (List Char × List Char) :=
  let (sign, cs) :=
    match cs with
    | '+' :: r => (['+'], r)
    | '-' :: r => (['-'], r)
    | r => ([], r)
  match Text.spanDigits cs with
  | ([], _) => none
  | (ds, rest) => some (mark :: sign ++ ds, rest)

/-- Reads an exponent, if there is one. -/
def readExponent : Reader (List Char)
  | 'e' :: cs => readExponentDigits 'e' cs
  | 'E' :: cs => readExponentDigits 'E' cs
  | cs => some ([], cs)

/-- Reads a number. -/
def readNumber : Reader (List Char) := fun cs => do
  let (sign, cs) :=
    match cs with
    | '-' :: r => (['-'], r)
    | r => ([], r)
  let (whole, cs) ← readWhole cs
  let (fraction, cs) ← readFraction cs
  let (exponent, cs) ← readExponent cs
  return (sign ++ whole ++ fraction ++ exponent, cs)

/-- Reads the given characters. -/
def readExactly : List Char → Reader Unit
  | [], cs => some ((), cs)
  | _ :: _, [] => none
  | x :: xs, c :: cs => if x = c then readExactly xs cs else none

/-! ## Values -/

mutual

/-- Reads a value, with at most `n` further values inside it or after it. -/
def readValue : Nat → Reader Value
  | 0, _ => none
  | n + 1, cs =>
    match skipSpace cs with
    | 'n' :: cs => do return (.null, (← readExactly ['u', 'l', 'l'] cs).2)
    | 't' :: cs => do return (.bool true, (← readExactly ['r', 'u', 'e'] cs).2)
    | 'f' :: cs => do return (.bool false, (← readExactly ['a', 'l', 's', 'e'] cs).2)
    | '"' :: cs => do
      let (t, cs) ← readText cs
      return (.string t, cs)
    | '[' :: cs =>
      match skipSpace cs with
      | ']' :: cs => some (.array [], cs)
      | cs => do
        let (items, cs) ← readItems n cs
        return (.array items, cs)
    | '\x7b' :: cs =>
      match skipSpace cs with
      | '\x7d' :: cs => some (.object [], cs)
      | cs => do
        let (members, cs) ← readMembers n cs
        return (.object members, cs)
    | cs => do
      let (digits, cs) ← readNumber cs
      return (.number digits, cs)

/-- Reads the items of an array, up to its end. -/
def readItems : Nat → Reader (List Value)
  | 0, _ => none
  | n + 1, cs => do
    let (j, cs) ← readValue n cs
    match skipSpace cs with
    | ',' :: cs =>
      let (js, cs) ← readItems n cs
      return (j :: js, cs)
    | ']' :: cs => return ([j], cs)
    | _ => none

/-- Reads the members of an object, up to its end. -/
def readMembers : Nat → Reader (List (Option String × Value))
  | 0, _ => none
  | n + 1, cs =>
    match skipSpace cs with
    | '"' :: cs => do
      let (key, cs) ← readText cs
      match skipSpace cs with
      | ':' :: cs =>
        let (j, cs) ← readValue n cs
        match skipSpace cs with
        | ',' :: cs =>
          let (ms, cs) ← readMembers n cs
          return ((key, j) :: ms, cs)
        | '\x7d' :: cs => return ([(key, j)], cs)
        | _ => none
      | _ => none
    | _ => none

end

/-- Reads a text that holds one value and spaces. Every step takes a character, so twice their
number bounds the steps. -/
def read? (cs : List Char) : Option Value :=
  match readValue (2 * cs.length + 1) cs with
  | some (j, rest) => if (skipSpace rest).isEmpty then some j else none
  | none => none

end UnitFoundry.Json
