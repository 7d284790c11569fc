import UnitFoundry.Json.Basic
import UnitFoundry.Text.Digits

/-! # Printing JSON

`Value.pretty` writes a value over many lines: each item and each member on a line of its own,
indented by two more spaces than what encloses it, and nothing between the brackets of an empty
array or object. In strings only quotes, backslashes and control characters are escaped. -/

namespace UnitFoundry.Json

/-- A character inside a string. -/
def escape (c : Char) : List Char :=
  match c with
  | '"' => ['\\', '"']
  | '\\' => ['\\', '\\']
  | '\n' => ['\\', 'n']
  | '\r' => ['\\', 'r']
  | '\t' => ['\\', 't']
  | '\x08' => ['\\', 'b']
  | '\x0c' => ['\\', 'f']
  | c =>
    if c.toNat < 0x20 then
      let digits := Text.hexDigits c.toNat
      ['\\', 'u'] ++ List.replicate (4 - digits.length) '0' ++ digits
    else [c]

/-- A text as a string. -/
def quote (s : String) : String :=
  "\"" ++ String.ofList (s.toList.flatMap escape) ++ "\""

/-- A string, an empty one if it has no text. -/
def quoteOption (t : Option String) : String :=
  quote (t.getD "")

/-- The start of a line at a depth. -/
def newLine (depth : Nat) : String :=
  "\n" ++ String.ofList (List.replicate (2 * depth) ' ')

/-- Lines inside brackets, separated by commas. -/
def enclose (opening closing : String) (depth : Nat) (lines : List String) : String :=
  if lines.isEmpty then opening ++ closing
  else
    opening ++ ",".intercalate (lines.map (newLine (depth + 1) ++ ·)) ++ newLine depth ++ closing

mutual

/-- A value at a depth. -/
def Value.render (depth : Nat) : Value → String
  | .null => "null"
  | .bool b => if b then "true" else "false"
  | .number digits => String.ofList digits
  | .string t => quoteOption t
  | .array items => enclose "[" "]" depth (Value.renderItems (depth + 1) items)
  | .object members => enclose "\x7b" "\x7d" depth (Value.renderMembers (depth + 1) members)

/-- The items of an array at a depth. -/
def Value.renderItems (depth : Nat) : List Value → List String
  | [] => []
  | v :: vs => v.render depth :: Value.renderItems depth vs

/-- The members of an object at a depth. -/
def Value.renderMembers (depth : Nat) : List (Option String × Value) → List String
  | [] => []
  | (key, v) :: ms =>
    (quoteOption key ++ ": " ++ v.render depth) :: Value.renderMembers depth ms

end

/-- A value over many lines. -/
def Value.pretty (v : Value) : String :=
  v.render 0

/-- An object of members with the given keys. -/
def Value.ofMembers (members : List (String × Value)) : Value :=
  .object (members.map fun (key, v) => (some key, v))

/-- The string of a text. -/
def Value.ofText (s : String) : Value :=
  .string (some s)

end UnitFoundry.Json
