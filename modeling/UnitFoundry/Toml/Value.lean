/-! # TOML values

A table remembers how it came about, because that decides how later lines may extend it. Tables
are extended through `insertAt?`: it walks along a path, makes the tables that are missing and
refuses what the format forbids. -/

namespace UnitFoundry.Toml

/-- How a table came about. -/
inductive TableOrigin where
  /-- It is written as a value, all at once. -/
  | inline
  /-- A header defines it, or it is the whole document. -/
  | defined
  /-- The header of a table inside it implies it. -/
  | implied
  /-- A dotted key makes it. -/
  | dotted
deriving DecidableEq, Repr

/-- A TOML value. -/
inductive Value where
  /-- A string. -/
  | string (s : String)
  /-- An integer. -/
  | integer (n : Int)
  /-- A floating-point number, by its bits. -/
  | float (bits : Nat)
  /-- A truth value. -/
  | boolean (b : Bool)
  /-- A date, a time or both, as it is written. -/
  | datetime (text : String)
  /-- An array. -/
  | array (items : List Value)
  /-- The tables of a header in double brackets. -/
  | tables (items : List Value)
  /-- A table. -/
  | table (origin : TableOrigin) (entries : List (String × Value))

instance : Inhabited Value := ⟨.boolean false⟩

/-- Values by their keys. -/
abbrev Entries := List (String × Value)

namespace Entries

/-- The value of a key. -/
def get? (es : Entries) (key : String) : Option Value :=
  es.lookup key

/-- Puts a value in place of the one of a key, or behind all others. -/
def put (es : Entries) (key : String) (v : Value) : Entries :=
  if (es.get? key).isSome then es.map fun (k, w) => if k = key then (k, v) else (k, w)
  else es ++ [(key, v)]

end Entries

/-- A change of a table, or none if the format forbids it. -/
abbrev TableChange := TableOrigin → Entries → Option Entries

/-- Changes the table at a path below a table, whose origin comes first. Missing tables are made
with the origin `made`. No path may lead into a table that is written as a value, nor that of a
dotted key into one that a header defines. An array of tables is entered through its last table. -/
def changeAt (made : TableOrigin) (change : TableChange) : List String → TableChange
  | [], origin, es => change origin es
  | key :: path, _, es =>
    match es.get? key with
    | none => do
      return es.put key (.table made (← changeAt made change path made []))
    | some (.table origin inner) =>
      if origin = .inline ∨ (made = .dotted ∧ origin = .defined) then none
      else do
        return es.put key (.table origin (← changeAt made change path origin inner))
    | some (.tables items) =>
      match items.getLast? with
      | some (.table origin inner) => do
        let last := .table origin (← changeAt made change path origin inner)
        return es.put key (.tables (items.dropLast ++ [last]))
      | _ => none
    | some _ => none

/-- Gives a key below a table a value that it does not have yet, through the tables of a dotted
key, all of which must have come about in this way. -/
def insertDotted (path : List String) (key : String) (v : Value) : TableChange :=
  changeAt .dotted
    (fun origin es =>
      if !path.isEmpty && origin ≠ .dotted then none
      else if (es.get? key).isSome then none
      else some (es ++ [(key, v)]))
    path

/-- Defines the table of a key. A table that is only implied may be defined. -/
def defineTable (key : String) : TableChange := fun _ es =>
  match es.get? key with
  | none => some (es ++ [(key, .table .defined [])])
  | some (.table .implied inner) => some (es.put key (.table .defined inner))
  | some _ => none

/-- Adds a table to the tables of a key. -/
def addTable (key : String) : TableChange := fun _ es =>
  match es.get? key with
  | none => some (es ++ [(key, .tables [.table .defined []])])
  | some (.tables items) => some (es.put key (.tables (items ++ [.table .defined []])))
  | some _ => none

end UnitFoundry.Toml
