/-! # JSON values

A JSON value as a reader sees it: members keep their order, and an object may hold a key twice.
A string whose escapes leave half a surrogate pair alone is well formed and has no text. -/

namespace UnitFoundry.Json

/-- A JSON value. -/
inductive Value where
  /-- The value `null`. -/
  | null
  /-- A truth value. -/
  | bool (b : Bool)
  /-- A number, as it is written. -/
  | number (digits : List Char)
  /-- A string, with its text if it has one. -/
  | string (text : Option String)
  /-- An array. -/
  | array (items : List Value)
  /-- An object. -/
  | object (members : List (Option String × Value))

namespace Value

instance : Inhabited Value := ⟨null⟩

/-- The text of a string. -/
def text? : Value → Option String
  | string t => t
  | _ => none

end Value

end UnitFoundry.Json
