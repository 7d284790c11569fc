import UnitFoundry.Emit.Dialect
import UnitFoundry.Wasm.Types

/-! # Members

A member is a generated function, described by its name, its access, its arguments and what it
returns. `Member.declaration` renders the lines that stand before its body. -/

namespace UnitFoundry.Emit

/-- A type in a declaration. -/
inductive TypeName where
  /-- A number type. -/
  | value (t : Wasm.NumType)
  /-- A type of this name, emitted as it is. -/
  | named (name : String)
deriving DecidableEq, Repr

/-- The text of a type. -/
def TypeName.text : TypeName → String
  | .value t => t.name
  | .named name => name

/-- The number types of fixed-width numbers in emitted sources, by their name there. -/
def TypeName.ofFixedWidth? : String → Option TypeName
  | "i32" | "u32" => some (.value .i32)
  | "i64" | "u64" => some (.value .i64)
  | "f32" => some (.value .f32)
  | "f64" => some (.value .f64)
  | _ => none

/-- Who may call a member. -/
inductive Access where
  /-- Everyone. -/
  | everyone
  /-- Its own namespace only. -/
  | own
  /-- Its own unit only. -/
  | internal
deriving DecidableEq, Repr

/-- An argument of a member. -/
structure Argument where
  /-- The name of the argument. -/
  name : String
  /-- The type of the argument. -/
  type : TypeName
deriving DecidableEq, Repr

/-- The text of an argument in a declaration. -/
def Argument.render (a : Argument) : Dialect → String
  | .rust => a.name ++ ": " ++ a.type.text
  | .wat => "(param $" ++ a.name ++ " " ++ a.type.text ++ ")"

/-- A generated function. -/
structure Member where
  /-- The name of the member. -/
  name : String
  /-- Who may call it. -/
  access : Access := .everyone
  /-- The type of its result, if it has one. -/
  returns : Option TypeName := none
  /-- Its arguments, in order. -/
  arguments : List Argument := []
deriving DecidableEq, Repr

/-- The lines that stand before a member's body. -/
structure Declaration where
  /-- Lines that mark the member. -/
  attributes : List String := []
  /-- The line that the body follows. -/
  header : String
deriving DecidableEq, Repr

/-- All lines, the header last. -/
def Declaration.lines (d : Declaration) : List String :=
  d.attributes ++ [d.header]

namespace Member

/-- The part of a header in the braced dialect from the name on. -/
def signature (m : Member) : String :=
  m.name ++ "(" ++ ", ".intercalate (m.arguments.map (·.render .rust)) ++ ")" ++
    (match m.returns with
      | some t => " -> " ++ t.text
      | none => "")

/-- The header of a member in the form dialect. -/
def form (m : Member) : String :=
  "(func $" ++ m.name ++
    (if m.access = .everyone then " (export \"" ++ m.name ++ "\")" else "") ++
    String.join (m.arguments.map fun a => " " ++ a.render .wat) ++
    (match m.returns with
      | some t => " (result " ++ t.text ++ ")"
      | none => "")

/-- The declaration of a member. -/
def declaration (m : Member) : Dialect → Declaration
  | .rust =>
    match m.access with
    | .everyone =>
      { attributes := ["#[no_mangle]"], header := "pub extern \"C\" fn " ++ m.signature }
    | .internal => { header := "pub(crate) fn " ++ m.signature }
    | .own => { header := "fn " ++ m.signature }
  | .wat => { header := m.form }

end Member

end UnitFoundry.Emit
