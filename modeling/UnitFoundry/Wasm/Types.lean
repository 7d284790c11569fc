/-! # Types of WebAssembly

Values are numbers or references; modules import and export functions, globals, tables and
memories, each with a type of its own kind. -/

namespace UnitFoundry.Wasm

/-- The types of numbers. -/
inductive NumType where
  /-- A 32-bit integer. -/
  | i32
  /-- A 64-bit integer. -/
  | i64
  /-- A 32-bit floating-point number. -/
  | f32
  /-- A 64-bit floating-point number. -/
  | f64
deriving DecidableEq, Repr

/-- The name of a number type in the text format. -/
def NumType.name : NumType → String
  | .i32 => "i32"
  | .i64 => "i64"
  | .f32 => "f32"
  | .f64 => "f64"

/-- The types of references. -/
inductive RefType where
  /-- A reference to a function. -/
  | func
  /-- A reference to something of the host. -/
  | extern_
  /-- A reference of any other kind, which the text format knows and no valid module uses. -/
  | other
deriving DecidableEq, Repr

/-- The types of values. -/
inductive ValType where
  /-- A number. -/
  | num (t : NumType)
  /-- A vector of 128 bits. -/
  | vector
  /-- A reference. -/
  | ref (t : RefType)
deriving DecidableEq, Repr

/-- The name of a value type for a reader. -/
def ValType.label : ValType → String
  | .num .i32 => "I32"
  | .num .i64 => "I64"
  | .num .f32 => "F32"
  | .num .f64 => "F64"
  | .vector => "V128"
  | .ref .func => "FuncRef"
  | .ref .extern_ => "ExternRef"
  | .ref .other => "Ref"

/-- The type of a function. -/
structure FuncType where
  /-- The types of the parameters. -/
  params : List ValType := []
  /-- The types of the results. -/
  results : List ValType := []
deriving DecidableEq, Repr

/-- The type of a global. -/
structure GlobalType where
  /-- Whether the global can be set. -/
  isMutable : Bool
  /-- The type of the value it holds. -/
  value : ValType
deriving DecidableEq, Repr

/-- The sizes that a table or a memory may take. -/
structure Limits where
  /-- The size at the start. -/
  least : Nat
  /-- The size that is never exceeded. -/
  most : Option Nat := none
  /-- Whether sizes are counted with 64 bits. -/
  isWide : Bool := false
deriving DecidableEq, Repr

/-- The type of a table. -/
structure TableType where
  /-- The type of the references that it holds. -/
  element : RefType
  /-- The sizes that it may take. -/
  limits : Limits
deriving DecidableEq, Repr

/-- The type of something that a module imports or exports. -/
inductive ExternType where
  /-- A function. -/
  | func (t : FuncType)
  /-- A table. -/
  | table (t : TableType)
  /-- A memory, by its sizes in pages. -/
  | memory (t : Limits)
  /-- A global. -/
  | global (t : GlobalType)
deriving DecidableEq, Repr

namespace ExternType

/-- The type of a function. -/
def func? : ExternType → Option FuncType
  | .func t => some t
  | _ => none

/-- The type of a table. -/
def table? : ExternType → Option TableType
  | .table t => some t
  | _ => none

/-- The sizes of a memory. -/
def memory? : ExternType → Option Limits
  | .memory t => some t
  | _ => none

/-- The type of a global. -/
def global? : ExternType → Option GlobalType
  | .global t => some t
  | _ => none

/-- The size of a type. That of a function counts its parameters and results. -/
def size : ExternType → Nat
  | .func t => 1 + (t.params.length + t.results.length)
  | _ => 1

end ExternType

end UnitFoundry.Wasm
