import UnitFoundry.Engine.Basic

/-! # Modules

A module holds imports and definitions of functions, tables, memories and globals. In each of the
four index spaces the imports come first. Instructions are parameterised by how they refer to a
definition, so that the same type serves before and after names are resolved. -/

namespace UnitFoundry.Wasm

/-- The operations on two numbers of one type. -/
inductive NumericOp where
  /-- Addition of 32-bit integers. -/
  | i32Add
  /-- Subtraction of 32-bit integers. -/
  | i32Sub
  /-- Multiplication of 32-bit integers. -/
  | i32Mul
  /-- Signed division of 32-bit integers. -/
  | i32DivS
  /-- Addition of 64-bit integers. -/
  | i64Add
  /-- Subtraction of 64-bit integers. -/
  | i64Sub
  /-- Multiplication of 64-bit integers. -/
  | i64Mul
  /-- Addition of 32-bit floating-point numbers. -/
  | f32Add
  /-- Addition of 64-bit floating-point numbers. -/
  | f64Add
  /-- Multiplication of 64-bit floating-point numbers. -/
  | f64Mul
deriving DecidableEq, Repr

namespace NumericOp

/-- The type of both operands and of the result. -/
def type : NumericOp → NumType
  | i32Add | i32Sub | i32Mul | i32DivS => .i32
  | i64Add | i64Sub | i64Mul => .i64
  | f32Add => .f32
  | f64Add | f64Mul => .f64

/-- The name of the operation in the text format. -/
def name : NumericOp → String
  | i32Add => "i32.add"
  | i32Sub => "i32.sub"
  | i32Mul => "i32.mul"
  | i32DivS => "i32.div_s"
  | i64Add => "i64.add"
  | i64Sub => "i64.sub"
  | i64Mul => "i64.mul"
  | f32Add => "f32.add"
  | f64Add => "f64.add"
  | f64Mul => "f64.mul"

/-- The code of the operation in the binary format. -/
def code : NumericOp → UInt8
  | i32Add => 0x6A
  | i32Sub => 0x6B
  | i32Mul => 0x6C
  | i32DivS => 0x6D
  | i64Add => 0x7C
  | i64Sub => 0x7D
  | i64Mul => 0x7E
  | f32Add => 0x92
  | f64Add => 0xA0
  | f64Mul => 0xA2

/-- All operations. -/
def all : List NumericOp :=
  [i32Add, i32Sub, i32Mul, i32DivS, i64Add, i64Sub, i64Mul, f32Add, f64Add, f64Mul]

end NumericOp

/-- An instruction that refers to definitions and locals by members of `ι`. -/
inductive Instr (ι : Type) where
  /-- Traps. -/
  | unreachable
  /-- Does nothing. -/
  | nop
  /-- Takes a value away. -/
  | drop
  /-- Reads a local. -/
  | localGet (i : ι)
  /-- Reads a global. -/
  | globalGet (i : ι)
  /-- Sets a global. -/
  | globalSet (i : ι)
  /-- Calls a function. -/
  | call (i : ι)
  /-- A 32-bit integer. -/
  | i32Const (v : UInt32)
  /-- A 64-bit integer. -/
  | i64Const (v : UInt64)
  /-- A null reference. -/
  | refNull (t : RefType)
  /-- An operation on two numbers. -/
  | numeric (op : NumericOp)
deriving DecidableEq, Repr

/-- The four kinds of things that modules import and export. -/
inductive ExternKind where
  /-- Functions. -/
  | func
  /-- Tables. -/
  | table
  /-- Memories. -/
  | memory
  /-- Globals. -/
  | global
deriving DecidableEq, Repr

/-- The kind of a type. -/
def ExternType.kind : ExternType → ExternKind
  | .func _ => .func
  | .table _ => .table
  | .memory _ => .memory
  | .global _ => .global

/-- Something that a module needs. -/
abbrev Import := UnitFoundry.Import ExternType

/-- A function that a module defines. -/
structure Func where
  /-- The type of the function. -/
  type : FuncType
  /-- The types of the locals besides the parameters. -/
  locals : List ValType := []
  /-- The instructions of its body. -/
  body : List (Instr Nat)
deriving DecidableEq, Repr

/-- A global that a module defines. -/
structure Global where
  /-- The type of the global. -/
  type : GlobalType
  /-- The instructions that compute its first value. -/
  init : List (Instr Nat)
deriving DecidableEq, Repr

/-- Something that a module provides. -/
structure Export where
  /-- Its name outside. -/
  name : String
  /-- Its kind. -/
  kind : ExternKind
  /-- Its index among the things of its kind. -/
  index : Nat
deriving DecidableEq, Repr

/-- When a segment is copied to where it is used. -/
inductive SegmentMode where
  /-- When an instruction asks for it. -/
  | passive
  /-- Never. -/
  | declared
  /-- When the module is instantiated: to the table or memory with an index, at the place that
  instructions compute. -/
  | active (index : Nat) (offset : List (Instr Nat))
deriving DecidableEq, Repr

/-- The references of a segment of a table. -/
inductive SegmentItems where
  /-- References to functions. -/
  | funcs (indices : List Nat)
  /-- References that instructions compute. -/
  | exprs (type : RefType) (inits : List (List (Instr Nat)))
deriving DecidableEq, Repr

/-- The number of references. -/
def SegmentItems.size : SegmentItems → Nat
  | .funcs is => is.length
  | .exprs _ es => es.length

/-- The type of the references. -/
def SegmentItems.type : SegmentItems → RefType
  | .funcs _ => .func
  | .exprs t _ => t

/-- A segment of references for tables. -/
structure ElementSegment where
  /-- When it is copied. -/
  mode : SegmentMode
  /-- What it holds. -/
  items : SegmentItems
deriving DecidableEq, Repr

/-- A segment of bytes for memories. -/
structure DataSegment where
  /-- When it is copied. -/
  mode : SegmentMode
  /-- What it holds. -/
  bytes : List UInt8
deriving DecidableEq, Repr

/-- A module. -/
structure Module where
  /-- What it needs, in order. -/
  imports : List Import := []
  /-- The functions that it defines. -/
  funcs : List Func := []
  /-- The tables that it defines. -/
  tables : List TableType := []
  /-- The memories that it defines. -/
  memories : List Limits := []
  /-- The globals that it defines. -/
  globals : List Global := []
  /-- What it provides, in order. -/
  exports : List Export := []
  /-- The function that runs when the module is instantiated. -/
  start : Option Nat := none
  /-- The segments of references. -/
  elements : List ElementSegment := []
  /-- The segments of bytes. -/
  data : List DataSegment := []
deriving DecidableEq, Repr

namespace Module

/-- The types of all functions, the imported ones first. -/
def funcTypes (m : Module) : List FuncType :=
  m.imports.filterMap (·.type.func?) ++
    m.funcs.map (·.type)

/-- The types of all tables. -/
def tableTypes (m : Module) : List TableType :=
  m.imports.filterMap (·.type.table?) ++ m.tables

/-- The sizes of all memories. -/
def memoryTypes (m : Module) : List Limits :=
  m.imports.filterMap (·.type.memory?) ++ m.memories

/-- The types of the imported globals. -/
def importedGlobalTypes (m : Module) : List GlobalType :=
  m.imports.filterMap (·.type.global?)

/-- The types of all globals. -/
def globalTypes (m : Module) : List GlobalType :=
  m.importedGlobalTypes ++ m.globals.map (·.type)

/-- The type of the thing with an index among those of its kind. -/
def externType? (m : Module) (kind : ExternKind) (i : Nat) : Option ExternType :=
  match kind with
  | .func => m.funcTypes[i]?.map .func
  | .table => m.tableTypes[i]?.map .table
  | .memory => m.memoryTypes[i]?.map .memory
  | .global => m.globalTypes[i]?.map .global

/-- The names of everything that a module provides. -/
def exportNames (m : Module) : List String :=
  m.exports.map (·.name)

/-- Everything that a module provides, by name and with its type. -/
def typedExports (m : Module) : List (String × ExternType) :=
  m.exports.filterMap fun e => (m.externType? e.kind e.index).map (e.name, ·)

end Module

end UnitFoundry.Wasm
