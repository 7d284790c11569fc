import UnitFoundry.Wasm.Module

/-! # Values and stores

A store holds every function, table, memory and global that instances share. Things are named by
their address, the position in the store. A function is either code, with the addresses that its
indices stand for, or provided by the host. -/

namespace UnitFoundry.Wasm

/-- A value. Floating-point numbers are given by their bits, and every reference is null. -/
inductive Value where
  /-- A 32-bit integer. -/
  | i32 (v : UInt32)
  /-- A 64-bit integer. -/
  | i64 (v : UInt64)
  /-- A 32-bit floating-point number. -/
  | f32 (bits : UInt32)
  /-- A 64-bit floating-point number. -/
  | f64 (bits : UInt64)
  /-- A vector. No instruction makes one, so all bits are zero. -/
  | vector
  /-- A null reference. -/
  | null (t : RefType)
deriving DecidableEq, Repr

/-- The value that a local has before it is set. -/
def ValType.zero : ValType → Value
  | .num .i32 => .i32 0
  | .num .i64 => .i64 0
  | .num .f32 => .f32 0
  | .num .f64 => .f64 0
  | .vector => .vector
  | .ref t => .null t

/-- The type of a value. -/
def Value.type : Value → ValType
  | .i32 _ => .num .i32
  | .i64 _ => .num .i64
  | .f32 _ => .num .f32
  | .f64 _ => .num .f64
  | .vector => .vector
  | .null t => .ref t

/-- Why running code stops. -/
inductive Trap where
  /-- The code says so. -/
  | unreachable
  /-- An integer is divided by zero. -/
  | divideByZero
  /-- The quotient of two integers is not representable. -/
  | overflow
  /-- Calls are nested without end. -/
  | exhausted
  /-- The host is asked to end the unit. -/
  | exit
  /-- The host cannot do what it is asked for. -/
  | refused
  /-- The operands are not what the instruction needs; this cannot happen to valid code. -/
  | stuck
deriving DecidableEq, Repr

/-- What the trap says to a reader. -/
def Trap.message : Trap → String
  | .unreachable => "unreachable code was executed"
  | .divideByZero => "integer divide by zero"
  | .overflow => "integer overflow"
  | .exhausted => "call stack exhausted"
  | .exit => "the unit asked to exit"
  | .refused => "the host refused a call"
  | .stuck => "operands do not fit"

/-- The addresses that the indices of a module stand for in one of its instances. -/
structure Addresses where
  /-- The addresses of functions. -/
  funcs : List Nat := []
  /-- The addresses of tables. -/
  tables : List Nat := []
  /-- The addresses of memories. -/
  memories : List Nat := []
  /-- The addresses of globals. -/
  globals : List Nat := []
deriving DecidableEq, Repr

/-- What a function of the host does. -/
inductive HostCall where
  /-- It ends the unit. -/
  | exit
  /-- It refuses. -/
  | refuse
deriving DecidableEq, Repr

/-- A function in a store. -/
inductive StoredFunc where
  /-- A function of the host. -/
  | host (type : FuncType) (call : HostCall)
  /-- Code of an instance, with the types of its locals besides the parameters. -/
  | code (type : FuncType) (locals : List ValType) (addresses : Addresses)
      (body : List (Instr Nat))
deriving DecidableEq, Repr

/-- The type of a function in a store. -/
def StoredFunc.type : StoredFunc → FuncType
  | .host t _ => t
  | .code t .. => t

/-- A global in a store. -/
structure StoredGlobal where
  /-- Its type. -/
  type : GlobalType
  /-- The value that it holds. -/
  value : Value
deriving DecidableEq, Repr

/-- Everything that instances share. -/
structure Store where
  /-- The functions. -/
  funcs : Array StoredFunc := #[]
  /-- The types of the tables. -/
  tables : Array TableType := #[]
  /-- The sizes of the memories. -/
  memories : Array Limits := #[]
  /-- The globals. -/
  globals : Array StoredGlobal := #[]
deriving DecidableEq, Repr

/-- Something that a module can import, by its kind and its address. -/
structure Extern where
  /-- Its kind. -/
  kind : ExternKind
  /-- Its address. -/
  address : Nat
deriving DecidableEq, Repr

/-- The type of something in a store. -/
def Store.externType? (s : Store) (e : Extern) : Option ExternType :=
  match e.kind with
  | .func => s.funcs[e.address]?.map (.func ·.type)
  | .table => s.tables[e.address]?.map .table
  | .memory => s.memories[e.address]?.map .memory
  | .global => s.globals[e.address]?.map (.global ·.type)

/-- The address and the function that an index stands for. -/
def Store.func? (s : Store) (a : Addresses) (i : Nat) : Option (Nat × StoredFunc) := do
  let address ← a.funcs[i]?
  let f ← s.funcs[address]?
  return (address, f)

/-- The address and the global that an index stands for. -/
def Store.global? (s : Store) (a : Addresses) (i : Nat) : Option (Nat × StoredGlobal) := do
  let address ← a.globals[i]?
  let g ← s.globals[address]?
  return (address, g)

/-- The store with another value in a global. -/
def Store.setGlobal (s : Store) (address : Nat) (v : Value) : Store :=
  { s with globals := s.globals.modify address ({ · with value := v }) }

end UnitFoundry.Wasm
