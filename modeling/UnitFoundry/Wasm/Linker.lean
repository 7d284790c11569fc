import UnitFoundry.Wasm.Exec
import UnitFoundry.Wasm.Wasi

/-! # Instances and linkers

A linker knows what each pair of a module name and a name stands for. Instantiating a module looks
up its imports there, in order, places what the module defines in the store and runs its start
function. Registering an instance makes its exports known under a module name; nothing can be
defined twice. -/

namespace UnitFoundry.Wasm

/-! ## Matching types -/

/-- Whether sizes that are provided meet those that are needed. -/
def Limits.meets (provided needed : Limits) : Bool :=
  needed.least ≤ provided.least &&
    match needed.most, provided.most with
    | none, _ => true
    | some _, none => false
    | some n, some p => p ≤ n

/-- Whether something of one type may stand for an import of another. -/
def ExternType.meets : ExternType → ExternType → Bool
  | .func p, .func n => p = n
  | .table p, .table n => p.element = n.element && p.limits.meets n.limits
  | .memory p, .memory n => p.meets n
  | .global p, .global n => p = n
  | _, _ => false

/-- The size of a page of a memory, in bytes. -/
def pageSize : Nat := 65536

/-! ## Instances -/

/-- A module in a store. -/
structure Instance where
  /-- The module. -/
  module : Module
  /-- The addresses that its indices stand for. -/
  addresses : Addresses
deriving DecidableEq, Repr

/-- The address of the thing with an index among those of its kind. -/
def Addresses.address? (a : Addresses) (kind : ExternKind) (i : Nat) : Option Nat :=
  match kind with
  | .func => a.funcs[i]?
  | .table => a.tables[i]?
  | .memory => a.memories[i]?
  | .global => a.globals[i]?

/-- What an export of an instance stands for. -/
def Instance.extern? (i : Instance) (e : Export) : Option Extern :=
  (i.addresses.address? e.kind e.index).map (⟨e.kind, ·⟩)

/-- What an instance provides, by name. -/
def Instance.exports (i : Instance) : List (String × Extern) :=
  i.module.exports.filterMap fun e => (i.extern? e).map (e.name, ·)

/-- The address of the function that an instance provides under a name. -/
def Instance.func? (i : Instance) (name : String) : Option Nat :=
  match i.exports.lookup name with
  | some ⟨.func, address⟩ => some address
  | _ => none

/-! ## Linkers -/

/-- Why a module is not instantiated, or an instance not registered. -/
inductive LinkFault where
  /-- An import is not defined. -/
  | unknownImport (module name : String)
  /-- An import is defined with a type that does not meet the one needed. -/
  | mismatch (module name : String)
  /-- A segment does not fit into the table or memory that it goes to. -/
  | outOfBounds
  /-- The start function traps. -/
  | startTrap (t : Trap)
  /-- A name is defined already. -/
  | defined (module name : String)
deriving DecidableEq, Repr

/-- What the fault says to a reader. -/
def LinkFault.message : LinkFault → String
  | .unknownImport m n => "unknown import: " ++ m ++ "::" ++ n ++ " has not been defined"
  | .mismatch m n => "incompatible import type for " ++ m ++ "::" ++ n
  | .outOfBounds => "segment out of bounds"
  | .startTrap t => "error while executing the start function: " ++ t.message
  | .defined m n => "import of " ++ m ++ "::" ++ n ++ " defined twice"

/-- What pairs of a module name and a name stand for. -/
structure Linker where
  /-- The definitions, in the order in which they were made. -/
  definitions : List ((String × String) × Extern) := []
deriving DecidableEq, Repr

namespace Linker

/-- What a pair of a module name and a name stands for. -/
def find? (l : Linker) (module name : String) : Option Extern :=
  l.definitions.lookup (module, name)

/-- Defines what a pair stands for, unless it is defined already. -/
def define (l : Linker) (module name : String) (e : Extern) : Except LinkFault Linker :=
  match l.find? module name with
  -- nothing is ever defined anew
  | some _ => .error (.defined module name)
  | none => .ok { l with definitions := l.definitions ++ [((module, name), e)] }

/-- Makes the exports of an instance known under a module name. -/
def register (l : Linker) (module : String) (i : Instance) : Except LinkFault Linker :=
  i.exports.foldlM (fun l (name, e) => l.define module name e) l

/-- What an import stands for, if its type is met. -/
def resolve (l : Linker) (s : Store) (i : Import) : Except LinkFault Extern :=
  match l.find? i.module i.name with
  | none => .error (.unknownImport i.module i.name)
  | some e =>
    match s.externType? e with
    | some t => if t.meets i.type then .ok e else .error (.mismatch i.module i.name)
    | none => .error (.mismatch i.module i.name)

/-- The addresses of the externs of a kind. -/
def addressesOf (kind : ExternKind) (es : List Extern) : List Nat :=
  es.filterMap fun e => if e.kind = kind then some e.address else none

/-- The value of constant instructions, which leave one value and read imported globals. -/
def constantValue (s : Store) (a : Addresses) (init : List (Instr Nat)) : Value :=
  let push (operands : List Value) : Instr Nat → List Value
    | .i32Const v => .i32 v :: operands
    | .i64Const v => .i64 v :: operands
    | .refNull t => .null t :: operands
    | .globalGet i =>
      match s.global? a i with
      | some (_, g) => g.value :: operands
      | none => operands
    | _ => operands
  (init.foldl push []).headD (.i32 0)

/-- Places what a module defines in the store, behind what it imports. -/
def place (s : Store) (m : Module) (imported : List Extern) : Store × Instance :=
  let new (first count : Nat) := (List.range count).map (first + ·)
  let a : Addresses :=
    { funcs := addressesOf .func imported ++ new s.funcs.size m.funcs.length
      tables := addressesOf .table imported ++ new s.tables.size m.tables.length
      memories := addressesOf .memory imported ++ new s.memories.size m.memories.length
      globals := addressesOf .global imported ++ new s.globals.size m.globals.length }
  let s' : Store :=
    { funcs := s.funcs ++ (m.funcs.map fun f => StoredFunc.code f.type f.locals a f.body).toArray
      tables := s.tables ++ m.tables.toArray
      memories := s.memories ++ m.memories.toArray
      globals := s.globals ++
        (m.globals.map fun g => (⟨g.type, constantValue s a g.init⟩ : StoredGlobal)).toArray }
  (s', ⟨m, a⟩)

/-- Whether a segment of a size fits where it goes, into a table or memory of the size that its
address gives. -/
def segmentFits (s : Store) (a : Addresses) (mode : SegmentMode) (size : Nat)
    (capacity? : Nat → Option Nat) : Bool :=
  match mode with
  | .passive | .declared => true
  | .active i offset =>
    match constantValue s a offset, capacity? i with
    | .i32 start, some capacity => start.toNat + size ≤ capacity
    | _, _ => false

/-- Checks that the segments of an instance fit. Nothing ever reads what they hold. -/
def checkSegments (s : Store) (i : Instance) : Except LinkFault Unit := do
  let a := i.addresses
  let tableSize (k : Nat) : Option Nat := do return (← s.tables[← a.tables[k]?]?).limits.least
  let memorySize (k : Nat) : Option Nat := do
    return (← s.memories[← a.memories[k]?]?).least * pageSize
  if !i.module.elements.all (fun e => segmentFits s a e.mode e.items.size tableSize) then
    throw .outOfBounds
  if !i.module.data.all (fun d => segmentFits s a d.mode d.bytes.length memorySize) then
    throw .outOfBounds

/-- Runs the start function of an instance. -/
def runStart (s : Store) (i : Instance) : Except LinkFault Store :=
  match i.module.start.bind (i.addresses.funcs[·]?) with
  | none => .ok s
  | some address =>
    match call address [] s with
    | (.ok _, s) => .ok s
    | (.error t, _) => .error (.startTrap t)

/-- Instantiates a module. -/
def instantiate (l : Linker) (s : Store) (m : Module) : Except LinkFault (Store × Instance) := do
  let imported ← m.imports.mapM (l.resolve s)
  let (s, i) := place s m imported
  checkSegments s i
  return (← runStart s i, i)

/-- The functions of the host in an empty store, known under the names of its modules. -/
def host : Linker × Store :=
  let call (name : String) : HostCall := if name = Wasi.exitName then .exit else .refuse
  ({ definitions := Wasi.definitions.zipIdx.map fun ((names, _), i) => (names, ⟨.func, i⟩) },
   { funcs :=
      (Wasi.definitions.map fun ((_, name), t) => StoredFunc.host t (call name)).toArray })

end Linker

end UnitFoundry.Wasm
