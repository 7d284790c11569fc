import UnitFoundry.Wasm.Bounds
import UnitFoundry.Wasm.Fault
import UnitFoundry.Wasm.Module

/-! # Validation

A module is valid when every body is well typed, every index points to something, every initial
value is constant and of the right type, the names of exports are distinct, sizes are in order and
the start function neither takes nor returns anything. After `unreachable` the operand stack may
hold whatever is needed. -/

namespace UnitFoundry.Wasm

/-! ## Typing of bodies -/

/-- The types of the operands, the topmost first, and whether anything may stand below them. -/
structure Operands where
  /-- The known types. -/
  types : List ValType := []
  /-- Whether operands of any type may follow. -/
  open_ : Bool := false
deriving DecidableEq, Repr

namespace Operands

/-- Puts an operand on top. -/
def push (o : Operands) (t : ValType) : Operands :=
  { o with types := t :: o.types }

/-- Takes an operand of a type from the top. -/
def pop (o : Operands) (t : ValType) : Except Invalidity Operands :=
  match o.types with
  | t' :: rest => if t' = t then .ok { o with types := rest } else .error .typeMismatch
  | [] => if o.open_ then .ok o else .error .typeMismatch

/-- Takes an operand of any type from the top. -/
def popAny (o : Operands) : Except Invalidity Operands :=
  match o.types with
  | _ :: rest => .ok { o with types := rest }
  -- what follows a trap is never run, so any operand will do
  | [] => if o.open_ then .ok o else .error .typeMismatch

/-- Takes operands from the top, the last type first. -/
def popAll (o : Operands) (ts : List ValType) : Except Invalidity Operands :=
  ts.reverse.foldlM pop o

end Operands

/-- What an instruction does to the operands. -/
def Module.checkInstr (m : Module) (locals : List ValType) (o : Operands) :
    Instr Nat → Except Invalidity Operands
  | .unreachable => .ok { types := [], open_ := true }
  | .nop => .ok o
  | .drop => o.popAny
  | .localGet i =>
    match locals[i]? with
    | some t => .ok (o.push t)
    | none => .error .unknownIndex
  | .globalGet i =>
    match m.globalTypes[i]? with
    | some t => .ok (o.push t.value)
    | none => .error .unknownIndex
  | .globalSet i =>
    match m.globalTypes[i]? with
    | some t => if t.isMutable then o.pop t.value else .error .immutableGlobal
    | none => .error .unknownIndex
  | .call i =>
    match m.funcTypes[i]? with
    | some t => do
      let o ← o.popAll t.params
      return t.results.foldl Operands.push o
    | none => .error .unknownIndex
  | .i32Const _ => .ok (o.push (.num .i32))
  | .i64Const _ => .ok (o.push (.num .i64))
  | .refNull t => .ok (o.push (.ref t))
  | .numeric op => do
    let o ← o.pop (.num op.type)
    let o ← o.pop (.num op.type)
    return o.push (.num op.type)

/-- Whether a body leaves just the results that its type promises. -/
def Module.checkFunc (m : Module) (f : Func) : Except Invalidity Unit := do
  let o ← f.body.foldlM (m.checkInstr (f.type.params ++ f.locals)) {}
  let o ← o.popAll f.type.results
  if !o.types.isEmpty then throw .typeMismatch

/-! ## Initial values -/

/-- Whether an instruction may stand in an initial value: it is a constant, or it reads an imported
global that cannot be set. -/
def Module.isConstant (m : Module) : Instr Nat → Bool
  | .i32Const _ | .i64Const _ | .refNull _ => true
  | .globalGet i =>
    match m.importedGlobalTypes[i]? with
    | some t => !t.isMutable
    | none => false
  | _ => false

/-- Whether instructions give one constant value of a type. -/
def Module.checkConstant (m : Module) (init : List (Instr Nat)) (t : ValType) :
    Except Invalidity Unit := do
  if !init.all m.isConstant then throw .notConstant
  let o ← init.foldlM (m.checkInstr []) {}
  let o ← o.pop t
  if !o.types.isEmpty then throw .typeMismatch

/-- Whether the initial value of a global is constant and of its type. -/
def Module.checkGlobal (m : Module) (g : Global) : Except Invalidity Unit :=
  m.checkConstant g.init g.type.value

/-! ## Segments -/

/-- Whether the references of a segment exist and have its type, and the table that it goes to
holds such references. -/
def Module.checkElement (m : Module) (e : ElementSegment) : Except Invalidity Unit := do
  match e.items with
  | .funcs is => if is.any (m.funcTypes.length ≤ ·) then throw .unknownIndex
  | .exprs t inits => inits.forM (m.checkConstant · (.ref t))
  match e.mode with
  | .passive | .declared => return
  | .active i offset =>
    match m.tableTypes[i]? with
    | some t => if t.element ≠ e.items.type then throw .typeMismatch
    | none => throw .unknownIndex
    m.checkConstant offset (.num .i32)

/-- Whether the memory that a segment goes to exists. -/
def Module.checkData (m : Module) (d : DataSegment) : Except Invalidity Unit := do
  match d.mode with
  | .passive | .declared => return
  | .active i offset =>
    if m.memoryTypes.length ≤ i then throw .unknownIndex
    m.checkConstant offset (.num .i32)

/-! ## Modules -/

/-- Whether sizes are counted with 32 bits, are in order and stay below a bound. -/
def Limits.check (l : Limits) (bound : Nat) : Except Invalidity Unit := do
  if l.isWide then throw .badLimits
  if bound < l.least then throw .badLimits
  match l.most with
  | some most => if bound < most || most < l.least then throw .badLimits
  | none => return

/-- Whether the start function exists and has the right type. -/
def Module.checkStart (m : Module) : Except Invalidity Unit :=
  match m.start with
  | none => .ok ()
  | some i =>
    match m.funcTypes[i]? with
    | some t => if t = {} then .ok () else .error .badStart
    | none => .error .unknownIndex

/-- Whether exports have distinct names and point to something. -/
def Module.checkExports (m : Module) : Except Invalidity Unit := do
  if !decide m.exportNames.Nodup then throw .duplicateExport
  -- an index that is out of range has no type
  if m.exports.any fun e => (m.externType? e.kind e.index).isNone then throw .unknownIndex

/-- Whether a type is not one of references that no module may use. -/
def ValType.isSupported (t : ValType) : Bool :=
  t ≠ .ref .other

/-- Whether all parameters and results may be used. -/
def FuncType.isSupported (t : FuncType) : Bool :=
  t.params.all (·.isSupported) && t.results.all (·.isSupported)

/-- Whether an instruction makes no reference that no module may use. -/
def Instr.isSupported (i : Instr Nat) : Bool :=
  i ≠ .refNull .other

/-- Whether only such references are used as may be. -/
def Module.checkTypes (m : Module) : Except Invalidity Unit := do
  if !m.funcTypes.all (·.isSupported) then throw .unsupported
  if !m.tableTypes.all (·.element ≠ .other) then throw .unsupported
  if !m.globalTypes.all (·.value.isSupported) then throw .unsupported
  if !m.globals.all (·.init.all (·.isSupported)) then throw .unsupported
  if !m.funcs.all fun f => f.locals.all (·.isSupported) && f.body.all (·.isSupported) then
    throw .unsupported

/-- Whether there is no more of anything than may be. -/
def Module.checkCounts (m : Module) : Except Invalidity Unit := do
  if importCountLimit < m.imports.length || exportCountLimit < m.exports.length then throw .tooMany
  if functionCountLimit < m.funcTypes.length || globalCountLimit < m.globalTypes.length then
    throw .tooMany
  if tableCountLimit < m.tableTypes.length then throw .tooMany
  if segmentCountLimit < m.elements.length || segmentCountLimit < m.data.length then
    throw .tooMany
  if m.funcTypes.any fun t => arityLimit < t.params.length || arityLimit < t.results.length then
    throw .tooMany
  if m.funcs.any fun f => localCountLimit < f.type.params.length + f.locals.length then
    throw .tooMany
  let types := m.imports.map (·.type) ++ m.typedExports.map (·.2)
  if typeSizeLimit ≤ (types.map (·.size)).foldr (· + ·) 0 then throw .tooMany
  let names := m.imports.flatMap (fun i => [i.module, i.name]) ++ m.exportNames
  if names.any (nameLimit < ·.utf8ByteSize) then throw .tooMany

/-- Checks all rules. -/
def Module.validate (m : Module) : Except Invalidity Unit := do
  m.checkCounts
  m.checkTypes
  if 1 < m.memoryTypes.length then throw .manyMemories
  m.memoryTypes.forM (·.check pageLimit)
  m.tableTypes.forM (·.limits.check tableSizeLimit)
  if m.tableTypes.any (tableStartLimit < ·.limits.least) then throw .badLimits
  m.globals.forM m.checkGlobal
  m.checkExports
  m.checkStart
  m.funcs.forM m.checkFunc
  m.elements.forM m.checkElement
  m.data.forM m.checkData

end UnitFoundry.Wasm
