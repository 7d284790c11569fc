import UnitFoundry.Wasm.Text.Field

/-! # Modules from text

`readModule` reads the text of a module. The fields are brought into a canonical order, in which
each definition is followed by the exports written inside it; identifiers are then numbered in
each of the four index spaces in the order of the fields, and every index becomes a number. -/

namespace UnitFoundry.Wasm.Text

/-! ## Canonical fields -/

/-- How many definitions and imports of each kind stand among some fields. -/
structure Counts where
  /-- The number of functions. -/
  func : Nat := 0
  /-- The number of tables. -/
  table : Nat := 0
  /-- The number of memories. -/
  memory : Nat := 0
  /-- The number of globals. -/
  global : Nat := 0
deriving DecidableEq, Repr

/-- The number of things of a kind. -/
def Counts.of (c : Counts) : ExternKind → Nat
  | .func => c.func
  | .table => c.table
  | .memory => c.memory
  | .global => c.global

/-- Counts one more thing of a kind. -/
def Counts.add (c : Counts) : ExternKind → Counts
  | .func => { c with func := c.func + 1 }
  | .table => { c with table := c.table + 1 }
  | .memory => { c with memory := c.memory + 1 }
  | .global => { c with global := c.global + 1 }

/-- The kind and the identifier of what a field adds to an index space. -/
def Field.defined? : Field → Option (ExternKind × Option String)
  | .import_ _ _ id _ t => some (t.kind, id)
  | .func id .. => some (.func, id)
  | .table id .. => some (.table, id)
  | .memory id .. => some (.memory, id)
  | .global id .. => some (.global, id)
  | .export_ .. | .start _ | .nothing => none

/-- Whether a field defines something, as opposed to importing it. -/
def Field.isDefinition : Field → Bool
  | .func .. | .table .. | .memory .. | .global .. => true
  | _ => false

/-- The names under which a definition or an import is provided, taken from its own form. -/
def Field.ownExports : Field → List String
  | .import_ _ _ _ exports _ | .func _ exports .. | .table _ exports _ | .memory _ exports _
  | .global _ exports .. => exports
  | .export_ .. | .start _ | .nothing => []

/-- Puts the exports that stand inside definitions after them, as fields of their own. -/
def spreadExports (c : Counts) : List Field → List Field
  | [] => []
  | f :: fs =>
    match f.defined? with
    | none => f :: spreadExports c fs
    | some (kind, _) =>
      f :: f.ownExports.map (fun name => .export_ name kind (.number (c.of kind))) ++
        spreadExports (c.add kind) fs

/-- Whether a field imports something. -/
def Field.isImport : Field → Bool
  | .import_ .. => true
  | _ => false

/-- Whether an import follows a definition. -/
def hasLateImport (fs : List Field) : Bool :=
  (fs.dropWhile (!·.isDefinition)).any (·.isImport)

/-! ## Identifiers -/

/-- The identifiers of each index space; the position of one is its number. -/
structure Names where
  /-- The identifiers of functions. -/
  func : List (Option String) := []
  /-- The identifiers of tables. -/
  table : List (Option String) := []
  /-- The identifiers of memories. -/
  memory : List (Option String) := []
  /-- The identifiers of globals. -/
  global : List (Option String) := []
deriving DecidableEq, Repr

/-- The identifiers of one index space. -/
def Names.of (names : Names) : ExternKind → List (Option String)
  | .func => names.func
  | .table => names.table
  | .memory => names.memory
  | .global => names.global

/-- The identifiers that some fields define. -/
def Names.ofFields (fs : List Field) : Names :=
  let ids (kind : ExternKind) := fs.filterMap fun f =>
    match f.defined? with
    | some (k, id) => if k = kind then some id else none
    | none => none
  ⟨ids .func, ids .table, ids .memory, ids .global⟩

/-- Whether an identifier occurs twice. -/
def hasDuplicateId (ids : List (Option String)) : Bool :=
  let named := ids.filterMap id
  !decide named.Nodup

/-- The number that an index stands for among `ids`. -/
def Index.resolve (ids : List (Option String)) : Index → Except TextFault Nat
  | .number n => .ok n
  | .id s =>
    match ids.idxOf? (some s) with
    | some n => .ok n
    | none => .error .undefinedId

/-- An instruction with numbers for indices. -/
def resolveInstr (names : Names) (locals : List (Option String)) :
    Instr Index → Except TextFault (Instr Nat)
  | .unreachable => .ok .unreachable
  | .nop => .ok .nop
  | .drop => .ok .drop
  | .localGet i => do return .localGet (← i.resolve locals)
  | .globalGet i => do return .globalGet (← i.resolve names.global)
  | .globalSet i => do return .globalSet (← i.resolve names.global)
  | .call i => do return .call (← i.resolve names.func)
  | .i32Const v => .ok (.i32Const v)
  | .i64Const v => .ok (.i64Const v)
  | .refNull t => .ok (.refNull t)
  | .numeric op => .ok (.numeric op)

/-! ## Assembly -/

/-- Adds a field to the module that the fields before it make up. -/
def addField (names : Names) (m : Module) : Field → Except TextFault Module
  | .import_ module name _ _ type => .ok { m with imports := m.imports ++ [⟨module, name, type⟩] }
  | .func _ _ signature locals body => do
    let ids := (signature.params ++ locals).map (·.1)
    if hasDuplicateId ids then throw .duplicateId
    let body ← body.mapM (resolveInstr names ids)
    return { m with funcs := m.funcs ++ [⟨signature.type, locals.map (·.2), body⟩] }
  | .table _ _ type => .ok { m with tables := m.tables ++ [type] }
  | .memory _ _ type => .ok { m with memories := m.memories ++ [type] }
  | .global _ _ type init => do
    let init ← init.mapM (resolveInstr names [])
    return { m with globals := m.globals ++ [⟨type, init⟩] }
  | .export_ name kind index => do
    let index ← index.resolve (names.of kind)
    return { m with exports := m.exports ++ [⟨name, kind, index⟩] }
  | .start index => do
    let index ← index.resolve names.func
    match m.start with
    | some _ => throw .manyStarts
    | none => return { m with start := some index }
  | .nothing => .ok m

/-- The module that fields make up. -/
def assemble (fs : List Field) : Except TextFault Module := do
  let fs := spreadExports {} fs
  if hasLateImport fs then throw .lateImport
  let names := Names.ofFields fs
  if [ExternKind.func, .table, .memory, .global].any fun k => hasDuplicateId (names.of k) then
    throw .duplicateId
  fs.foldlM (addField names) {}

/-- The module of fields that stand in a `module` form, or without one. -/
def readFields (items : List Sexp) : Except TextFault Module := do
  assemble (← items.mapM readField)

/-! ## Texts -/

/-- What a text describes. -/
inductive Source where
  /-- A module, by its fields. -/
  | module (m : Module)
  /-- Anything, by its bytes. -/
  | binary (bytes : List UInt8)
deriving DecidableEq, Repr

/-- The bytes that strings give one after the other. -/
def readBytes : List Sexp → Except TextFault (List UInt8)
  | [] => .ok []
  | .text bytes :: rest => do return bytes ++ (← readBytes rest)
  | _ => .error .badForm

/-- Reads the items of a `module` form. -/
def readModule (items : List Sexp) : Except TextFault Source := do
  match (takeId items).2 with
  | .word "binary" :: items => return .binary (← readBytes items)
  | items => return .module (← readFields items)

/-- The bytes of a component without fields. -/
def emptyComponent : List UInt8 :=
  [0x00, 0x61, 0x73, 0x6D, 0x0D, 0x00, 0x01, 0x00]

mutual

/-- Reads the items of a `component` form. -/
def readComponent : List Sexp → Except TextFault Unit
  | .word s :: items =>
    if isId s then readComponentBody items
    else if s = "binary" then do let _ ← readBytes items
    else .error .badForm
  | items => readComponentBody items
termination_by items => (sizeOf items, 2)

/-- Reads what follows the identifier of a component. -/
def readComponentBody : List Sexp → Except TextFault Unit
  | .note "name" [.text bytes] :: items => do
    let _ ← readName bytes
    readComponentFields items
  | .word "binary" :: items => do let _ ← readBytes items
  | items => readComponentFields items
termination_by items => (sizeOf items, 1)

/-- Reads the fields of a component, which are other components and modules. -/
def readComponentFields : List Sexp → Except TextFault Unit
  | [] => .ok ()
  | .form (.word "component" :: items) :: rest => do
    readComponent items
    readComponentFields rest
  | .form (.word "core" :: .word "module" :: items) :: rest => do
    let _ ← readModule items
    readComponentFields rest
  | _ => .error .badForm
termination_by items => (sizeOf items, 0)

end

/-- What expressions describe: one `module` or `component` form, or the fields of a module. -/
def Source.ofSexps : List Sexp → Except TextFault Source
  | .form (.word "module" :: items) :: rest =>
    if rest.isEmpty then readModule items else .error .badForm
  | .form (.word "component" :: items) :: rest => do
    if !rest.isEmpty then throw .badForm
    readComponent items
    return .binary emptyComponent
  | items => do return .module (← readFields items)

/-- Reads a text. -/
def Source.read (s : String) : Except TextFault Source := do
  let ts ← tokens s.toList
  if ts.isEmpty then throw .badForm
  Source.ofSexps (← Sexp.ofTokens ts)

end UnitFoundry.Wasm.Text
