import UnitFoundry.Wasm.Module
import UnitFoundry.Wasm.Text.Number
import UnitFoundry.Wasm.Text.Sexp

/-! # Module fields

The fields of a module as its text gives them: definitions may have identifiers, and indices may
be identifiers. Each reader takes the expressions of one form apart. -/

namespace UnitFoundry.Wasm.Text

/-- A way to refer to a definition. -/
inductive Index where
  /-- By its identifier. -/
  | id (s : String)
  /-- By its number. -/
  | number (n : Nat)
deriving DecidableEq, Repr

/-- The parameters, with their identifiers, and the results of a function. -/
structure Signature where
  /-- The parameters. -/
  params : List (Option String × ValType) := []
  /-- The types of the results. -/
  results : List ValType := []
deriving DecidableEq, Repr

/-- The type of a function with this signature. -/
def Signature.type (s : Signature) : FuncType :=
  ⟨s.params.map (·.2), s.results⟩

/-- A field of a module. -/
inductive Field where
  /-- Something that the module needs, with the names under which it is provided again. -/
  | import_ (module name : String) (id : Option String) (exports : List String) (type : ExternType)
  /-- A function, with the names under which it is provided, and the identifiers and types of its
  locals besides the parameters. -/
  | func (id : Option String) (exports : List String) (signature : Signature)
      (locals : List (Option String × ValType)) (body : List (Instr Index))
  /-- A table. -/
  | table (id : Option String) (exports : List String) (type : TableType)
  /-- A memory. -/
  | memory (id : Option String) (exports : List String) (type : Limits)
  /-- A global. -/
  | global (id : Option String) (exports : List String) (type : GlobalType)
      (init : List (Instr Index))
  /-- Something that the module provides. -/
  | export_ (name : String) (kind : ExternKind) (index : Index)
  /-- The start function. -/
  | start (index : Index)
  /-- What has no effect on the module. -/
  | nothing
deriving DecidableEq, Repr

/-! ## Words -/

/-- Whether a word is an identifier. -/
def isId (s : String) : Bool :=
  match s.toList with
  | '$' :: _ :: _ => true
  | _ => false

/-- The name that a string gives. -/
def readName (bytes : List UInt8) : Except TextFault String :=
  match String.fromUTF8? (ByteArray.mk bytes.toArray) with
  | some s => .ok s
  | none => .error .badName

/-- Leaves a name in front out that is only for readers. -/
def dropName : List Sexp → List Sexp
  | .note "name" [.text bytes] :: rest =>
    if (readName bytes).isOk then rest else .note "name" [.text bytes] :: rest
  | items => items

/-- Splits an identifier off the front, with the name for readers that may follow it. -/
def takeId : List Sexp → Option String × List Sexp
  | .word s :: rest =>
    if isId s then (some s, dropName rest) else (none, .word s :: rest)
  | items => (none, dropName items)

/-- The index that a word gives. -/
def readIndex (s : String) : Except TextFault Index :=
  if isId s then .ok (.id s)
  else
    match natural? s with
    | some n => .ok (.number n)
    | none => .error .badForm

/-! ## Types -/

/-- What references to something of a kind are, by the name or the number of the kind. -/
def heapType? (s : String) : Option RefType :=
  if s = "func" then some .func
  else if s = "extern" then some .extern_
  else if ["any", "eq", "i31", "struct", "array", "exn", "noexn", "cont", "nocont", "none",
      "nofunc", "noextern"].contains s || (natural? s).isSome then some .other
  else none

/-- The type of references that an expression gives. -/
def refType? : Sexp → Option RefType
  | .word "funcref" => some .func
  | .word "externref" => some .extern_
  | .word s =>
    if ["anyref", "eqref", "i31ref", "structref", "arrayref", "exnref", "contref", "nullref",
      "nullfuncref", "nullexternref", "nullexnref", "nullcontref"].contains s then some .other
    else none
  | .form [.word "ref", .word "null", .word s] => heapType? s
  | .form [.word "ref", .word s] => (heapType? s).map fun _ => .other
  | _ => none

/-- The type of numbers or vectors of a name. -/
def plainType? : String → Option ValType
  | "i32" => some (.num .i32)
  | "i64" => some (.num .i64)
  | "f32" => some (.num .f32)
  | "f64" => some (.num .f64)
  | "v128" => some .vector
  | _ => none

/-- The value type that an expression gives. -/
def readValType (s : Sexp) : Except TextFault ValType :=
  let plain := match s with
    | .word s => plainType? s
    | _ => none
  match plain <|> (refType? s).map .ref with
  | some t => .ok t
  | none => .error .badForm

/-- The parameters that the items of one `param` form give. -/
def readParams (items : List Sexp) : Except TextFault (List (Option String × ValType)) :=
  match takeId items with
  | (some id, [t]) => do return [(some id, ← readValType t)]
  | (some _, _) => .error .badForm
  | (none, ts) => do return (← ts.mapM readValType).map (none, ·)

/-- Reads the parameters and the results in front, no parameter behind a result; what follows is
returned. -/
def readSignature (acc : Signature) : List Sexp → Except TextFault (Signature × List Sexp)
  | .form (.word "param" :: ts) :: rest => do
    if !acc.results.isEmpty then throw .badForm
    readSignature { acc with params := acc.params ++ (← readParams ts) } rest
  | .form (.word "result" :: ts) :: rest => do
    readSignature { acc with results := acc.results ++ (← ts.mapM readValType) } rest
  | items => .ok (acc, items)

/-- Reads the locals in front, which are written as parameters are; what follows is returned. -/
def readLocals (acc : List (Option String × ValType)) :
    List Sexp → Except TextFault (List (Option String × ValType) × List Sexp)
  | .form (.word "local" :: ts) :: rest => do readLocals (acc ++ (← readParams ts)) rest
  | items => .ok (acc, items)

/-- Reads the type of a global. -/
def readGlobalType : Sexp → Except TextFault GlobalType
  | .form [.word "mut", t] => do return ⟨true, ← readValType t⟩
  | t => do return ⟨false, ← readValType t⟩

/-- Reads a size. -/
def readSize (s : String) : Except TextFault Nat :=
  match naturalOf? 64 s with
  | some n => .ok n
  | none => .error .badForm

/-- Reads sizes in front. -/
def readSizes (isWide : Bool) : List Sexp → Except TextFault (Limits × List Sexp)
  | .word least :: .word most :: rest => do
    let least ← readSize least
    if (integer? most).isSome then return (⟨least, some (← readSize most), isWide⟩, rest)
    else return (⟨least, none, isWide⟩, .word most :: rest)
  | .word least :: rest => do return (⟨← readSize least, none, isWide⟩, rest)
  | _ => .error .badForm

/-- Reads sizes in front, and what they are counted with. -/
def readLimits : List Sexp → Except TextFault (Limits × List Sexp)
  | .word "i32" :: rest => readSizes false rest
  | .word "i64" :: rest => readSizes true rest
  | items => readSizes false items

/-- Reads the type of a table in front. -/
def readTableType (items : List Sexp) : Except TextFault (TableType × List Sexp) := do
  match ← readLimits items with
  | (limits, t :: rest) =>
    match refType? t with
    | some t => return (⟨t, limits⟩, rest)
    | none => throw .badForm
  | _ => throw .badForm

/-- Reads the type of a memory. -/
def readMemoryType (items : List Sexp) : Except TextFault Limits := do
  match ← readLimits items with
  | (limits, []) => return limits
  | _ => throw .badForm

/-! ## Instructions -/

/-- An instruction that needs one immediate, given its name and the immediate. -/
def readImmediate (name immediate : String) : Except TextFault (Instr Index) :=
  match name with
  | "local.get" => do return .localGet (← readIndex immediate)
  | "global.get" => do return .globalGet (← readIndex immediate)
  | "global.set" => do return .globalSet (← readIndex immediate)
  | "call" => do return .call (← readIndex immediate)
  | "i32.const" =>
    match constant? 32 immediate with
    | some n => .ok (.i32Const (UInt32.ofNat n))
    | none => .error .badForm
  | "i64.const" =>
    match constant? 64 immediate with
    | some n => .ok (.i64Const (UInt64.ofNat n))
    | none => .error .badForm
  | "ref.null" =>
    match heapType? immediate with
    | some t => .ok (.refNull t)
    | none => .error .badForm
  | _ => .error .badForm

/-- An instruction that needs no immediate. -/
def plainInstr? (name : String) : Option (Instr Index) :=
  match name with
  | "unreachable" => some .unreachable
  | "nop" => some .nop
  | "drop" => some .drop
  | _ => (NumericOp.all.find? (·.name = name)).map .numeric

mutual

/-- Reads a sequence of instructions, plain ones and folded ones. -/
def readInstrs : List Sexp → Except TextFault (List (Instr Index))
  | [] => .ok []
  | .text _ :: _ | .note .. :: _ | .reserved :: _ => .error .badForm
  | .form items :: rest => do return (← readFolded items) ++ (← readInstrs rest)
  | .word name :: rest =>
    match plainInstr? name with
    | some i => do return i :: (← readInstrs rest)
    | none =>
      match rest with
      | .word immediate :: rest => do
        return (← readImmediate name immediate) :: (← readInstrs rest)
      | _ => .error .badForm

/-- Reads a folded instruction: the instruction itself comes after those that stand with it. -/
def readFolded : List Sexp → Except TextFault (List (Instr Index))
  | .word name :: rest =>
    match plainInstr? name with
    | some i => do return (← readInstrs rest) ++ [i]
    | none =>
      match rest with
      | .word immediate :: rest => do
        let i ← readImmediate name immediate
        return (← readInstrs rest) ++ [i]
      | _ => .error .badForm
  | _ => .error .badForm

end

/-! ## Fields -/

/-- Reads the names in front under which a definition is provided. -/
def readExports (acc : List String) : List Sexp → Except TextFault (List String × List Sexp)
  | .form [.word "export", .text name] :: rest => do readExports (acc ++ [← readName name]) rest
  | items => .ok (acc, items)

/-- The kind that a word gives. -/
def externKind? : String → Option ExternKind
  | "func" => some .func
  | "table" => some .table
  | "memory" => some .memory
  | "global" => some .global
  | _ => none

/-- Reads what an import asks for. -/
def readExternType (kind : ExternKind) (items : List Sexp) : Except TextFault ExternType := do
  match kind with
  | .func =>
    match ← readSignature {} items with
    | (signature, []) => return .func signature.type
    | _ => throw .badForm
  | .table =>
    match ← readTableType items with
    | (t, []) => return .table t
    | _ => throw .badForm
  | .memory => return .memory (← readMemoryType items)
  | .global =>
    match items with
    | [t] => return .global (← readGlobalType t)
    | _ => throw .badForm

/-- Reads the form of a definition, or of an import that is written as one. -/
def readDefinition (kind : ExternKind) (items : List Sexp) : Except TextFault Field := do
  let (id, items) := takeId items
  let (exports, items) ← readExports [] items
  match items with
  | .form [.word "import", .text module, .text name] :: items =>
    return .import_ (← readName module) (← readName name) id exports (← readExternType kind items)
  | items =>
    match kind with
    | .func =>
      let (signature, items) ← readSignature {} items
      let (locals, body) ← readLocals [] items
      return .func id exports signature locals (← readInstrs body)
    | .table =>
      -- a table of computed references counts as one of references that no module may use
      let (t, init) ← readTableType items
      let _ ← readInstrs init
      return .table id exports { t with element := if init.isEmpty then t.element else .other }
    | .memory => return .memory id exports (← readMemoryType items)
    | .global =>
      match items with
      | t :: init => return .global id exports (← readGlobalType t) (← readInstrs init)
      | [] => throw .badForm

/-- Whether a form says where a custom section stands. -/
def isPlace : Sexp → Bool
  | .form [.word side, .word anchor] =>
    (side = "before" && anchor = "first") || (side = "after" && anchor = "last") ||
      ((side = "before" || side = "after") &&
        ["type", "import", "func", "table", "memory", "global", "export", "start", "elem", "code",
          "data", "tag"].contains anchor)
  | _ => false

/-- Whether an item is a string. -/
def isString : Sexp → Bool
  | .text _ => true
  | _ => false

/-- Whether a form tells by what the module was made. -/
def isProducer : Sexp → Bool
  | .form [.word role, .text name, .text version] =>
    ["language", "sdk", "processed-by"].contains role && (readName name).isOk &&
      (readName version).isOk
  | _ => false

/-- Whether an annotation may stand among the fields. -/
def isFieldNote (name : String) (items : List Sexp) : Bool :=
  match name, items with
  | "custom", .text name :: items =>
    (readName name).isOk &&
      (if items.head?.any isPlace then items.tail else items).all isString
  | "producers", items => items.all isProducer
  | _, _ => false

/-- Reads a field. -/
def readField : Sexp → Except TextFault Field
  | .form [.word "import", .text module, .text name, .form (.word kind :: items)] => do
    let module ← readName module
    let name ← readName name
    match externKind? kind with
    | none => throw .badForm
    | some kind =>
      let (id, items) := takeId items
      return .import_ module name id [] (← readExternType kind items)
  | .form [.word "export", .text name, .form [.word kind, .word index]] => do
    let name ← readName name
    match externKind? kind with
    | some kind => return .export_ name kind (← readIndex index)
    | none => throw .badForm
  | .form [.word "start", .word index] => do return .start (← readIndex index)
  | .form (.word kind :: items) =>
    match externKind? kind with
    | some kind => readDefinition kind items
    | none => .error .badForm
  | .note name items =>
    if isFieldNote name items then .ok .nothing else .error .badForm
  | _ => .error .badForm

end UnitFoundry.Wasm.Text
