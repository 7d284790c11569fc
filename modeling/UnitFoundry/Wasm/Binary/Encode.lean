import UnitFoundry.Wasm.Binary.Leb128
import UnitFoundry.Wasm.Module

/-! # Modules to bytes

The binary of a module is a header and a sequence of sections. Each function and each imported
function has an entry of its own among the types. -/

namespace UnitFoundry.Wasm

namespace Binary

/-- The bytes at the start of every module of version 1. -/
def header : List UInt8 :=
  [0x00, 0x61, 0x73, 0x6D, 0x01, 0x00, 0x00, 0x00]

/-- A sequence with its length in front. -/
def encodeVector {α : Type} (encode : α → List UInt8) (xs : List α) : List UInt8 :=
  writeUnsigned xs.length ++ xs.flatMap encode

/-- Bytes with their number in front. -/
def encodeBytes (bytes : List UInt8) : List UInt8 :=
  writeUnsigned bytes.length ++ bytes

/-- A name. -/
def encodeName (s : String) : List UInt8 :=
  encodeBytes s.toUTF8.toList

/-- The type of references. -/
def encodeRefType : RefType → UInt8
  | .func => 0x70
  | .extern_ => 0x6F
  | .other => 0x6E

/-- The type of a value. -/
def encodeValType : ValType → UInt8
  | .num .i32 => 0x7F
  | .num .i64 => 0x7E
  | .num .f32 => 0x7D
  | .num .f64 => 0x7C
  | .vector => 0x7B
  | .ref t => encodeRefType t

/-- The type of a function. -/
def encodeFuncType (t : FuncType) : List UInt8 :=
  0x60 :: encodeVector (fun v => [encodeValType v]) t.params ++
    encodeVector (fun v => [encodeValType v]) t.results

/-- Sizes. -/
def encodeLimits (l : Limits) : List UInt8 :=
  match l.most with
  | none => (if l.isWide then 0x04 else 0x00) :: writeUnsigned l.least
  | some most =>
    (if l.isWide then 0x05 else 0x01) :: writeUnsigned l.least ++ writeUnsigned most

/-- The type of a table. -/
def encodeTableType (t : TableType) : List UInt8 :=
  encodeRefType t.element :: encodeLimits t.limits

/-- The type of a global. -/
def encodeGlobalType (t : GlobalType) : List UInt8 :=
  [encodeValType t.value, if t.isMutable then 0x01 else 0x00]

/-- The number of a kind. -/
def encodeKind : ExternKind → UInt8
  | .func => 0x00
  | .table => 0x01
  | .memory => 0x02
  | .global => 0x03

/-- An instruction. -/
def encodeInstr : Instr Nat → List UInt8
  | .unreachable => [0x00]
  | .nop => [0x01]
  | .drop => [0x1A]
  | .localGet i => 0x20 :: writeUnsigned i
  | .globalGet i => 0x23 :: writeUnsigned i
  | .globalSet i => 0x24 :: writeUnsigned i
  | .call i => 0x10 :: writeUnsigned i
  | .i32Const v => 0x41 :: writeSigned (v.toInt32.toInt)
  | .i64Const v => 0x42 :: writeSigned (v.toInt64.toInt)
  | .refNull t => [0xD0, encodeRefType t]
  | .numeric op => [op.code]

/-- Instructions and the mark of their end. -/
def encodeExpr (is : List (Instr Nat)) : List UInt8 :=
  is.flatMap encodeInstr ++ [0x0B]

/-- An import; function types are numbered by their place among the imported functions. -/
def encodeImports (next : Nat) : List Import → List UInt8
  | [] => []
  | i :: is =>
    let (desc, next) :=
      match i.type with
      | .func _ => (0x00 :: writeUnsigned next, next + 1)
      | .table t => (0x01 :: encodeTableType t, next)
      | .memory l => (0x02 :: encodeLimits l, next)
      | .global t => (0x03 :: encodeGlobalType t, next)
    encodeName i.module ++ encodeName i.name ++ desc ++ encodeImports next is

/-- The locals and the body of a function, each local in a group of its own. -/
def encodeCode (f : Func) : List UInt8 :=
  encodeBytes (encodeVector (fun t => [0x01, encodeValType t]) f.locals ++ encodeExpr f.body)

/-- A segment of references. -/
def encodeElement (e : ElementSegment) : List UInt8 :=
  let (kind, target) : Nat × List UInt8 :=
    match e.mode with
    | .passive => (1, [])
    | .active i offset => (2, writeUnsigned i ++ encodeExpr offset)
    | .declared => (3, [])
  match e.items with
  | .funcs is => writeUnsigned kind ++ target ++ 0x00 :: encodeVector writeUnsigned is
  | .exprs t inits =>
    writeUnsigned (kind + 4) ++ target ++ encodeRefType t :: encodeVector encodeExpr inits

/-- A segment of bytes. -/
def encodeData (d : DataSegment) : List UInt8 :=
  match d.mode with
  | .active i offset =>
    writeUnsigned 2 ++ writeUnsigned i ++ encodeExpr offset ++ encodeBytes d.bytes
  | .passive | .declared => writeUnsigned 1 ++ encodeBytes d.bytes

/-- A section, unless it would hold nothing. -/
def encodeSection (id : UInt8) (count : Nat) (content : List UInt8) : List UInt8 :=
  if count = 0 then [] else id :: encodeBytes (writeUnsigned count ++ content)

end Binary

open Binary

/-- The bytes of a module. -/
def Module.encode (m : Module) : ByteArray :=
  let firstOwn := m.funcTypes.length - m.funcs.length
  ByteArray.mk <| List.toArray <|
    header ++
    encodeSection 1 m.funcTypes.length (m.funcTypes.flatMap encodeFuncType) ++
    encodeSection 2 m.imports.length (encodeImports 0 m.imports) ++
    encodeSection 3 m.funcs.length
      ((List.range m.funcs.length).flatMap fun i => writeUnsigned (firstOwn + i)) ++
    encodeSection 4 m.tables.length (m.tables.flatMap encodeTableType) ++
    encodeSection 5 m.memories.length (m.memories.flatMap encodeLimits) ++
    encodeSection 6 m.globals.length
      (m.globals.flatMap fun g => encodeGlobalType g.type ++ encodeExpr g.init) ++
    encodeSection 7 m.exports.length
      (m.exports.flatMap fun e =>
        encodeName e.name ++ encodeKind e.kind :: writeUnsigned e.index) ++
    (match m.start with
      | some i => 8 :: encodeBytes (writeUnsigned i)
      | none => []) ++
    encodeSection 9 m.elements.length (m.elements.flatMap encodeElement) ++
    encodeSection 10 m.funcs.length (m.funcs.flatMap encodeCode) ++
    encodeSection 11 m.data.length (m.data.flatMap encodeData)

end UnitFoundry.Wasm
