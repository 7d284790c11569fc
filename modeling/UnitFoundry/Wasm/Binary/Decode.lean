import UnitFoundry.Wasm.Binary.Encode
import UnitFoundry.Wasm.Bounds

/-! # Modules from bytes

Decoding splits the bytes behind the header into sections, which must be in order and hold
exactly what they announce, and reads each section on its own. Custom sections are skipped. -/

namespace UnitFoundry.Wasm

namespace Binary

/-- A reader that takes bytes from the front. -/
abbrev Reader (α : Type) : Type := List UInt8 → Except Fault (α × List UInt8)

/-- Reads one byte. -/
def readByte : Reader UInt8
  | [] => .error (.binary .truncated)
  | b :: bs => .ok (b, bs)

/-- Reads a natural number below `2 ^ 32`. -/
def readNat : Reader Nat := fun bs =>
  (readUnsigned 32 bs).mapError .binary

/-- Reads as many bytes as announced. -/
def readBytes (n : Nat) : Reader (List UInt8) := fun bs =>
  if n ≤ bs.length then .ok (bs.take n, bs.drop n) else .error (.binary .truncated)

/-- Reads a name. -/
def readName : Reader String := fun bs => do
  let (n, bs) ← readNat bs
  if nameLimit < n then throw (.invalid .tooMany)
  let (name, bs) ← readBytes n bs
  match String.fromUTF8? (ByteArray.mk name.toArray) with
  | some s => return (s, bs)
  | none => throw (.binary .badName)

/-- Reads `n` items. -/
def readTimes {α : Type} (read : Reader α) : Nat → Reader (List α)
  | 0, bs => .ok ([], bs)
  | n + 1, bs => do
    let (x, bs) ← read bs
    let (xs, bs) ← readTimes read n bs
    return (x :: xs, bs)

/-- Reads a sequence after its length. -/
def readVector {α : Type} (read : Reader α) : Reader (List α) := fun bs => do
  let (n, bs) ← readNat bs
  -- an item takes at least one byte
  if bs.length < n then throw (.binary .truncated)
  readTimes read n bs

/-- Reads the type of references. -/
def readRefType : Reader RefType := fun bs => do
  match ← readByte bs with
  | (0x70, bs) => return (.func, bs)
  | (0x6F, bs) => return (.extern_, bs)
  | _ => throw (.binary .badCode)

/-- Reads the type of a value. -/
def readValType : Reader ValType := fun bs => do
  match ← readByte bs with
  | (0x7F, bs) => return (.num .i32, bs)
  | (0x7E, bs) => return (.num .i64, bs)
  | (0x7D, bs) => return (.num .f32, bs)
  | (0x7C, bs) => return (.num .f64, bs)
  | (0x7B, bs) => return (.vector, bs)
  | (0x70, bs) => return (.ref .func, bs)
  | (0x6F, bs) => return (.ref .extern_, bs)
  | _ => throw (.binary .badCode)

/-- Reads the type of a function. -/
def readFuncType : Reader FuncType := fun bs => do
  match ← readByte bs with
  | (0x60, bs) =>
    let (params, bs) ← readVector readValType bs
    let (results, bs) ← readVector readValType bs
    if arityLimit < params.length || arityLimit < results.length then
      throw (.invalid .tooMany)
    return (⟨params, results⟩, bs)
  | _ => throw (.binary .badCode)

/-- Reads a size of a width in bits. -/
def readSize (width : Nat) : Reader Nat := fun bs =>
  (readUnsigned width bs).mapError .binary

/-- Reads sizes. -/
def readLimits : Reader Limits := fun bs => do
  let (flags, bs) ← readByte bs
  let isWide := flags = 0x04 || flags = 0x05
  let width := if isWide then 64 else 32
  match flags with
  | 0x00 | 0x04 =>
    let (least, bs) ← readSize width bs
    return (⟨least, none, isWide⟩, bs)
  | 0x01 | 0x05 =>
    let (least, bs) ← readSize width bs
    let (most, bs) ← readSize width bs
    return (⟨least, some most, isWide⟩, bs)
  | _ => throw (.binary .badCode)

/-- Reads the type of a table. -/
def readTableType : Reader TableType := fun bs => do
  let (element, bs) ← readRefType bs
  let (limits, bs) ← readLimits bs
  return (⟨element, limits⟩, bs)

/-- Reads the type of a global. -/
def readGlobalType : Reader GlobalType := fun bs => do
  let (value, bs) ← readValType bs
  match ← readByte bs with
  | (0x00, bs) => return (⟨false, value⟩, bs)
  | (0x01, bs) => return (⟨true, value⟩, bs)
  | _ => throw (.binary .badCode)

/-- Reads an import, given the types of functions. -/
def readImport (types : List FuncType) : Reader Import := fun bs => do
  let (module, bs) ← readName bs
  let (name, bs) ← readName bs
  match ← readByte bs with
  | (0x00, bs) =>
    let (i, bs) ← readNat bs
    match types[i]? with
    | some t => return (⟨module, name, .func t⟩, bs)
    | none => throw (.invalid .unknownIndex)
  | (0x01, bs) =>
    let (t, bs) ← readTableType bs
    return (⟨module, name, .table t⟩, bs)
  | (0x02, bs) =>
    let (t, bs) ← readLimits bs
    return (⟨module, name, .memory t⟩, bs)
  | (0x03, bs) =>
    let (t, bs) ← readGlobalType bs
    return (⟨module, name, .global t⟩, bs)
  | _ => throw (.binary .badCode)

/-- Reads an instruction whose code has been read. -/
def readInstr (code : UInt8) : Reader (Instr Nat) := fun bs => do
  let indexed (make : Nat → Instr Nat) : Except Fault (Instr Nat × List UInt8) := do
    let (i, bs) ← readNat bs
    return (make i, bs)
  match code with
  | 0x00 => return (.unreachable, bs)
  | 0x01 => return (.nop, bs)
  | 0x1A => return (.drop, bs)
  | 0x10 => indexed .call
  | 0x20 => indexed .localGet
  | 0x23 => indexed .globalGet
  | 0x24 => indexed .globalSet
  | 0x41 =>
    let (i, bs) ← (readSigned 32 bs).mapError Fault.binary
    return (.i32Const (UInt32.ofNat (i % 0x100000000).toNat), bs)
  | 0x42 =>
    let (i, bs) ← (readSigned 64 bs).mapError Fault.binary
    return (.i64Const (UInt64.ofNat (i % 0x10000000000000000).toNat), bs)
  | 0xD0 =>
    let (t, bs) ← readRefType bs
    return (.refNull t, bs)
  | code =>
    match NumericOp.all.find? (·.code = code) with
    | some op => return (.numeric op, bs)
    | none => throw (.binary .badCode)

/-- Reads instructions up to the mark of their end. Each takes a byte at least, so the number of
bytes bounds the number of instructions. -/
def readExpr (bs : List UInt8) : Except Fault (List (Instr Nat) × List UInt8) :=
  go bs.length bs
where
  /-- Reads at most `n` instructions. -/
  go : Nat → Reader (List (Instr Nat))
    | 0, _ => .error (.binary .truncated)
    | n + 1, bs => do
      let (code, bs) ← readByte bs
      if code = 0x0B then return ([], bs)
      let (i, bs) ← readInstr code bs
      let (is, bs) ← go n bs
      return (i :: is, bs)

/-- Reads a global. -/
def readGlobal : Reader Global := fun bs => do
  let (type, bs) ← readGlobalType bs
  let (init, bs) ← readExpr bs
  return (⟨type, init⟩, bs)

/-- Reads an export. -/
def readExport : Reader Export := fun bs => do
  let (name, bs) ← readName bs
  let (kind, bs) ← readByte bs
  let (index, bs) ← readNat bs
  match kind with
  | 0x00 => return (⟨name, .func, index⟩, bs)
  | 0x01 => return (⟨name, .table, index⟩, bs)
  | 0x02 => return (⟨name, .memory, index⟩, bs)
  | 0x03 => return (⟨name, .global, index⟩, bs)
  | _ => throw (.binary .badCode)

/-- Reads a group of locals of one type. -/
def readLocals : Reader (Nat × ValType) := fun bs => do
  let (n, bs) ← readNat bs
  let (t, bs) ← readValType bs
  return ((n, t), bs)

/-- Reads locals and a body, which fill their announced size. -/
def readCode : Reader (List ValType × List (Instr Nat)) := fun bs => do
  let (n, bs) ← readNat bs
  let (code, bs) ← readBytes n bs
  let (groups, body) ← readVector readLocals code
  let count := groups.foldl (fun count group => count + group.1) 0
  if localCountLimit < count then throw (.invalid .tooMany)
  match ← readExpr body with
  | (is, []) => return ((groups.flatMap fun (n, t) => List.replicate n t, is), bs)
  | _ => throw (.binary .badSection)

/-- Reads where an active segment goes, and the instructions that compute the place there. The
index is left out for the first table or memory. -/
def readTarget (hasIndex : Bool) : Reader SegmentMode := fun bs => do
  let (i, bs) ← if hasIndex then readNat bs else .ok (0, bs)
  let (offset, bs) ← readExpr bs
  return (.active i offset, bs)

/-- Reads a segment of references. Its first number tells the mode, and whether the references are
computed; only for the first table without computed references is their type left out. -/
def readElement : Reader ElementSegment := fun bs => do
  let (flags, bs) ← readNat bs
  if 7 < flags then throw (.binary .badCode)
  let (mode, bs) ←
    match flags % 4 with
    | 1 => .ok (.passive, bs)
    | 3 => .ok (.declared, bs)
    | k => readTarget (k = 2) bs
  if flags < 4 then
    let bs ←
      if flags = 0 then .ok bs
      else
        match ← readByte bs with
        | (0x00, bs) => .ok bs
        | _ => .error (.binary .badCode)
    let (is, bs) ← readVector readNat bs
    return (⟨mode, .funcs is⟩, bs)
  else
    let (t, bs) ← if flags = 4 then .ok (.func, bs) else readRefType bs
    let (inits, bs) ← readVector readExpr bs
    return (⟨mode, .exprs t inits⟩, bs)

/-- Reads a segment of bytes. -/
def readData : Reader DataSegment := fun bs => do
  let (flags, bs) ← readNat bs
  let (mode, bs) ←
    match flags with
    | 0 => readTarget false bs
    | 1 => .ok (.passive, bs)
    | 2 => readTarget true bs
    | _ => .error (.binary .badCode)
  let (n, bs) ← readNat bs
  let (bytes, bs) ← readBytes n bs
  return (⟨mode, bytes⟩, bs)

/-- Splits bytes into sections, each with its number. A section takes a byte at least, so the
number of bytes bounds the number of sections. -/
def splitSections (bs : List UInt8) : Except Fault (List (UInt8 × List UInt8)) :=
  go bs.length bs
where
  /-- Splits off at most `n` sections. -/
  go : Nat → List UInt8 → Except Fault (List (UInt8 × List UInt8))
    | _, [] => .ok []
    | 0, _ => .error (.binary .truncated)
    | n + 1, id :: bs => do
      let (size, bs) ← readNat bs
      let (content, bs) ← readBytes size bs
      return (id, content) :: (← go n bs)

/-- Reads a section as a whole. -/
def readWhole {α : Type} (read : Reader α) (content : List UInt8) : Except Fault α := do
  match ← read content with
  | (x, []) => return x
  | _ => throw (.binary .badSection)

/-- What the sections read so far have told. -/
structure Contents where
  /-- The module, without bodies. -/
  module : Module := {}
  /-- The types of functions. -/
  types : List FuncType := []
  /-- The types of the functions that the module defines. -/
  declared : List FuncType := []
  /-- The locals and bodies of the functions that the module defines. -/
  bodies : List (List ValType × List (Instr Nat)) := []
  /-- The number of segments of bytes, if it is announced. -/
  dataCount : Option Nat := none
  /-- The place of the last section that is not custom. -/
  last : Nat := 0

/-- The place of a section among all kinds of sections. Sections stand in the order of their
numbers, but the number of segments of bytes is announced before the bodies. -/
def sectionPlace? (id : UInt8) : Option Nat :=
  match id with
  | 12 => some 10
  | 10 => some 11
  | 11 => some 12
  | id => if id ≤ 9 then some id.toNat else none

/-- Reads a section. -/
def Contents.addSection (c : Contents) (id : UInt8) (content : List UInt8) :
    Except Fault Contents := do
  if id = 0 then
    let _ ← readName content
    return c
  let some place := sectionPlace? id | throw (.binary .badCode)
  if place ≤ c.last then throw (.binary .badSection)
  let c := { c with last := place }
  match id with
  | 1 =>
    let types ← readWhole (readVector readFuncType) content
    if typeCountLimit < types.length then throw (.invalid .tooMany)
    return { c with types }
  | 2 =>
    let imports ← readWhole (readVector (readImport c.types)) content
    return { c with module := { c.module with imports } }
  | 3 =>
    let indices ← readWhole (readVector readNat) content
    let declared ← indices.mapM fun i =>
      match c.types[i]? with
      | some t => .ok t
      | none => .error (Fault.invalid .unknownIndex)
    return { c with declared }
  | 4 =>
    let tables ← readWhole (readVector readTableType) content
    return { c with module := { c.module with tables } }
  | 5 =>
    let memories ← readWhole (readVector readLimits) content
    return { c with module := { c.module with memories } }
  | 6 =>
    let globals ← readWhole (readVector readGlobal) content
    return { c with module := { c.module with globals } }
  | 7 =>
    let exports ← readWhole (readVector readExport) content
    return { c with module := { c.module with exports } }
  | 8 =>
    let start ← readWhole readNat content
    return { c with module := { c.module with start := some start } }
  | 9 =>
    let elements ← readWhole (readVector readElement) content
    return { c with module := { c.module with elements } }
  | 10 => return { c with bodies := ← readWhole (readVector readCode) content }
  | 11 =>
    let data ← readWhole (readVector readData) content
    return { c with module := { c.module with data } }
  | 12 => return { c with dataCount := some (← readWhole readNat content) }
  | _ => throw (.binary .badCode)

end Binary

open Binary

/-- The module that bytes encode. -/
def Module.decode (bytes : ByteArray) : Except Fault Module := do
  let bs := bytes.toList
  if !header.isPrefixOf bs then throw (.binary .badHeader)
  let sections ← splitSections (bs.drop header.length)
  let c ← sections.foldlM (fun c (id, content) => c.addSection id content) ({} : Contents)
  if c.declared.length ≠ c.bodies.length then throw (.binary .badSection)
  if c.dataCount.any (· ≠ c.module.data.length) then throw (.binary .badSection)
  return { c.module with
    funcs := c.declared.zipWith (fun t (locals, body) => ⟨t, locals, body⟩) c.bodies }

end UnitFoundry.Wasm
