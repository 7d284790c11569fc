import UnitFoundry.Wasm.Store

/-! # Running code

A body is a sequence of instructions without branches, so a run is a fold over it, and only calls
nest. A function that calls itself, directly or through others, can only end in a trap, so a bound
on the depth of calls cuts no run short that would come to its results. What a run did to the
store before a trap stays done. -/

namespace UnitFoundry.Wasm

/-- A run that changes a store and may trap. -/
abbrev Run := ExceptT Trap (StateM Store)

/-- The result of an operation on two numbers. -/
def NumericOp.apply (op : NumericOp) (a b : Value) : Except Trap Value :=
  match op, a, b with
  | .i32Add, .i32 a, .i32 b => .ok (.i32 (a + b))
  | .i32Sub, .i32 a, .i32 b => .ok (.i32 (a - b))
  | .i32Mul, .i32 a, .i32 b => .ok (.i32 (a * b))
  | .i32DivS, .i32 a, .i32 b =>
    if b = 0 then .error .divideByZero
    else
      let q := a.toInt32.toInt.tdiv b.toInt32.toInt
      -- the one quotient that does not fit: the least number by minus one
      if q = 0x80000000 then .error .overflow else .ok (.i32 (Int32.ofInt q).toUInt32)
  | .i64Add, .i64 a, .i64 b => .ok (.i64 (a + b))
  | .i64Sub, .i64 a, .i64 b => .ok (.i64 (a - b))
  | .i64Mul, .i64 a, .i64 b => .ok (.i64 (a * b))
  | .f32Add, .f32 a, .f32 b => .ok (.f32 (Float32.ofBits a + Float32.ofBits b).toBits)
  | .f64Add, .f64 a, .f64 b => .ok (.f64 (Float.ofBits a + Float.ofBits b).toBits)
  | .f64Mul, .f64 a, .f64 b => .ok (.f64 (Float.ofBits a * Float.ofBits b).toBits)
  | _, _, _ => .error .stuck

/-- Runs an instruction on operands, the topmost first. Calls go through `callee`. -/
def runInstr (callee : Nat → List Value → Run (List Value)) (a : Addresses)
    (locals : List Value) (operands : List Value) : Instr Nat → Run (List Value)
  | .unreachable => throw .unreachable
  | .nop => return operands
  | .drop =>
    match operands with
    | _ :: rest => return rest
    | [] => throw .stuck
  | .localGet i =>
    match locals[i]? with
    | some v => return v :: operands
    | none => throw .stuck
  | .globalGet i => do
    match (← get).global? a i with
    | some (_, g) => return g.value :: operands
    | none => throw .stuck
  | .globalSet i => do
    match (← get).global? a i, operands with
    | some (address, _), v :: rest =>
      modify (·.setGlobal address v)
      return rest
    | _, _ => throw .stuck
  | .call i => do
    match (← get).func? a i with
    | some (address, f) =>
      let count := f.type.params.length
      -- the topmost operand is the last argument
      let results ← callee address (operands.take count).reverse
      return results.reverse ++ operands.drop count
    | none => throw .stuck
  | .i32Const v => return .i32 v :: operands
  | .i64Const v => return .i64 v :: operands
  | .refNull t => return .null t :: operands
  | .numeric op =>
    match operands with
    | b :: a :: rest => do return (← op.apply a b) :: rest
    | _ => throw .stuck

/-- Calls a function by its address, with at most `depth` calls nested in each other. -/
def callWithin : Nat → Nat → List Value → Run (List Value)
  | 0, _, _ => throw .exhausted
  | depth + 1, address, arguments => do
    match (← get).funcs[address]? with
    | none => throw .stuck
    | some (.host _ .exit) => throw .exit
    | some (.host _ .refuse) => throw .refused
    | some (.code t ls a body) =>
      let locals := arguments ++ ls.map ValType.zero
      let operands ← body.foldlM (runInstr (callWithin depth) a locals) []
      return (operands.take t.results.length).reverse

/-- How many calls may be nested in each other, besides one for each function. -/
def callDepth : Nat := 2000

/-- Calls a function by its address. -/
def call (address : Nat) (arguments : List Value) : Run (List Value) := do
  callWithin ((← get).funcs.size + callDepth) address arguments

end UnitFoundry.Wasm
