import UnitFoundry.Wasm.Image
import UnitFoundry.Wasm.Linker

/-! # The interpreter as an engine

The interpreter reads a part of WebAssembly: bodies without branches, memories and tables that
nothing reads. Its host ends units and refuses every other call. -/

namespace UnitFoundry.Wasm

/-- Why a module is not instantiated, as engines tell it. -/
def LinkFault.told : LinkFault → UnitFoundry.LinkFault
  | .outOfBounds => .trap LinkFault.outOfBounds.message
  | .startTrap t => .trap (LinkFault.startTrap t).message
  | f => .refused f.message

/-- The address and the type of the function that an instance provides under a name. -/
def Instance.typedFunc? (i : Instance) (s : Store) (name : String) : Option (Nat × FuncType) := do
  let address ← i.func? name
  let f ← s.funcs[address]?
  return (address, f.type)

/-- What is said of a call with arguments, or as of a type, that do not fit. -/
def mismatch : String := "type mismatch"

/-- Calls a function by its address, if the arguments have the types of its parameters. -/
def invoke (s : Store) (address : Nat) (arguments : List Value) :
    Outcome String (List Value) × Store :=
  match s.funcs[address]? with
  | none => (.error Trap.stuck.message, s)
  | some f =>
    if arguments.map (·.type) = f.type.params then
      match call address arguments s with
      | (.ok results, s) => (.ok results, s)
      | (.error t, s) => (.error t.message, s)
    else (.error mismatch, s)

/-- The interpreter. -/
abbrev engine : Engine where
  Image := Image
  Module := ValidModule
  Instance := Instance
  Store := Store
  Linker := Linker
  Extern := Extern
  ExternType := ExternType
  Func := Nat
  FuncType := FuncType
  ValType := ValType
  Value := Value
  parse s := ((Text.Source.read s).map (·.image)).mapError (·.message)
  ofBytes := .binary
  read image := image.read.mapError (·.message)
  load image := image.load.mapError (·.message)
  imports m := m.module.imports
  exports m := m.module.typedExports
  host := Linker.host
  find? := Linker.find?
  instantiate l s m := .ofExcept ((l.instantiate s m.module).mapError (·.told))
  externs := Instance.exports
  register l name i := (l.register name i).mapError (·.message)
  externType? := Store.externType?
  meets := ExternType.meets
  func? s i name := i.typedFunc? s name
  call := invoke
  mismatch? actual expected := if actual = expected then none else some mismatch
  func := .func
  params := FuncType.params
  results := FuncType.results
  number := .num

end UnitFoundry.Wasm
