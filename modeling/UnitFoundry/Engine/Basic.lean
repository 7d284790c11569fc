import UnitFoundry.Files.Basic
import UnitFoundry.Outcome
import UnitFoundry.Wasm.Types

/-! # Engines

An engine reads WebAssembly and runs it. What compiles, links and calls units only uses an engine
through the operations that are listed here, so it works with any engine alike. Instances share a
store. The store stands for everything that running code sees, what the host answers included: the
same call in the same store has the same outcome. -/

namespace UnitFoundry

/-- Something that a module needs, of one of the types that an engine knows. -/
structure Import (T : Type) where
  /-- The name of the module that provides it. -/
  module : String
  /-- Its name there. -/
  name : String
  /-- Its type. -/
  type : T
deriving DecidableEq, Repr

/-- Why a module is not instantiated. -/
inductive LinkFault where
  /-- It cannot be, with what the linker knows. -/
  | refused (reason : String)
  /-- It could be, but that traps: its start function does, what it places at the start does not
  fit, or the store has no room for it. -/
  | trap (reason : String)
deriving DecidableEq, Repr

/-- What the fault says to a reader. -/
def LinkFault.message : LinkFault → String
  | .refused reason | .trap reason => reason

/-- What reads and runs modules. -/
structure Engine where
  /-- What is made of a source, before it is opened. -/
  Image : Type
  /-- Modules that have been opened. -/
  Module : Type
  /-- Modules in a store. -/
  Instance : Type
  /-- What instances share. -/
  Store : Type
  /-- What is known under the names of modules. -/
  Linker : Type
  /-- What a linker knows under a name. -/
  Extern : Type
  /-- The types of what modules import and export. -/
  ExternType : Type
  /-- Functions in a store. -/
  Func : Type
  /-- The types of functions. -/
  FuncType : Type
  /-- The types of values. -/
  ValType : Type
  /-- What functions take and return. -/
  Value : Type
  /-- Reads the text of a module. -/
  parse : String → Except String Image
  /-- The image in a file. -/
  ofBytes : ByteArray → Image
  /-- Opens an image, or the text in place of one. -/
  read : Image → Except String Module
  /-- Opens an image. -/
  load : Image → Except String Module
  /-- What a module needs, in order. -/
  imports : Module → List (Import ExternType)
  /-- What a module provides, in order, by name. -/
  exports : Module → List (String × ExternType)
  /-- A linker that knows what the host provides, and a store with that. -/
  host : Linker × Store
  /-- What a linker knows under the name of a module and a name. -/
  find? : Linker → String → String → Option Extern
  /-- Instantiates a module with what a linker knows. -/
  instantiate : Linker → Store → Module → Outcome LinkFault (Store × Instance)
  /-- What an instance provides, by name. -/
  externs : Instance → List (String × Extern)
  /-- Makes what an instance provides known under the name of a module. -/
  register : Linker → String → Instance → Except String Linker
  /-- The type of something in a store. -/
  externType? : Store → Extern → Option ExternType
  /-- Whether something of one type may stand for an import of another. -/
  meets : ExternType → ExternType → Bool
  /-- The function that an instance provides under a name, with its type. -/
  func? : Store → Instance → String → Option (Func × FuncType)
  /-- Calls a function with arguments. -/
  call : Store → Func → List Value → Outcome String (List Value) × Store
  /-- Why a function of a type cannot be called as one of another type, if it cannot. -/
  mismatch? : FuncType → FuncType → Option String
  /-- The type of a function among those of imports and exports. -/
  func : FuncType → ExternType
  /-- The types of the parameters. -/
  params : FuncType → List ValType
  /-- The types of the results. -/
  results : FuncType → List ValType
  /-- The type of a number among those of values. -/
  number : Wasm.NumType → ValType

/-- Why a file does not give a module. -/
inductive OpenFault where
  /-- The file cannot be read. -/
  | unreadable (f : Fault)
  /-- What the file holds is refused. -/
  | refused (reason : String)
deriving DecidableEq, Repr

/-- What the fault says to a reader. -/
def OpenFault.message : OpenFault → String
  | .unreadable f => "failed to read input file: " ++ f.message
  | .refused reason => reason

namespace Engine

variable (E : Engine)

/-- Opens the file that a path leads to, which holds an image or a text. -/
def ofFile (files : Files) (path : String) : Except OpenFault E.Module :=
  match files.read path with
  | .error f => .error (.unreadable f)
  | .ok bytes => (E.read (E.ofBytes bytes)).mapError .refused

/-- The names of the modules that a module imports from, once for each import. -/
def importNames (m : E.Module) : List String :=
  (E.imports m).map (·.module)

/-- The names of everything that a module provides. -/
def exportNames (m : E.Module) : List String :=
  (E.exports m).map (·.1)

/-- Whether a module provides something under a name. -/
def provides (m : E.Module) (name : String) : Bool :=
  (E.exportNames m).contains name

end Engine

end UnitFoundry
