import UnitFoundry.Compile.Diagnostic
import UnitFoundry.Engine.Basic
import UnitFoundry.Program.Run
import UnitFoundry.Reference.Basic

/-! # Compilers

A compiler is asked to make a unit of a source that may use references. It answers with
diagnostics and, unless the source is beyond it, with an image of the unit. A compiler that cannot
work at all fails instead. -/

namespace UnitFoundry

/-- What a unit is made for. -/
inductive OutputKind where
  /-- Its members are called one by one. -/
  | library
  /-- It is run from its entry point. -/
  | command
deriving DecidableEq, Repr

/-- The name of a kind of unit among the crate types. -/
def OutputKind.crateType : OutputKind → String
  | .library => "cdylib"
  | .command => "bin"

/-- The member that a command is run from. -/
def OutputKind.entryPoint : String := "_start"

/-- What a compiler is asked for. -/
structure CompileRequest where
  /-- The name of the new unit. -/
  unitName : String
  /-- The source. -/
  source : String
  /-- The references that the source may use. -/
  references : List Reference
  /-- What the unit is made for. -/
  kind : OutputKind
  /-- Whether warnings count as errors. -/
  warningsAsErrors : Bool
deriving DecidableEq, Repr

/-- What a compiler answers. -/
structure CompilerOutput (E : Engine) where
  /-- The image of the unit, if there is one. -/
  image : Option E.Image := none
  /-- What the compiler has to say about the source. -/
  diagnostics : List Diagnostic := []

/-- Why a compiler does not answer. -/
inductive CompilerFailure where
  /-- It cannot be started. -/
  | unavailable (compiler reason : String)
  /-- A file operation fails. -/
  | files (f : Fault)
deriving DecidableEq, Repr

/-- What comes of asking a compiler. -/
structure Compilation (E : Engine) where
  /-- The answer. -/
  result : Except CompilerFailure (CompilerOutput E)
  /-- The programs that have been run. -/
  calls : List Call := []

/-- What makes units of sources. -/
structure Compiler (E : Engine) where
  /-- Its name. -/
  name : String
  /-- What comes of a request, given the files. -/
  compile : Files → CompileRequest → Compilation E

/-- A compiler that answers every request alike. -/
def Compiler.constant {E : Engine} (name : String)
    (result : Except CompilerFailure (CompilerOutput E)) : Compiler E :=
  { name, compile := fun _ _ => { result } }

end UnitFoundry
