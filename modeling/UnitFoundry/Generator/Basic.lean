import UnitFoundry.Emit.Script
import UnitFoundry.Gateway.Basic
import UnitFoundry.Resolve.Closure

/-! # Generators

A generator gathers references, beginning with those that every unit has, and makes units of
sources against everything gathered so far. -/

namespace UnitFoundry

/-- What gathers references and makes units. -/
structure Generator (E : Engine) where
  /-- What finds references. -/
  resolver : Resolver
  /-- What compiles and loads units. -/
  gateway : Gateway E
  /-- The references so far. -/
  references : ReferenceSet

/-- What comes of referencing a unit. -/
structure Referencing (E : Engine) where
  /-- The generator afterwards. -/
  generator : Generator E
  /-- How many references are new. -/
  result : Except ResolveError Nat
  /-- What has been noted. -/
  warnings : List ResolveWarning

/-- Why a script does not give a unit. -/
inductive GenerateError where
  /-- The script does not give a source. -/
  | emit (e : Emit.EmitError)
  /-- The source does not give a unit. -/
  | compile (e : CompileError)
deriving DecidableEq, Repr

/-- What is noted while a script is made into a unit. -/
inductive GenerateWarning where
  /-- A guard was dropped after its block had been closed. -/
  | late (r : Emit.LateRelease)
  /-- The compiler warns. -/
  | unit (w : UnitWarning)
deriving DecidableEq, Repr

/-- What the warning says to a reader. -/
def GenerateWarning.message : GenerateWarning → String
  | .late r => r.message
  | .unit w => w.message

/-- What comes of a script. -/
structure Generation (E : Engine) where
  /-- The unit. -/
  result : Outcome GenerateError (LoadedUnit E)
  /-- What has been noted. -/
  warnings : List GenerateWarning
  /-- The programs that have been run. -/
  calls : List Call := []

namespace Generator

variable {E : Engine}

/-- The generator of a resolver and a gateway. It starts with the references of every unit. -/
def ofParts (resolver : Resolver) (gateway : Gateway E) : Generator E :=
  { resolver, gateway, references := resolver.baseline }

/-- The generator of a configuration. -/
def ofConfig (c : GeneratorConfig) : Generator E :=
  ofParts { config := c.resolver, inspector := .ofEngine E }
    { config := c.gateway, compiler := .ofConfig c.compiler }

/-- The generator with another compiler. -/
def withCompiler (g : Generator E) (c : Compiler E) : Generator E :=
  { g with gateway := { g.gateway with compiler := c } }

/-- Adds a unit and everything that it needs to the references. -/
def referenceUnit (g : Generator E) (files : Files) (u : UnitHandle) : Referencing E :=
  let found := g.resolver.resolve files u
  match found.result with
  | .error e => { generator := g, result := .error e, warnings := found.warnings }
  | .ok s =>
    let m := g.references.extend s
    { generator := { g with references := m.set }
      result := .ok m.added
      warnings := found.warnings ++ m.warnings.map .nameTaken }

/-- Adds the unit in a file and everything that it needs to the references. -/
def referenceFile (g : Generator E) (files : Files) (path : String) : Referencing E :=
  g.referenceUnit files (.atPath path)

/-- Makes a unit of a source. -/
def generate (g : Generator E) (files : Files) (ending : String) (kind : OutputKind)
    (source : String) : Delivery E :=
  g.gateway.compile files ending kind source g.references

/-- Makes a library of the source that a script writes. -/
def generateWith (g : Generator E) (files : Files) (ending : String) (d : Emit.Dialect)
    (steps : List Emit.Step) : Generation E :=
  match Emit.build d steps with
  | (.error e, late) => { result := .error (.emit e), warnings := late.map .late }
  | (.ok source, late) =>
    let delivery := g.generate files ending .library source
    { result := delivery.result.mapError .compile
      warnings := late.map .late ++ delivery.warnings.map .unit
      calls := delivery.calls }

end Generator

end UnitFoundry
