import UnitFoundry.Compile.Rustc
import UnitFoundry.Compile.Wat
import UnitFoundry.Reference.Set
import UnitFoundry.Unit.Loaded

/-! # The gateway

The gateway has a source compiled against references and loads what comes of it under a new name.
Blocking diagnostics are an error; warnings that do not block are passed on. -/

namespace UnitFoundry

/-- Why no unit comes of a source. -/
inductive CompileError where
  /-- The compiler refuses the source. -/
  | refused (unit : String) (diagnostics : List Diagnostic) (source : String)
  /-- The compiler does not answer. -/
  | unanswered (f : CompilerFailure)
  /-- The compiler accepts the source and makes nothing of it. -/
  | nothingMade (unit : String)
  /-- The unit cannot be loaded. -/
  | notLoaded (unit : String) (f : LoadFault)
deriving DecidableEq, Repr

namespace CompileError

/-- What the error says to a reader. -/
def message : CompileError → String
  | .refused unit ds source =>
    "Compilation of '" ++ unit ++ "' failed!\n\n" ++ "\n".intercalate (ds.map (·.display)) ++
      "\n\nCode:\n\n" ++ source
  | .unanswered (.unavailable compiler reason) =>
    "Compiler '" ++ compiler ++ "' is unavailable: " ++ reason
  | .unanswered (.files f) => "I/O error: " ++ f.message
  | .nothingMade unit => "Compiler produced no binary for '" ++ unit ++ "'"
  | .notLoaded unit f => "Failed to load '" ++ unit ++ "': " ++ f.message

/-- The diagnostics that the error carries. -/
def diagnostics : CompileError → List Diagnostic
  | .refused _ ds _ => ds
  | _ => []

end CompileError

/-- A warning on a new unit. -/
structure UnitWarning where
  /-- The name of the unit. -/
  unit : String
  /-- The warning of the compiler. -/
  diagnostic : Diagnostic
deriving DecidableEq, Repr

/-- What the warning says to a reader. -/
def UnitWarning.message (w : UnitWarning) : String :=
  w.unit ++ ": " ++ w.diagnostic.display

/-- What comes of a source. -/
structure Delivery (E : Engine) where
  /-- The unit. -/
  result : Outcome CompileError (LoadedUnit E)
  /-- The warnings that did not block it. -/
  warnings : List UnitWarning := []
  /-- The programs that have been run. -/
  calls : List Call := []

/-- The compiler that a configuration chooses. -/
def Compiler.ofConfig {E : Engine} (c : CompilerConfig) : Compiler E :=
  match c.kind with
  | .wat => WatCompiler.compiler
  | .rustc => RustcCompiler.compiler c

/-- What compiles and loads units. -/
structure Gateway (E : Engine) where
  /-- How units are compiled and loaded. -/
  config : GatewayConfig := {}
  /-- The compiler. -/
  compiler : Compiler E

namespace Gateway

variable {E : Engine}

/-- What the compiler is asked for. The name of the new unit ends in a text that tells it apart
from all others. -/
def request (g : Gateway E) (ending : String) (kind : OutputKind) (source : String)
    (references : ReferenceSet) : CompileRequest :=
  { unitName := g.config.unitPrefix ++ ending
    source
    references := references.entries
    kind
    warningsAsErrors := g.config.warningsAsErrors }

/-- How the image that a compiler has made for a request is loaded. -/
abbrev Loader (E : Engine) := CompileRequest → E.Image → Outcome LoadFault (LoadedUnit E)

/-- The loader that links the references of the request. -/
def loader (files : Files) : Loader E :=
  fun r image => LoadedUnit.load files r.unitName image r.references

/-- The unit that comes of what a compiler answers. -/
def accept (load : Loader E) (r : CompileRequest) (o : CompilerOutput E) :
    Outcome CompileError (LoadedUnit E) :=
  match o.diagnostics.filter (·.isBlocking), o.image with
  | d :: ds, _ => .error (.refused r.unitName (d :: ds) r.source)
  | [], none => .error (.nothingMade r.unitName)
  | [], some image => (load r image).mapError (.notLoaded r.unitName)

/-- The warnings in what a compiler answers that do not block the unit. -/
def warningsOf (r : CompileRequest) (o : CompilerOutput E) : List UnitWarning :=
  (o.diagnostics.filter fun d => !d.isBlocking && d.severity = .warning).map (⟨r.unitName, ·⟩)

/-- Compiles the unit of a request and loads it. -/
def deliver (g : Gateway E) (load : Loader E) (files : Files) (r : CompileRequest) :
    Delivery E :=
  let c := g.compiler.compile files r
  match c.result with
  | .error f => { result := .error (.unanswered f), calls := c.calls }
  | .ok o => { result := accept load r o, warnings := warningsOf r o, calls := c.calls }

/-- Compiles a source against references and loads the unit. -/
def compile (g : Gateway E) (files : Files) (ending : String) (kind : OutputKind) (source : String)
    (references : ReferenceSet) : Delivery E :=
  g.deliver (loader files) files (g.request ending kind source references)

end Gateway

end UnitFoundry
