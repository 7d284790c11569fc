import Std.Data.HashMap
import Std.Data.HashSet
import UnitFoundry.Compile.Request

/-! # The compiler of the text format

The compiler opens the source as a module and checks that each of its imports from a file is
exported there, so that a unit that uses what no reference provides is refused before it is loaded.
What the host provides is not checked here. Each referenced file is opened once. -/

namespace UnitFoundry.WatCompiler

/-- The name of the compiler. -/
def name : String := "wat"

/-- The diagnostic on a source that is not a text of the format. -/
def badSyntax (reason : String) : Diagnostic :=
  .error "wat-syntax" reason

/-- The diagnostic on a source that does not describe a valid module. -/
def invalid (reason : String) : Diagnostic :=
  .error "wasm-invalid" reason

/-- The diagnostic on an import from a module that no reference provides. -/
def unresolvedModule {T : Type} (i : Import T) : Diagnostic :=
  .error "unresolved-module"
    ("module \x60" ++ i.module ++ "\x60 (imported for \x60" ++ i.name ++
      "\x60) is not among the compile references")

/-- The diagnostic on an import from a file that does not export it. -/
def unresolvedSymbol {T : Type} (i : Import T) (r : Reference) (path : String) : Diagnostic :=
  .error "unresolved-symbol"
    ("\x60" ++ i.name ++ "\x60 is not exported by \x60" ++ r.name ++ "\x60 (" ++ path ++ ")")

/-- The diagnostic on an import from a file that holds no unit. -/
def unreadableReference (r : Reference) (path : String) (f : OpenFault) : Diagnostic :=
  .error "unreadable-reference"
    ("reference \x60" ++ r.name ++ "\x60 at " ++ path ++ " is not a valid unit: " ++ f.message)

/-- The diagnostic on a library without exports. -/
def noExports (unitName : String) : Diagnostic :=
  .warning "no-exports"
    ("unit \x60" ++ unitName ++ "\x60 exports nothing; no member will be callable")

/-- The diagnostic on a command without an entry point. -/
def missingEntryPoint : Diagnostic :=
  .error "missing-entry-point"
    ("command units must export \x60" ++ OutputKind.entryPoint ++ "\x60")

/-! ## Checking imports -/

/-- A check of imports under way. -/
structure ImportCheck (E : Engine) where
  /-- The module names that have been reported to be without a reference. -/
  missing : Std.HashSet String := ∅
  /-- What has come of opening references, by their names. -/
  opened : Std.HashMap String (Except OpenFault E.Module) := ∅
  /-- The diagnostics so far. -/
  diagnostics : List Diagnostic := []

namespace ImportCheck

variable {E : Engine}

/-- Adds a diagnostic. -/
def report (c : ImportCheck E) (d : Diagnostic) : ImportCheck E :=
  { c with diagnostics := c.diagnostics ++ [d] }

/-- What comes of opening a reference, which is done only once for a name. -/
def openReference (c : ImportCheck E) (files : Files) (name path : String) :
    ImportCheck E × Except OpenFault E.Module :=
  match c.opened[name]? with
  | some m => (c, m)
  | none =>
    let m := E.ofFile files path
    ({ c with opened := c.opened.insert name m }, m)

/-- Checks one more import. -/
def check (files : Files) (references : List Reference) (c : ImportCheck E)
    (i : Import E.ExternType) : ImportCheck E :=
  match references.find? (·.name = i.module) with
  | none =>
    -- one diagnostic for a module, however many of its names are imported
    if c.missing.contains i.module then c
    else { c with missing := c.missing.insert i.module }.report (unresolvedModule i)
  | some r =>
    match r.path? with
    -- what the host provides is left to the linker
    | none => c
    | some path =>
      match c.openReference files r.name path with
      | (c, .ok m) => if E.provides m i.name then c else c.report (unresolvedSymbol i r path)
      | (c, .error f) => c.report (unreadableReference r path f)

end ImportCheck

variable {E : Engine}

/-- The diagnostics on the imports of a module. -/
def checkImports (files : Files) (references : List Reference) (m : E.Module) : List Diagnostic :=
  ((E.imports m).foldl (ImportCheck.check files references) {}).diagnostics

/-- The diagnostics on what a module exports. -/
def checkExports (r : CompileRequest) (m : E.Module) : List Diagnostic :=
  match r.kind with
  | .library =>
    if (E.exports m).isEmpty then [(noExports r.unitName).escalated r.warningsAsErrors] else []
  | .command => if E.provides m OutputKind.entryPoint then [] else [missingEntryPoint]

/-! ## Compiling -/

/-- Makes a unit of a source. -/
def output (files : Files) (r : CompileRequest) : CompilerOutput E :=
  match E.parse r.source with
  | .error reason => { diagnostics := [badSyntax reason] }
  | .ok image =>
    match E.read image with
    | .error reason => { diagnostics := [invalid reason] }
    | .ok m =>
      { image := some image
        diagnostics := checkImports files r.references m ++ checkExports r m }

/-- The compiler. -/
def compiler : Compiler E :=
  { name, compile := fun files r => { result := .ok (output files r) } }

end UnitFoundry.WatCompiler
