import UnitFoundry.Compile.Message
import UnitFoundry.Compile.Request
import UnitFoundry.Config.Basic
import UnitFoundry.Text.Blank

/-! # The external compiler

The compiler writes the source to a scratch directory, runs an executable on it and reads what that
wrote beside it. Its diagnostics are the messages that the executable writes to standard error. A
run that fails without an error among them gives one that tells how it ended. -/

namespace UnitFoundry.RustcCompiler

/-- The name of the compiler. -/
def name : String := "rustc"

/-- The directory that one run works in. It is gone afterwards. -/
def scratch : Location := ["tmp", "dyngen-scratch"]

/-- What a path means when it starts from the scratch directory. -/
def scratchPath (path : String) : String :=
  Path.join (Files.textOf scratch) path

/-! ## Arguments -/

/-- Adds a directory to directories in order, in place of a path with the same parts, which names
the same directory. -/
def insertDirectory (d : String) : List String → List String
  | [] => [d]
  | e :: es =>
    if Path.parts d = Path.parts e then d :: es
    else if Path.partsLe (Path.parts d) (Path.parts e) then d :: e :: es
    else e :: insertDirectory d es

/-- The directories that hold references, each once and in order. -/
def searchDirectories (references : List Reference) : List String :=
  (references.filterMap fun r => r.path?.bind Path.parent?).foldl
    (fun ds d => insertDirectory d ds) []

/-- The path that the executable is told to write to. -/
def outputPath (unitName : String) : String :=
  scratchPath (unitName ++ ".wasm")

/-- The path of the source. -/
def sourcePath : String :=
  scratchPath "lib.rs"

/-- The arguments of a run. -/
def arguments (c : CompilerConfig) (r : CompileRequest) : List String :=
  ["--edition", c.edition, "--crate-type", r.kind.crateType, "--crate-name", r.unitName,
    "--target", c.target, "--error-format=json", "-C", "opt-level=2"] ++
  (if r.warningsAsErrors then ["-D", "warnings"] else []) ++
  (searchDirectories r.references).flatMap (fun d => ["-L", "native=" ++ d]) ++
  c.extraArguments ++ ["-o", outputPath r.unitName, sourcePath]

/-! ## Running the executable -/

variable {E : Engine}

/-- The files with a scratch directory that holds the source. -/
def prepare (files : Files) (source : String) : Files :=
  (files.makeDirectories scratch).insert (scratch ++ ["lib.rs"]) (.file source.toUTF8)

/-- The diagnostic on a run that fails without an error of its own. -/
def failedExit (run : ProgramRun) : Diagnostic :=
  .error "rustc-exit"
    ("rustc exited with " ++ run.ending.describe ++ ": " ++ Text.trimString run.stderr)

/-- The answer that a run gives. -/
def answer (r : CompileRequest) (run : ProgramRun) :
    Except CompilerFailure (CompilerOutput E) :=
  let diagnostics := parseDiagnostics run.stderr
  if run.ending.isSuccess then
    match run.files.read (outputPath r.unitName) with
    | .ok bytes => .ok { image := some (E.ofBytes bytes), diagnostics }
    | .error f => .error (.files f)
  else if diagnostics.any (·.isBlocking) then .ok { diagnostics }
  else .ok { diagnostics := diagnostics ++ [failedExit run] }

/-- Makes a unit of a source. -/
def compile (c : CompilerConfig) (files : Files) (r : CompileRequest) : Compilation E :=
  match (prepare files r.source).start c.rustc (arguments c r) with
  | .error f => { result := .error (.unavailable c.rustc f.message) }
  | .ok run => { result := answer r run, calls := run.call.toList }

/-- Whether the executable answers when it is asked for its version. -/
def isAvailable (c : CompilerConfig) (files : Files) : Bool :=
  match files.start c.rustc Program.versionQuestion with
  | .ok run => run.ending.isSuccess
  | .error _ => false

/-- The compiler. -/
def compiler (c : CompilerConfig) : Compiler E :=
  { name, compile := compile c }

end UnitFoundry.RustcCompiler
