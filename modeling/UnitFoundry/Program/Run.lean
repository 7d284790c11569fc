import UnitFoundry.Files.Basic

/-! # Running programs

A program is started by its path and gets a list of arguments. A run in which it is only asked for
its version leaves nothing behind. Any other run is on record, with the text of the file that the
last argument names, and may write a file. -/

namespace UnitFoundry

/-- A run of a program on record. -/
structure Call where
  /-- The arguments. -/
  arguments : List String
  /-- The text of the file that the last argument names. -/
  source : String
deriving DecidableEq, Repr

/-- What a run leaves behind. -/
structure ProgramRun where
  /-- The files afterwards. -/
  files : Files
  /-- What was written to standard error. -/
  stderr : String
  /-- How the run ended. -/
  ending : Ending
  /-- The record of the run, unless it left none. -/
  call : Option Call

namespace Program

/-- The arguments that ask for the version. -/
def versionQuestion : List String := ["--version"]

/-- The path of the output, the argument after the last `-o`. -/
def outputPath? : List String → Option String
  | [] => none
  | a :: rest => outputPath? rest <|> if a = "-o" then rest.head? else none

/-- The files after the output of a run has been written. An output that cannot be written is
lost. -/
def writeOutput (p : Program) (files : Files) (arguments : List String) : Files :=
  match p.output, outputPath? arguments with
  | some bytes, some path =>
    match files.write path (.file bytes) with
    | .ok files => files
    | .error _ => files
  | _, _ => files

/-- The text of the file that the last argument names. -/
def sourceOf (files : Files) (arguments : List String) : String :=
  match arguments.getLast? with
  | some path =>
    match files.readText path with
    | .ok s => s
    | .error _ => ""
  | none => ""

/-- Runs a program. -/
def run (p : Program) (files : Files) (arguments : List String) : ProgramRun :=
  if arguments = versionQuestion then
    { files, stderr := "", ending := .exit p.versionExit, call := none }
  else
    { files := p.writeOutput files arguments
      stderr := p.stderr
      ending := p.ending
      call := some ⟨arguments, sourceOf files arguments⟩ }

@[simp] theorem ending_run_versionQuestion (p : Program) (files : Files) :
    (p.run files versionQuestion).ending = .exit p.versionExit := by
  simp [run]

@[simp] theorem call_run_versionQuestion (p : Program) (files : Files) :
    (p.run files versionQuestion).call = none := by
  simp [run]

end Program

namespace Files

/-- The program that a path starts. A name without a slash names an installed program. None is
installed, but every directory of programs holds `.` and `..`, which cannot be run. -/
def program? (files : Files) (path : String) : Except Fault Program :=
  if path.toList.contains '\x00' then .error .zeroByteInArgument
  else if path = "." ∨ path = ".." then .error .denied
  else if !path.toList.contains '/' then .error .notFound
  else
    match files.find path with
    | .ok (_, .program p) => .ok p
    | .ok _ => .error .denied
    | .error e => .error e

/-- Starts the program of a path. -/
def start (files : Files) (path : String) (arguments : List String) : Except Fault ProgramRun := do
  if arguments.any (·.toList.contains '\x00') then throw .zeroByteInArgument
  return (← files.program? path).run files arguments

end Files

end UnitFoundry
