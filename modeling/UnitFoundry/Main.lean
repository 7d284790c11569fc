import UnitFoundry.CommandLine.Paths
import UnitFoundry.Text.Digits

/-! # The program

The program loads the files that a run may read, makes the run and writes what comes of it. A
program found among the files is a file like any other here and cannot be run. -/

namespace UnitFoundry.Disk

/-- The location of an absolute path without `.`, `..` and links. -/
def locationOf (path : String) : Location :=
  (Path.segments path).filter (!·.isEmpty)

/-- Where the name `segment` leads from a location, if anything is there. -/
def follow? (l : Location) (segment : String) : IO (Option Location) := do
  try
    return some (locationOf (← IO.FS.realPath (Files.textOf (l ++ [segment]))).toString)
  catch _ =>
    return none

/-- What a directory shows, if it can be read. -/
def entries? (l : Location) : IO (Option (Array IO.FS.DirEntry)) := do
  try
    return some (← (← IO.FS.realPath (Files.textOf l)).readDir)
  catch _ =>
    return none

/-- Loads what stands at a canonical location, a directory with everything below it. Locations
that have been loaded are left as they are. -/
partial def load (files : Files) (loaded : List Location) (l : Location) :
    IO (Files × List Location) := do
  if loaded.contains l then return (files, loaded)
  let mut loaded := l :: loaded
  try
    if ← (← IO.FS.realPath (Files.textOf l)).isDir then
      let mut files := files.makeDirectories l
      let some entries ← entries? l
        | return ({ files with unreadable := l :: files.unreadable }, loaded)
      for entry in entries do
        let place := l ++ [entry.fileName]
        match ← follow? l entry.fileName with
        | none => files := files.insert place (.link entry.fileName)
        | some target =>
          if target ≠ place then
            files := files.insert place (.link (Files.textOf target))
          (files, loaded) ← load files loaded target
      return (files, loaded)
    else
      let bytes ← IO.FS.readBinFile (Files.textOf l)
      return ((files.makeDirectories l.dropLast).insert l (.file bytes), loaded)
  catch _ =>
    return (files, loaded)

/-- Loads the links on the way from a location along a path, and what the path leads to. -/
def loadAlong (files : Files) (loaded : List Location) (l : Location) :
    List String → IO (Files × List Location)
  | [] => load files loaded l
  | s :: rest => do
    let files := files.makeDirectories l
    if s.isEmpty || s = "." then loadAlong files loaded l rest
    else if s = ".." then loadAlong files loaded l.dropLast rest
    else
      match ← follow? l s with
      | none => return (files, loaded)
      | some target =>
        let files :=
          if target = l ++ [s] then files
          else files.insert (l ++ [s]) (.link (Files.textOf target))
        loadAlong files loaded target rest

/-- Loads what paths lead to. -/
def loadAll (files : Files) (paths : List String) : IO Files := do
  let mut files := files
  let mut loaded := []
  for path in paths do
    let start := if Path.isAbsolute path then [] else files.workingDirectory
    (files, loaded) ← loadAlong files loaded start (Path.segments path)
  return files

/-- A text that tells a new unit apart from all others. -/
def freshEnding : IO String := do
  let bytes ← IO.getRandomBytes 16
  return String.ofList (bytes.toList.flatMap fun b => Text.hexPair b.toNat)

end UnitFoundry.Disk

open UnitFoundry in
/-- Runs the command line. -/
def main (args : List String) : IO UInt32 := do
  match CommandLine.ofArguments? args with
  | none =>
    IO.eprint (CommandLine.unlines CommandLine.helpText)
    return CommandLine.misuseCode.toUInt32
  | some c =>
    let cwd := Disk.locationOf (← IO.FS.realPath ".").toString
    let files : Files := ({ workingDirectory := cwd } : Files).makeDirectories cwd
    let files ← Disk.loadAll files c.configPath?.toList
    let hintPaths ← IO.getEnv GeneratorConfig.hintPathsVariable
    let ending ← Disk.freshEnding
    let files ← Disk.loadAll files (c.paths { files, hintPaths, ending })
    let r := c.run { files, hintPaths, ending }
    IO.print r.output
    if let some e := r.error? then IO.eprintln e.report
    match r.exitCode? with
    | some code => return code.toUInt32
    -- code that never ends is not waited for, since nothing would come of it
    | none => throw (.userError "the unit never ends")
