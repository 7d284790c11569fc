import UnitFoundry.Files.Path
import UnitFoundry.Program.Basic

/-! # File trees

A file tree maps locations, lists of names from the root, to nodes. A location is canonical: it
holds no `.`, no `..` and passes through no symbolic link. `Files.resolve` finds the location that
the text of a path leads to. Names are texts; those whose bytes are not UTF-8 are left out. -/

namespace UnitFoundry

/-- The names that lead from the root to a node. -/
abbrev Location := List String

/-- What stands at a location. -/
inductive Node where
  /-- A regular file. -/
  | file (bytes : ByteArray)
  /-- A regular file that can be run. -/
  | program (p : Program)
  /-- A directory. -/
  | directory
  /-- A symbolic link to the path in its text. -/
  | link (target : String)

instance (n : Node) : Decidable (n = .directory) :=
  match n with
  | .directory => isTrue rfl
  | .file _ | .program _ | .link _ => isFalse nofun

instance (n : Option Node) : Decidable (n = some .directory) :=
  match n with
  | none => isFalse nofun
  | some .directory => isTrue rfl
  | some (.file _) | some (.program _) | some (.link _) => isFalse nofun

/-- Whether a node is a regular file. -/
def Node.isFile : Node → Bool
  | .file _ | .program _ => true
  | _ => false

/-- Why a file operation fails. -/
inductive Fault where
  /-- Nothing stands at the path. -/
  | notFound
  /-- The operation is not allowed. -/
  | denied
  /-- A directory stands where a file is needed. -/
  | isDirectory
  /-- Something else stands where a directory is needed. -/
  | notDirectory
  /-- Too many links have been followed. -/
  | linkLoop
  /-- A name or the whole path is too long. -/
  | nameTooLong
  /-- The path holds the character of code zero. -/
  | zeroByteInPath
  /-- An argument of a program holds the character of code zero. -/
  | zeroByteInArgument
  /-- The bytes of a text are not UTF-8. -/
  | notText
deriving DecidableEq, Repr

/-- What the fault says to a reader. -/
def Fault.message : Fault → String
  | .notFound => "No such file or directory (os error 2)"
  | .denied => "Permission denied (os error 13)"
  | .isDirectory => "Is a directory (os error 21)"
  | .notDirectory => "Not a directory (os error 20)"
  | .linkLoop => "Too many levels of symbolic links (os error 40)"
  | .nameTooLong => "File name too long (os error 36)"
  | .zeroByteInPath => "file name contained an unexpected NUL byte"
  | .zeroByteInArgument => "nul byte found in provided data"
  | .notText => "stream did not contain valid UTF-8"

/-- A file tree and the directory that relative paths start from. -/
structure Files where
  /-- The nodes below the root. Each directory on the way to a node is a node itself. -/
  nodes : List (Location × Node) := []
  /-- The directories that cannot be read. Paths may lead through them all the same. -/
  unreadable : List Location := []
  /-- Where relative paths start. -/
  workingDirectory : Location := []

namespace Files

instance : EmptyCollection Files := ⟨{}⟩

/-- The node at a location. -/
def node? (files : Files) (l : Location) : Option Node :=
  if l = [] then some .directory else files.nodes.lookup l

/-- The text of a location. -/
def textOf (l : Location) : String :=
  "/" ++ "/".intercalate l

/-- How many links one resolution may follow. -/
def linkBudget : Nat := 40

/-- How long a name may be, in bytes. -/
def longestName : Nat := 255

/-- How long the text of a path may be, in bytes. -/
def longestPath : Nat := 4095

/-- Follows segments from a location up to a link, from which `follow` goes on. With `mayBeNew`,
nothing needs to stand at the last place. -/
def walkUntil (files : Files) (mayBeNew : Bool)
    (follow : Location → List String → Except Fault Location) :
    Location → List String → Except Fault Location
  | l, [] => .ok l
  | l, s :: rest =>
    if files.node? l ≠ some .directory then .error .notDirectory
    else if s.isEmpty || s = "." then files.walkUntil mayBeNew follow l rest
    else if s = ".." then files.walkUntil mayBeNew follow l.dropLast rest
    else if longestName < s.utf8ByteSize then .error .nameTooLong
    else
      match files.node? (l ++ [s]) with
      | none => if mayBeNew && rest.isEmpty then .ok (l ++ [s]) else .error .notFound
      | some (.link target) =>
        -- a relative link starts from the directory in which it stands
        if target.isEmpty then .error .notFound
        else follow (if Path.isAbsolute target then [] else l) (Path.segments target ++ rest)
      | some _ => files.walkUntil mayBeNew follow (l ++ [s]) rest

/-- Follows segments from a location, and as many links on the way as the budget allows. -/
def walk (files : Files) (mayBeNew : Bool) : Nat → Location → List String → Except Fault Location
  | 0 => files.walkUntil mayBeNew fun _ _ => .error .linkLoop
  | budget + 1 => files.walkUntil mayBeNew (files.walk mayBeNew budget)

/-- The location that a path leads to through all links, a relative one from the working directory.
With `mayBeNew`, it is also the location where a node of that path would be made. -/
def resolve (files : Files) (path : String) (mayBeNew : Bool := false) : Except Fault Location :=
  if path.toList.contains '\x00' then .error .zeroByteInPath
  else if path.isEmpty then .error .notFound
  else if longestPath < path.utf8ByteSize then .error .nameTooLong
  else
    files.walk mayBeNew linkBudget []
      (Path.segments (Path.join (textOf files.workingDirectory) path))

/-- The location and the node that a path leads to. -/
def find (files : Files) (path : String) : Except Fault (Location × Node) := do
  let l ← files.resolve path
  match files.node? l with
  | some n => return (l, n)
  | none => throw .notFound

/-- Whether a path leads to a regular file. -/
def isFile (files : Files) (path : String) : Bool :=
  match files.find path with
  | .ok (_, n) => n.isFile
  | .error _ => false

/-- The text of the canonical path, without links, that a path leads to. -/
def canonicalize (files : Files) (path : String) : Except Fault String := do
  let (l, _) ← files.find path
  return textOf l

/-- The bytes of the file that a path leads to. -/
def read (files : Files) (path : String) : Except Fault ByteArray := do
  match (← files.find path).2 with
  | .file bytes => return bytes
  | .program _ => return .empty
  | .directory => throw .isDirectory
  | .link _ => throw .linkLoop

/-- The text of the file that a path leads to. -/
def readText (files : Files) (path : String) : Except Fault String := do
  let bytes ← files.read path
  match String.fromUTF8? bytes with
  | some s => return s
  | none => throw .notText

/-! ## Entries of a directory -/

/-- The entries that a directory shows, sorted by name. One that cannot be read shows none. -/
def entries (files : Files) (l : Location) : List (String × Node) :=
  if l ∈ files.unreadable then []
  else
    (files.nodes.filterMap fun (m, n) =>
      match m.getLast? with
      | some name => if m.dropLast = l then some (name, n) else none
      | none => none).mergeSort fun a b => a.1 ≤ b.1

/-! ## Changes -/

/-- Puts a node at a location, in place of any other. -/
def insert (files : Files) (l : Location) (n : Node) : Files :=
  { files with nodes := files.nodes.filter (·.1 ≠ l) ++ [(l, n)] }

/-- Makes every directory on the way to a location that is not there yet. -/
def makeDirectories (files : Files) (l : Location) : Files :=
  (List.range l.length).foldl
    (fun fs i =>
      let m := l.take (i + 1)
      if (fs.node? m).isSome then fs else fs.insert m .directory)
    files

/-- Makes every directory on the way that a path takes, as far as that is possible. -/
def makeWay (files : Files) (path : String) : Files :=
  let segments := Path.segments path
  (List.range segments.length).foldl
    (fun fs i =>
      match fs.resolve ("/".intercalate (segments.take (i + 1))) true with
      | .ok l => if (fs.node? l).isSome then fs else fs.insert l .directory
      | .error _ => fs)
    files

/-- Writes a node to a path below a directory that exists, through the links that stand there. -/
def write (files : Files) (path : String) (n : Node) : Except Fault Files := do
  let l ← files.resolve path true
  if files.node? l = some .directory then throw .isDirectory
  return files.insert l n

/-- Puts a node at a path, below directories that are made as needed. A link takes the place
itself; a file is written through the links that stand there. -/
def place (files : Files) (path : String) (n : Node) : Except Fault Files := do
  match n with
  | .directory => return files.makeWay path
  | n =>
    let above := (Path.parent? path).getD "/"
    let files := files.makeWay above
    match n, Path.fileName? path with
    | .link _, some name => return files.insert ((← files.resolve above) ++ [name]) n
    | n, _ => files.write path n

end Files

end UnitFoundry
