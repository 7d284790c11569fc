/-! # Paths as text

A path is a text of segments between slashes. Its `parts` leave out what names nothing: empty
segments, and the segment `.` except at the front of a relative path. -/

namespace UnitFoundry.Path

/-- The texts between the slashes. -/
def splitSlash : List Char → List (List Char)
  | [] => [[]]
  | c :: cs =>
    match splitSlash cs with
    | [] => [[c]]
    | s :: ss => if c = '/' then [] :: s :: ss else (c :: s) :: ss

/-- The segments of a path, empty ones included. -/
def segments (path : String) : List String :=
  (splitSlash path.toList).map String.ofList

/-- Whether a path starts at the root. -/
def isAbsolute (path : String) : Bool :=
  path.toList.head? == some '/'

/-- What one segment of a path stands for. -/
inductive Part where
  /-- The root of all paths. -/
  | root
  /-- The directory that a relative path starts from. -/
  | here
  /-- The directory above. -/
  | up
  /-- An entry of a directory. -/
  | name (text : String)
deriving DecidableEq, Repr

/-- The parts of a path. -/
def parts (path : String) : List Part :=
  let named (s : String) : Option Part :=
    if s.isEmpty || s = "." then none else if s = ".." then some .up else some (.name s)
  if isAbsolute path then .root :: (segments path).filterMap named
  else
    match segments path with
    | "." :: rest => .here :: rest.filterMap named
    | all => all.filterMap named

/-- Whether one part stands before another: the root, the current directory, the directory above,
then names in code-point order. -/
def Part.lt : Part → Part → Bool
  | .root, .root => false
  | .root, _ => true
  | .here, .root | .here, .here => false
  | .here, _ => true
  | .up, .name _ => true
  | .up, _ => false
  | .name a, .name b => a < b
  | .name _, _ => false

/-- Whether one path stands before another part by part, or is its beginning. -/
def partsLe : List Part → List Part → Bool
  | [], _ => true
  | _ :: _, [] => false
  | a :: as, b :: bs => if a = b then partsLe as bs else a.lt b

/-- The name that the last part of a path gives, if it is a name. -/
def fileName? (path : String) : Option String :=
  match (parts path).getLast? with
  | some (.name n) => some n
  | _ => none

/-- A file name without its extension: what stands before the last dot, unless nothing does. -/
def stemOf (name : String) : String :=
  let ending := name.toList.reverse.takeWhile (· != '.')
  let before := name.toList.take (name.length - ending.length - 1)
  if before.isEmpty then name else String.ofList before

/-- The file name of a path without its extension. -/
def fileStem? (path : String) : Option String :=
  (fileName? path).map stemOf

/-- Whether a segment stands for a part, given whether it is the first one. -/
def isPart (first : Bool) (segment : String) : Bool :=
  !segment.isEmpty && (segment != "." || first)

/-- The segments of a path up to the last one that stands for a part. -/
def dropTrailing : List String → List String
  | [] => []
  | s :: rest =>
    -- the first segment decides on `.` at the front, all others follow the rule for later ones
    if (rest.filter (isPart false)).isEmpty then if isPart true s then [s] else []
    else s :: dropTrailingLater rest
where
  /-- The same for segments that are not the first. -/
  dropTrailingLater : List String → List String
    | [] => []
    | s :: rest =>
      if (s :: rest).any (isPart false) then s :: dropTrailingLater rest else []

/-- The path without its last part, as far as its text goes; the root and the empty path have
nothing above them. -/
def parent? (path : String) : Option String :=
  match parts path with
  | [] | [.root] => none
  | _ =>
    let above := dropTrailing (dropTrailing (segments path)).dropLast
    if isAbsolute path && above.isEmpty then some "/" else some ("/".intercalate above)

/-- The path of an entry of the directory that a path names. -/
def child (path name : String) : String :=
  if path.isEmpty || path.toList.getLast? == some '/' then path ++ name else path ++ "/" ++ name

/-- The path that a path means when it starts from a directory; an absolute path means itself. -/
def join (directory path : String) : String :=
  if isAbsolute path then path else child directory path

end UnitFoundry.Path
