import UnitFoundry.Config.Basic
import UnitFoundry.Files.Search
import UnitFoundry.Reference.Handle
import UnitFoundry.Reference.Set
import UnitFoundry.Resolve.Inspector
import UnitFoundry.Text.Blank
import UnitFoundry.Text.Quoted

/-! # Locating units

A resolver knows where units may lie. A unit lies at its own location if a file is there, and
otherwise where the first hint path with a file of its name leads. Files under paths longer than
`Files.longestPath` are not units. -/

namespace UnitFoundry

/-- The first file of a unit below the hint paths. -/
def probe? (files : Files) (hints : List String) (name extension : String) : Option String :=
  hints.findSome? fun hint => files.searchAt? hint (name ++ "." ++ extension)

/-- Why references cannot be resolved. -/
inductive ResolveError where
  /-- The starting point has no name. -/
  | unnamed
  /-- No file is where the starting point should lie. -/
  | notAFile (unit path : String)
  /-- The file of the starting point cannot be inspected. -/
  | uninspectable (unit : String) (e : InspectionError)
deriving DecidableEq, Repr

/-- What the error says to a reader. -/
def ResolveError.message (e : ResolveError) : String :=
  let (unit, reason) :=
    match e with
    | .unnamed => ("<unnamed>", "unit handle has no name")
    | .notAFile unit path => (unit, path ++ " is not a file")
    | .uninspectable unit e => (unit, e.message)
  "Cannot resolve references of '" ++ unit ++ "': " ++ reason

/-- What is noted while references are resolved. -/
inductive ResolveWarning where
  /-- A unit has no location and is not found below these hint paths. -/
  | notLocated (unit : String) (hints : List String)
  /-- A unit is referenced, and what it references in turn is not known. -/
  | notWalked (unit : String) (e : InspectionError)
  /-- A reference is left out because its name is taken. -/
  | nameTaken (w : NameTaken)
deriving DecidableEq, Repr

/-- What the warning says to a reader. -/
def ResolveWarning.message : ResolveWarning → String
  | .notLocated unit hints =>
    "Could not make a reference to " ++ unit ++ ": no location and not found in hint paths " ++
      Text.bracketed (hints.map Text.quoted)
  | .notWalked unit e =>
    "Referencing " ++ unit ++ " without walking its dependencies: " ++ e.message
  | .nameTaken w => w.message

/-- What finds references. -/
structure Resolver where
  /-- Where units may lie. -/
  config : ResolverConfig
  /-- What tells which units a file references. -/
  inspector : Inspector
  /-- The units that are known beforehand, the last one first. -/
  known : List UnitHandle := []

namespace Resolver

/-- The resolver that knows one more unit beforehand; it replaces any other of its name. -/
def withKnown (r : Resolver) (u : UnitHandle) : Resolver :=
  { r with known := u :: r.known }

/-- What is known about the unit of a name. -/
def handle (r : Resolver) (name : String) : UnitHandle :=
  (r.known.find? (·.name = name)).getD (.named name)

/-- The references that every unit has. -/
def baseline (r : Resolver) : ReferenceSet :=
  (ReferenceSet.ofList (r.config.baseline.map Reference.ofHost)).set

/-- The path of a unit's file. A path that is too long to open a file under it counts for nothing,
even if a search has come across it. -/
def locate? (r : Resolver) (files : Files) (u : UnitHandle) : Option String :=
  let probed := (probe? files r.config.hintPaths u.name r.config.extension).filter files.isFile
  match u.location with
  | some path => if files.isFile path then some path else probed
  | none => probed

/-- Whether a starting point can be used, and the unit with the references that its file tells.
The paths that are inspected are returned beside it. -/
def inspectStart (r : Resolver) (files : Files) (u : UnitHandle) :
    Except ResolveError UnitHandle × List String :=
  if Text.isBlankText u.name then (.error .unnamed, [])
  else
    match u.location with
    | none => (.ok u, [])
    | some path =>
      if !files.isFile path then (.error (.notAFile u.name path), [])
      else
        match u.references with
        | some _ => (.ok u, [])
        | none =>
          match r.inspector files path with
          | .ok names => (.ok (u.withReferences names), [path])
          | .error e => (.error (.uninspectable u.name e), [path])

end Resolver

end UnitFoundry
