import UnitFoundry.Files.Path

/-! # Unit handles

A handle is what is known about a unit before it is resolved: its name, and perhaps where it lies
and which units it references. -/

namespace UnitFoundry

/-- What is known about a unit. -/
structure UnitHandle where
  /-- The name of the unit. -/
  name : String
  /-- The path of its file. -/
  location : Option String := none
  /-- The names of the units that it references. -/
  references : Option (List String) := none
deriving DecidableEq, Repr

namespace UnitHandle

/-- A unit known by its name only. -/
def named (name : String) : UnitHandle :=
  { name }

/-- A unit in a file, named by the file. -/
def atPath (path : String) : UnitHandle :=
  { name := (Path.fileStem? path).getD "", location := some path }

/-- A unit without a file, with the units that it references. -/
def inMemory (name : String) (references : List String) : UnitHandle :=
  { name, references := some references }

/-- The unit with a file. -/
def withLocation (u : UnitHandle) (path : String) : UnitHandle :=
  { u with location := some path }

/-- The unit with the units that it references. -/
def withReferences (u : UnitHandle) (names : List String) : UnitHandle :=
  { u with references := some names }

end UnitHandle

end UnitFoundry
