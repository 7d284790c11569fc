import UnitFoundry.Wasm.Engine

/-! # Inspectors

An inspector reads out of a file which units it references. The usual one lists the module names
that a WebAssembly module imports from. -/

namespace UnitFoundry

/-- A file that could not be inspected. -/
structure InspectionError where
  /-- The path of the file. -/
  path : String
  /-- Why it could not be inspected. -/
  reason : String
deriving DecidableEq, Repr

/-- What the error says to a reader. -/
def InspectionError.message (e : InspectionError) : String :=
  "Failed to inspect '" ++ e.path ++ "': " ++ e.reason

/-- What tells the names of the units that the file at a path references. -/
abbrev Inspector := Files → String → Except InspectionError (List String)

namespace Inspector

/-- Opens a file with an engine and lists the module names that it imports from, each once, in
their order. -/
def ofEngine (E : Engine) : Inspector := fun files path =>
  match E.ofFile files path with
  | .ok m => .ok (E.importNames m).eraseDups
  | .error f => .error ⟨path, f.message⟩

/-- The inspector that opens files with the interpreter. -/
abbrev wasm : Inspector := ofEngine Wasm.engine

/-- Looks the name of a file up in a table. -/
def ofTable (table : List (String × List String)) : Inspector := fun _ path =>
  match table.lookup ((Path.fileStem? path).getD "") with
  | some names => .ok names
  | none => .error ⟨path, "unknown unit"⟩

end Inspector

end UnitFoundry
