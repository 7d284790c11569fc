import UnitFoundry.Files.Basic

/-! # References

A reference names one binary unit that generated source needs: a file, or a module that the host
provides. Its identity tells whether two references mean the same unit, and its name is the module
name under which it is linked. -/

namespace UnitFoundry

/-- Where a referenced unit comes from. -/
inductive Origin where
  /-- From a file. -/
  | file (path : String)
  /-- From the host. -/
  | host
deriving DecidableEq, Repr

/-- A binary unit that generated source needs. -/
structure Reference where
  /-- The module name under which it is linked. -/
  name : String
  /-- What tells it apart from other units. -/
  identity : String
  /-- Where it comes from. -/
  origin : Origin
deriving DecidableEq, Repr

namespace Reference

/-- The reference to a file. Its identity is the canonical path, or the path itself if that leads
nowhere. Paths are texts here. What a path shows as text if its bytes are not UTF-8 may be shown by
other paths too; such paths are left out. -/
def ofFile (files : Files) (name path : String) : Reference :=
  let canonical :=
    match files.canonicalize path with
    | .ok p => p
    | .error _ => path
  ⟨name, canonical, .file canonical⟩

/-- The reference to a module of the host. -/
def ofHost (name : String) : Reference :=
  ⟨name, "host:" ++ name, .host⟩

/-- The path of the file, unless the host provides the unit. -/
def path? (r : Reference) : Option String :=
  match r.origin with
  | .file p => some p
  | .host => none

/-- Whether the host provides the unit. -/
def isHost (r : Reference) : Bool :=
  r.origin = .host

@[simp] theorem name_ofFile (files : Files) (name path : String) :
    (ofFile files name path).name = name := rfl

@[simp] theorem isHost_ofFile (files : Files) (name path : String) :
    (ofFile files name path).isHost = false := by
  simp [isHost, ofFile]

@[simp] theorem path?_ofFile (files : Files) (name path : String) :
    (ofFile files name path).path? = some (ofFile files name path).identity := rfl

@[simp] theorem name_ofHost (name : String) : (ofHost name).name = name := rfl

@[simp] theorem isHost_ofHost (name : String) : (ofHost name).isHost = true := rfl

@[simp] theorem path?_ofHost (name : String) : (ofHost name).path? = none := rfl

/-- The host does not provide what has a path. -/
theorem isHost_eq_false_of_path? {r : Reference} {path : String} (h : r.path? = some path) :
    r.isHost = false := by
  obtain ⟨name, identity, origin⟩ := r
  cases origin with
  | file p => rfl
  | host => exact absurd h (by simp [path?])

theorem name_of_find?_eq_some {rs : List Reference} {r : Reference} {name : String}
    (h : rs.find? (·.name = name) = some r) : r.name = name := by
  have hname := List.find?_some h
  rwa [decide_eq_true_eq] at hname

end Reference

end UnitFoundry
