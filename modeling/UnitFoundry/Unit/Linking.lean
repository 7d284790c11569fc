import UnitFoundry.Counting
import UnitFoundry.Engine.Basic
import UnitFoundry.Reference.Basic

/-! # Linking references

Before a unit is instantiated, the files that it needs, directly or through other references, are
opened, instantiated and registered under the names of their references. `gather` opens them in
the order of a breadth-first walk; `linkAll` instantiates each of them once everything that it
imports from is available. If none is ready, the first one is taken, so that the linker tells what
is missing. Instantiating may run code, which need not end. -/

namespace UnitFoundry

/-- Why a unit is not loaded. -/
inductive LoadFault where
  /-- The image is refused. -/
  | refused (reason : String)
  /-- A reference cannot be opened. -/
  | unreadable (name path : String) (f : OpenFault)
  /-- A reference cannot be instantiated. -/
  | notInstantiated (name : String) (f : LinkFault)
  /-- A reference cannot be registered. -/
  | notRegistered (name reason : String)
  /-- The unit itself cannot be instantiated. -/
  | unlinked (f : LinkFault)
deriving DecidableEq, Repr

namespace LoadFault

/-- The step that failed, for a reader. -/
def step : LoadFault → String
  | .refused _ | .unlinked _ => ""
  | .unreadable name path _ => "failed to load reference '" ++ name ++ "' from " ++ path ++ ": "
  | .notInstantiated name _ => "failed to instantiate reference '" ++ name ++ "': "
  | .notRegistered name _ => "failed to register reference '" ++ name ++ "': "

/-- The cause, for a reader. -/
def cause : LoadFault → String
  | .refused reason | .notRegistered _ reason => reason
  | .unreadable _ _ f => f.message
  | .notInstantiated _ f | .unlinked f => f.message

/-- What the fault says to a reader. -/
def message (f : LoadFault) : String :=
  f.step ++ f.cause

end LoadFault

namespace Linking

/-- Whether references name a module of the host. -/
def isHosted (references : List Reference) (name : String) : Bool :=
  references.any fun r => r.isHost && r.name = name

/-- The path of the file that a module name stands for: the one of the first reference of that
name, unless the host provides a module of that name. -/
def file? (references : List Reference) (name : String) : Option String :=
  if isHosted references name then none
  else (references.find? (·.name = name)).bind (·.path?)

/-- A module name only stands for the file of a reference with the name. -/
theorem exists_mem_of_file?_eq_some {references : List Reference} {name path : String}
    (h : file? references name = some path) :
    ∃ r ∈ references, r.name = name ∧ r.path? = some path := by
  rw [file?] at h
  split at h
  · exact absurd h (by simp)
  · obtain ⟨r, hr, hpath⟩ := Option.bind_eq_some_iff.1 h
    exact ⟨r, List.mem_of_find?_eq_some hr, Reference.name_of_find?_eq_some hr, hpath⟩

/-- A reference that has been opened. -/
structure Opened (E : Engine) where
  /-- The module name under which it is linked. -/
  name : String
  /-- The module. -/
  module : E.Module

variable {E : Engine}

/-! ## Opening what is needed -/

/-- The references whose names have not been opened. -/
def unopened (references : List Reference) (opened : List (Opened E)) : Nat :=
  references.countP fun r => !opened.any (·.name = r.name)

theorem unopened_lt {references : List Reference} {opened : List (Opened E)} {name path : String}
    (m : E.Module) (hf : file? references name = some path)
    (ho : ¬opened.any (·.name = name) = true) :
    unopened references (opened ++ [⟨name, m⟩]) < unopened references opened := by
  obtain ⟨r, hr, rfl, -⟩ := exists_mem_of_file?_eq_some hf
  refine countP_lt_of_excludes (fun s _ hs => ?_) hr (by simp) (by simpa using ho)
  simp only [List.any_append, Bool.not_or, Bool.and_eq_true] at hs
  exact hs.1

set_option linter.unusedVariables false in
/-- Opens the files that module names stand for, and those that their imports stand for in turn,
each once. -/
def gather (files : Files) (references : List Reference) (frontier : List String)
    (opened : List (Opened E)) : Except LoadFault (List (Opened E)) :=
  match frontier with
  | [] => .ok opened
  | name :: rest =>
    match hf : file? references name with
    -- the host provides the module, or nothing does
    | none => gather files references rest opened
    | some path =>
      if ho : opened.any (·.name = name) then gather files references rest opened
      else
        match E.ofFile files path with
        | .error f => .error (.unreadable name path f)
        | .ok m => gather files references (rest ++ E.importNames m) (opened ++ [⟨name, m⟩])
termination_by (unopened references opened, frontier.length)
decreasing_by
  · exact Prod.Lex.right _ (by simp)
  · exact Prod.Lex.right _ (by simp)
  · exact Prod.Lex.left _ _ (unopened_lt m hf ho)

/-! ## Instantiating in order -/

/-- What has been linked. -/
structure Linked (E : Engine) where
  /-- What is known to the linker. -/
  linker : E.Linker
  /-- What the instances share. -/
  store : E.Store
  /-- The names under which references have been linked, in order. -/
  names : List String := []

/-- Nothing but the host. -/
def Linked.host : Linked E :=
  { linker := E.host.1, store := E.host.2 }

/-- Whether a module name is provided by the host or has been linked. -/
def isAvailable (references : List Reference) (l : Linked E) (name : String) : Bool :=
  isHosted references name || l.names.contains name

/-- Whether everything that a reference imports from is available. -/
def isReady (references : List Reference) (l : Linked E) (o : Opened E) : Bool :=
  (E.importNames o.module).all (isAvailable references l)

/-- Instantiates a reference and registers it under its name. -/
def Linked.link (l : Linked E) (o : Opened E) : Outcome LoadFault (Linked E) :=
  match E.instantiate l.linker l.store o.module with
  | .error f => .error (.notInstantiated o.name f)
  | .endless => .endless
  | .ok (store, i) =>
    match E.register l.linker o.name i with
    | .error reason => .error (.notRegistered o.name reason)
    | .ok linker => .ok { linker, store, names := l.names ++ [o.name] }

/-- The first reference that is ready, or the first one if none is, and the others in their
order. -/
def takeReady (ready : Opened E → Bool) (first : Opened E) (rest : List (Opened E)) :
    Opened E × List (Opened E) :=
  match (first :: rest).find? ready with
  | some o => (o, (first :: rest).eraseP ready)
  -- then the linker tells which of its imports is missing
  | none => (first, rest)

@[simp] theorem length_takeReady (ready : Opened E → Bool) (first : Opened E)
    (rest : List (Opened E)) : (takeReady ready first rest).2.length = rest.length := by
  unfold takeReady
  split
  · rename_i o h
    rw [List.length_eraseP_of_mem (List.mem_of_find?_eq_some h) (List.find?_some h)]
    simp
  · rfl

/-- Links references, each when it is ready. -/
def linkAll (references : List Reference) (l : Linked E) (pending : List (Opened E)) :
    Outcome LoadFault (Linked E) :=
  match pending with
  | [] => .ok l
  | first :: rest =>
    let next := takeReady (isReady references l) first rest
    match l.link next.1 with
    | .error f => .error f
    | .endless => .endless
    | .ok l => linkAll references l next.2
termination_by pending.length
decreasing_by simp

/-- Links everything that a module needs. -/
def linkFor (files : Files) (references : List Reference) (m : E.Module) :
    Outcome LoadFault (Linked E) :=
  match gather files references (E.importNames m) [] with
  | .error f => .error f
  | .ok opened => linkAll references .host opened

end Linking

end UnitFoundry
