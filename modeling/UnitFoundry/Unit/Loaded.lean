import UnitFoundry.Text.Quoted
import UnitFoundry.Unit.Linking

/-! # Loaded units

A loaded unit is an instance in a store of its own, together with the references that it needs.
Its members are the functions that it exports, and a call may change what the store holds. -/

namespace UnitFoundry

/-- Why a member does not give results. -/
inductive MemberFault where
  /-- No function is exported under the name. -/
  | notFound
  /-- The call fails. -/
  | failed (reason : String)
deriving DecidableEq, Repr

/-- What the fault of a member of a unit says to a reader. -/
def MemberFault.message (unit member : String) : MemberFault → String
  | .notFound => "'" ++ unit ++ "' has no member '" ++ member ++ "'"
  | .failed reason => "Call to '" ++ member ++ "' in '" ++ unit ++ "' failed: " ++ reason

/-- A unit that can be called. -/
structure LoadedUnit (E : Engine) where
  /-- The name of the unit. -/
  name : String
  /-- Its module. -/
  module : E.Module
  /-- The instance of the module. -/
  inst : E.Instance
  /-- What the instance shares with those of its references. -/
  store : E.Store
  /-- The names of the references that were linked, in order. -/
  linked : List String

namespace LoadedUnit

variable {E : Engine}

/-- Loads a unit from an image. -/
def load (files : Files) (name : String) (image : E.Image) (references : List Reference) :
    Outcome LoadFault (LoadedUnit E) :=
  match E.load image with
  | .error reason => .error (.refused reason)
  | .ok m =>
    match Linking.linkFor files references m with
    | .error f => .error f
    | .endless => .endless
    | .ok l =>
      match E.instantiate l.linker l.store m with
      | .error f => .error (.unlinked f)
      | .endless => .endless
      | .ok (store, inst) => .ok { name, module := m, inst, store, linked := l.names }

/-- The names of everything that the unit exports. -/
def exports (u : LoadedUnit E) : List String :=
  E.exportNames u.module

/-- The unit on one line. -/
def describe (u : LoadedUnit E) : String :=
  "CompiledUnit \x7b name: " ++ Text.quoted u.name ++
    ", exports: " ++ Text.bracketed (u.exports.map Text.quoted) ++
    ", references: " ++ Text.bracketed (u.linked.map Text.quoted) ++ " \x7d"

/-- A member and its type. -/
def member? (u : LoadedUnit E) (name : String) : Option (E.Func × E.FuncType) :=
  E.func? u.store u.inst name

/-- The type of a member. -/
def memberType? (u : LoadedUnit E) (name : String) : Option E.FuncType :=
  (u.member? name).map (·.2)

/-- Calls a function of the unit. -/
def call (u : LoadedUnit E) (f : E.Func) (arguments : List E.Value) :
    Outcome MemberFault (List E.Value) × LoadedUnit E :=
  let (outcome, store) := E.call u.store f arguments
  (outcome.mapError .failed, { u with store })

/-- Calls a member with arguments. -/
def invoke (u : LoadedUnit E) (name : String) (arguments : List E.Value) :
    Outcome MemberFault (List E.Value) × LoadedUnit E :=
  match u.member? name with
  | none => (.error .notFound, u)
  | some (f, _) => u.call f arguments

/-- Calls a member with arguments, as one of the type that is expected. -/
def callAs (u : LoadedUnit E) (expected : E.FuncType) (name : String)
    (arguments : List E.Value) : Outcome MemberFault (List E.Value) × LoadedUnit E :=
  match u.member? name with
  | none => (.error .notFound, u)
  | some (f, t) =>
    match E.mismatch? t expected with
    | some reason => (.error (.failed reason), u)
    | none => u.call f arguments

end LoadedUnit

end UnitFoundry
