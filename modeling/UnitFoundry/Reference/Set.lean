import Std.Data.HashSet
import UnitFoundry.Reference.Basic

/-! # Reference sets

A reference set keeps its entries in the order in which they came. No two entries have the same
identity, and no two have the same name: whichever came first stays. An index of the identities
answers whether one is present. Units that could not be located are kept beside the entries, each
once. -/

namespace UnitFoundry

/-- A unit that could not be located. -/
structure Miss where
  /-- The name of the unit. -/
  unit : String
  /-- Why it could not be located. -/
  reason : String
deriving DecidableEq, Repr

/-- A reference that was left out because its name is taken. -/
structure NameTaken where
  /-- The reference that was left out. -/
  reference : Reference
  /-- The entry that has its name. -/
  holder : Reference
deriving DecidableEq, Repr

/-- What the warning says to a reader. -/
def NameTaken.message (w : NameTaken) : String :=
  "Ignoring " ++ w.reference.identity ++ " for '" ++ w.reference.name ++
    "': name already bound to " ++ w.holder.identity

/-- What comes of adding a reference. -/
inductive Insertion where
  /-- It is the last entry now. -/
  | added
  /-- An entry has its identity. -/
  | present
  /-- An entry with another identity has its name. -/
  | nameTaken (holder : Reference)
deriving DecidableEq, Repr

/-- References in order, distinct by identity and by name. -/
structure ReferenceSet where
  /-- The references. -/
  entries : List Reference := []
  /-- The identities of the entries. -/
  index : Std.HashSet String := ∅
  /-- The units that could not be located. -/
  misses : List Miss := []

namespace ReferenceSet

instance : EmptyCollection ReferenceSet := ⟨{}⟩

instance : Inhabited ReferenceSet := ⟨∅⟩

/-- The entry of a name. -/
def get? (s : ReferenceSet) (name : String) : Option Reference :=
  s.entries.find? (·.name = name)

/-- Whether an entry has an identity. -/
def containsIdentity (s : ReferenceSet) (identity : String) : Bool :=
  s.index.contains identity

/-- The names of the entries. -/
def names (s : ReferenceSet) : List String :=
  s.entries.map (·.name)

/-- The number of entries. -/
def size (s : ReferenceSet) : Nat :=
  s.entries.length

/-- Adds a reference, unless its identity or its name is present. -/
def insert (s : ReferenceSet) (r : Reference) : ReferenceSet × Insertion :=
  if s.containsIdentity r.identity then (s, .present)
  else
    match s.get? r.name with
    | some holder => (s, .nameTaken holder)
    | none => ({ s with entries := s.entries ++ [r], index := s.index.insert r.identity }, .added)

/-- Records a unit that could not be located, unless it is on record. -/
def recordMiss (s : ReferenceSet) (m : Miss) : ReferenceSet :=
  if s.misses.any (·.unit = m.unit) then s else { s with misses := s.misses ++ [m] }

/-- What comes of merging sets. -/
structure Merge where
  /-- The merged set. -/
  set : ReferenceSet
  /-- How many entries are new. -/
  added : Nat := 0
  /-- The references that were left out because their name is taken. -/
  warnings : List NameTaken := []

/-- Merges one more reference. -/
def Merge.insert (m : Merge) (r : Reference) : Merge :=
  match m.set.insert r with
  | (s, .added) => { m with set := s, added := m.added + 1 }
  | (s, .present) => { m with set := s }
  | (s, .nameTaken holder) => { m with set := s, warnings := m.warnings ++ [⟨r, holder⟩] }

/-- Adds the entries of another set one by one, and then its misses. -/
def extend (s t : ReferenceSet) : Merge :=
  let m := t.entries.foldl Merge.insert { set := s }
  { m with set := t.misses.foldl recordMiss m.set }

/-- Adds references one by one. -/
def ofList (rs : List Reference) : Merge :=
  rs.foldl Merge.insert { set := ∅ }

theorem insert_added {s : ReferenceSet} {r : Reference}
    (hi : s.containsIdentity r.identity = false) (hn : s.get? r.name = none) :
    s.insert r =
      ({ s with entries := s.entries ++ [r], index := s.index.insert r.identity }, .added) := by
  simp [insert, hi, hn]

theorem insert_present {s : ReferenceSet} {r : Reference}
    (hi : s.containsIdentity r.identity = true) : s.insert r = (s, .present) := by
  simp [insert, hi]

theorem insert_nameTaken {s : ReferenceSet} {r holder : Reference}
    (hi : s.containsIdentity r.identity = false) (hn : s.get? r.name = some holder) :
    s.insert r = (s, .nameTaken holder) := by
  simp [insert, hi, hn]

/-- A reference that is added was not present, and the new index holds its identity too. -/
theorem index_of_insert_eq_added {s t : ReferenceSet} {r : Reference}
    (h : s.insert r = (t, .added)) :
    s.containsIdentity r.identity = false ∧ t.index = s.index.insert r.identity := by
  unfold insert at h
  split at h
  · simp at h
  · rename_i hi
    split at h
    · simp at h
    · simp only [Prod.mk.injEq, and_true] at h
      subst h
      exact ⟨by simpa using hi, rfl⟩

end ReferenceSet

end UnitFoundry
