import Mathlib.Order.Lattice.Nat
import UnitFoundry.Proofs.Reference.Coherence
import UnitFoundry.Resolve.Closure

/-! # Chains of references

While a unit is resolved, its own name means the unit itself, the name of a known unit that unit,
and any other name no more than the name. A *chain* leads from the starting unit to a name: each
unit on it is a file of the set, and its reference list names the next one.

* **`Resolver.Chain`**: the chains of each length through the files of a set.
* **`Resolver.distance`**: the length of the shortest chain to a name.
* **`Resolver.Settled`**: what has become of a name that has been visited. -/

namespace UnitFoundry.Resolver

variable (r : Resolver) (files : Files) (start : UnitHandle)

/-- What is known about the unit of a name while `start` is resolved. -/
def handleFrom (name : String) : UnitHandle :=
  if name = start.name then start else r.handle name

/-- The names that a unit references: those that it declares, or else those that are read out of
its file. -/
def referencesOf (u : UnitHandle) : List String :=
  match u.references with
  | some names => names
  | none =>
    match r.locate? files u with
    | some path => (r.inspector files path).toOption.getD []
    | none => []

/-- Whether a name is that of a file in the set. -/
def IsFileEntry (entries : List Reference) (name : String) : Prop :=
  ∃ e ∈ entries, e.name = name ∧ e.isHost = false

/-- The names to which a chain of a length leads from the starting unit. Each unit before the last
is a file of the set and references the next one; what the host provides references nothing. -/
inductive Chain (entries : List Reference) : Nat → String → Prop where
  /-- The starting unit itself. -/
  | start : Chain entries 0 start.name
  /-- A unit that the last one references. -/
  | next {k : Nat} {m n : String} : Chain entries k m → IsFileEntry entries m →
    n ∈ r.referencesOf files (r.handleFrom start m) → Chain entries (k + 1) n

/-- The length of the shortest chain to a name. -/
noncomputable def distance (entries : List Reference) (name : String) : Nat :=
  sInf {k | r.Chain files start entries k name}

/-- What has become of a name: it is bound, or it is missed since it cannot be located, or the file
that it leads to is in the set already. -/
def Settled (s : ReferenceSet) (name : String) : Prop :=
  (s.get? name).isSome ∨
    (r.locate? files (r.handleFrom start name) = none ∧ ∃ m ∈ s.misses, m.unit = name) ∨
      ∃ path, r.locate? files (r.handleFrom start name) = some path ∧
        ∃ e ∈ s.entries, e.identity = (Reference.ofFile files name path).identity

variable {r files start} {s t : ReferenceSet} {n : String}

/-! ## Handles -/

@[simp] theorem handleFrom_name : r.handleFrom start start.name = start := by
  rw [handleFrom, if_pos rfl]

theorem handleFrom_of_ne (h : n ≠ start.name) : r.handleFrom start n = r.handle n := by
  rw [handleFrom, if_neg h]

@[simp] theorem name_handle (r : Resolver) (n : String) : (r.handle n).name = n := by
  rw [handle]
  cases hf : r.known.find? (·.name = n) with
  | none => rfl
  | some u =>
      have hn := List.find?_some hf
      rwa [decide_eq_true_eq] at hn

@[simp] theorem name_handleFrom (r : Resolver) (start : UnitHandle) (n : String) :
    (r.handleFrom start n).name = n := by
  rw [handleFrom]
  split
  · rename_i h
    exact h.symm
  · exact name_handle r n

/-- Without known units, a name that is not that of the starting unit means no more than itself. -/
theorem handle_of_known_eq_nil (h : r.known = []) (n : String) : r.handle n = .named n := by
  rw [handle, h]
  rfl

/-! ## Files that are located -/

/-- The reference to a file that has been located is the one to its canonical path. -/
theorem ofFile_of_locate? {u : UnitHandle} {path : String}
    (h : r.locate? files u = some path) : ∃ c, files.canonicalize path = .ok c ∧
      ∀ name, Reference.ofFile files name path = ⟨name, c, .file c⟩ := by
  obtain ⟨c, -, hc⟩ := Files.canonicalize_of_isFile (isFile_of_locate? h)
  exact ⟨c, hc, fun name => by rw [Reference.ofFile, hc]⟩

/-- A canonical path is not the identity of a module of the host. -/
theorem identity_ofFile_ne_ofHost {u : UnitHandle} {path name host : String}
    (h : r.locate? files u = some path) :
    (Reference.ofFile files name path).identity ≠ (Reference.ofHost host).identity := by
  have hmem := @Reference.identity_ofFile_mem files name _ (isFile_of_locate? h)
  obtain ⟨⟨l, node⟩, -, htext⟩ := List.mem_map.1 hmem
  rw [← htext]
  intro heq
  have hchars := congrArg (·.toList.head?) heq
  simp [Files.textOf, Reference.ofHost] at hchars

/-! ## Growing sets -/

theorem Settled.mono (hst : s.Grows t) (h : r.Settled files start s n) :
    r.Settled files start t n := by
  obtain hbound | ⟨hloc, m, hm, hmn⟩ | ⟨path, hloc, e, he, hid⟩ := h
  · exact Or.inl (hst.isSome_get? hbound)
  · exact Or.inr (Or.inl ⟨hloc, m, hst.mem_misses hm, hmn⟩)
  · exact Or.inr (Or.inr ⟨path, hloc, e, hst.mem he, hid⟩)

theorem Chain.mono {es es' : List Reference} (hes : ∀ e ∈ es, e ∈ es') {k : Nat}
    (h : r.Chain files start es k n) : r.Chain files start es' k n := by
  induction h with
  | start => exact .start
  | next _ hentry hmem ih =>
      obtain ⟨e, he, hen⟩ := hentry
      exact .next ih ⟨e, hes e he, hen⟩ hmem

/-- A chain that leads away from the starting unit leads through its file. -/
theorem Chain.isFileEntry_start {es : List Reference} {k : Nat}
    (h : r.Chain files start es k n) (hn : n ≠ start.name) : IsFileEntry es start.name := by
  induction h with
  | start => exact absurd rfl hn
  | @next k m n _ hentry _ ih =>
      by_cases hm : m = start.name
      · exact hm ▸ hentry
      · exact ih hm

/-- A chain ends at the starting unit, or at what a file references. -/
theorem Chain.eq_start_or_referenced {es : List Reference} {k : Nat}
    (h : r.Chain files start es k n) :
    n = start.name ∨ ∃ m, IsFileEntry es m ∧ n ∈ r.referencesOf files (r.handleFrom start m) := by
  cases h with
  | start => exact Or.inl rfl
  | next _ hentry hmem => exact Or.inr ⟨_, hentry, hmem⟩

/-- Chains from two starting units with the same name and the same references are the same. -/
theorem Chain.congr {start' : UnitHandle} {es : List Reference} {k : Nat}
    (hname : start'.name = start.name)
    (href : r.referencesOf files start' = r.referencesOf files start)
    (h : r.Chain files start es k n) : r.Chain files start' es k n := by
  induction h with
  | start => rw [← hname]; exact .start
  | @next k m n _ hentry hmem ih =>
      refine .next ih hentry ?_
      by_cases hm : m = start.name
      · rw [hm, handleFrom_name, ← href] at hmem
        rwa [hm, ← hname, handleFrom_name]
      · rw [handleFrom_of_ne hm] at hmem
        rwa [handleFrom_of_ne (hname ▸ hm)]

end UnitFoundry.Resolver
