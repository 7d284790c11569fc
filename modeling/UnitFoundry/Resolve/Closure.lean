import UnitFoundry.Resolve.Resolver

/-! # The closure of a unit's references

Resolving a unit gathers everything that it needs, directly or through other units, in the order
of a breadth-first walk. Each name is visited once; a unit whose file or name is taken is not
walked any further. Each unit that is walked adds a file to the set, so a walk ends even when
files keep naming units that have not been named before. -/

namespace UnitFoundry

/-! ## The files that references can mean -/

/-- The identities of all files. -/
def Files.identities (files : Files) : List String :=
  (files.nodes.filter (·.2.isFile)).map fun (l, _) => Files.textOf l

theorem Files.canonicalize_of_isFile {files : Files} {path : String}
    (h : files.isFile path = true) : ∃ p ∈ files.identities, files.canonicalize path = .ok p := by
  unfold isFile at h
  split at h
  · rename_i l n hf
    refine ⟨textOf l, ?_, by simp [canonicalize, hf, bind, Except.bind, pure, Except.pure]⟩
    have hn := node?_of_find hf
    rcases mem_of_node?_eq_some hn with rfl | hmem
    · simp only [node?, ↓reduceIte, Option.some.injEq] at hn
      subst hn
      simp [Node.isFile] at h
    · simp only [identities, List.mem_map, List.mem_filter]
      exact ⟨(l, n), ⟨hmem, h⟩, rfl⟩
  · simp at h

theorem Reference.identity_ofFile_mem {files : Files} {name path : String}
    (h : files.isFile path = true) : (ofFile files name path).identity ∈ files.identities := by
  obtain ⟨p, hp, hc⟩ := Files.canonicalize_of_isFile h
  simpa [ofFile, hc] using hp

theorem Resolver.isFile_of_locate? {r : Resolver} {files : Files} {u : UnitHandle} {path : String}
    (h : r.locate? files u = some path) : files.isFile path = true := by
  have hprobe : ∀ {found : Option String}, found.filter files.isFile = some path →
      files.isFile path = true := fun h => (Option.filter_eq_some_iff.1 h).2
  unfold Resolver.locate? at h
  simp only at h
  split at h
  · split at h
    · rename_i hf
      injection h with h
      exact h ▸ hf
    · exact hprobe h
  · exact hprobe h

/-- How many files a set does not reference yet. -/
def ReferenceSet.unclaimed (s : ReferenceSet) (files : Files) : Nat :=
  files.identities.countP fun i => !s.containsIdentity i

theorem ReferenceSet.unclaimed_lt {s t : ReferenceSet} {files : Files} {r : Reference}
    (h : s.insert r = (t, .added)) (hr : r.identity ∈ files.identities) :
    t.unclaimed files < s.unclaimed files := by
  obtain ⟨hnew, hindex⟩ := index_of_insert_eq_added h
  have hcontains (i : String) :
      t.containsIdentity i = (r.identity == i || s.containsIdentity i) := by
    simp [containsIdentity, hindex]
  refine countP_lt_of_excludes (fun i _ hi => ?_) hr (by simp [hcontains]) (by simp [hnew])
  simp only [hcontains, Bool.not_or, Bool.and_eq_true] at hi
  exact hi.2

/-! ## The walk -/

/-- A walk under way. -/
structure Walk where
  /-- The references so far. -/
  references : ReferenceSet
  /-- The names of the units that have been put on the frontier. -/
  visited : Std.HashSet String
  /-- The units still to be visited, the next one first. -/
  frontier : List UnitHandle
  /-- What has been noted. -/
  warnings : List ResolveWarning := []
  /-- The paths that have been inspected, in order. -/
  inspected : List String := []

/-- Puts the unit of a name at the end of the frontier, unless the name has been visited. -/
def Walk.visit (r : Resolver) (w : Walk) (name : String) : Walk :=
  if w.visited.contains name then w
  else { w with visited := w.visited.insert name, frontier := w.frontier ++ [r.handle name] }

/-- Goes on to what a unit references: what its handle says, or else what its file tells. -/
def Walk.expand (r : Resolver) (files : Files) (w : Walk) (u : UnitHandle) (path : String) :
    Walk :=
  match u.references with
  | some names => names.foldl (Walk.visit r) w
  | none =>
    -- the file is asked only if the handle says nothing
    let w := { w with inspected := w.inspected ++ [path] }
    match r.inspector files path with
    | .ok names => names.foldl (Walk.visit r) w
    | .error e => { w with warnings := w.warnings ++ [.notWalked u.name e] }

/-- The reason on record for a unit that is not located. -/
def missReason : String := "no on-disk location and not found in any hint path"

/-- Visits a unit that has been taken from the frontier. -/
def Walk.step (r : Resolver) (files : Files) (w : Walk) (u : UnitHandle) : Walk :=
  match r.locate? files u with
  | none =>
    { w with
      references := w.references.recordMiss ⟨u.name, missReason⟩
      warnings := w.warnings ++ [.notLocated u.name r.config.hintPaths] }
  | some path =>
    let reference := Reference.ofFile files u.name path
    match w.references.insert reference with
    | (s, .added) => Walk.expand r files { w with references := s } u path
    -- its file has been walked under another name
    | (_, .present) => w
    | (_, .nameTaken holder) =>
      { w with warnings := w.warnings ++ [.nameTaken ⟨reference, holder⟩] }

@[simp] theorem Walk.references_visit (r : Resolver) (w : Walk) (name : String) :
    (w.visit r name).references = w.references := by
  unfold Walk.visit
  split <;> rfl

@[simp] theorem Walk.references_foldl_visit (r : Resolver) (w : Walk) (names : List String) :
    (names.foldl (Walk.visit r) w).references = w.references := by
  induction names generalizing w with
  | nil => rfl
  | cons n ns ih => simp [ih]

@[simp] theorem Walk.references_expand (r : Resolver) (files : Files) (w : Walk) (u : UnitHandle)
    (path : String) : (w.expand r files u path).references = w.references := by
  unfold Walk.expand
  split
  · simp
  · split <;> simp

/-- A visit claims a file, or it leaves the frontier and the claimed files as they are. -/
theorem Walk.step_progress (r : Resolver) (files : Files) (w : Walk) (u : UnitHandle) :
    (w.step r files u).references.unclaimed files < w.references.unclaimed files ∨
      (w.step r files u).references.unclaimed files = w.references.unclaimed files ∧
        (w.step r files u).frontier = w.frontier := by
  unfold Walk.step
  split
  · right
    refine ⟨?_, rfl⟩
    simp only [ReferenceSet.recordMiss]
    split <;> rfl
  · rename_i path hpath
    have hr := @Reference.identity_ofFile_mem files u.name _ (Resolver.isFile_of_locate? hpath)
    simp only
    split
    · rename_i s hs
      left
      rw [Walk.references_expand]
      exact ReferenceSet.unclaimed_lt hs hr
    · exact Or.inr ⟨rfl, rfl⟩
    · exact Or.inr ⟨rfl, rfl⟩

set_option linter.unusedVariables false in
/-- Visits units until the frontier is empty. -/
def Walk.run (r : Resolver) (files : Files) (w : Walk) : Walk :=
  match h : w.frontier with
  | [] => w
  | u :: rest => Walk.run r files (Walk.step r files { w with frontier := rest } u)
termination_by (w.references.unclaimed files, w.frontier.length)
decreasing_by
  rcases Walk.step_progress r files { w with frontier := rest } u with hlt | ⟨heq, hf⟩
  · exact Prod.Lex.left _ _ hlt
  · rw [heq, hf, h]
    exact Prod.Lex.right _ (by simp)

/-! ## Resolving -/

/-- What comes of resolving a unit. -/
structure Resolution where
  /-- The references that the unit needs, itself included. -/
  result : Except ResolveError ReferenceSet
  /-- What has been noted. -/
  warnings : List ResolveWarning := []
  /-- The paths that have been inspected, in order. -/
  inspected : List String := []

namespace Resolver

/-- The walk that starts from a unit. -/
def walkFrom (r : Resolver) (u : UnitHandle) (inspected : List String) : Walk :=
  { references := r.baseline
    visited := (Std.HashSet.ofList r.config.baseline).insert u.name
    frontier := [u]
    inspected }

/-- Gathers everything that a unit needs. -/
def resolve (r : Resolver) (files : Files) (u : UnitHandle) : Resolution :=
  match r.inspectStart files u with
  | (.error e, inspected) => { result := .error e, inspected }
  | (.ok u, inspected) =>
    let w := Walk.run r files (r.walkFrom u inspected)
    { result := .ok w.references, warnings := w.warnings, inspected := w.inspected }

end Resolver

end UnitFoundry
