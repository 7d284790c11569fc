import UnitFoundry.Proofs.Resolve.BreadthFirst

/-! # Nothing is done twice

Resolving visits units one after another until none is left on the frontier. No name is visited
twice, no file is inspected twice, under whatever paths it is met, and no unit is recorded as
missing twice. The check of the starting unit counts as an inspection of its file.

* **`Walk.exists_visits_run`**: a walk comes to its end after finitely many visits.
* **`Walk.AskedOnce.step`**: a visit inspects only a file that it adds to the set.
* **`Walk.Visits.misses`**: each visit to a unit that is not located puts one miss on record.
* **`Walk.run_congr`**: a walk depends on nothing but the inspections that it keeps a record of.
* **`Resolver.resolve_visitsOnce`**: all of this for what resolving does. -/

namespace UnitFoundry

namespace Walk

variable {r : Resolver} {files : Files} {w w' : Walk} {u : UnitHandle} {us : List UnitHandle}

/-! ## Visits one after another -/

/-- One walk comes of another by visits to some units, each when it stands first on the
frontier. -/
inductive Visits (r : Resolver) (files : Files) : Walk → List UnitHandle → Walk → Prop where
  /-- No visit at all. -/
  | nil (w : Walk) : Visits r files w [] w
  /-- A visit to the unit that stands first, and then others. -/
  | cons {w w' : Walk} {u : UnitHandle} {rest us : List UnitHandle} : w.frontier = u :: rest →
    Visits r files (step r files { w with frontier := rest } u) us w' →
    Visits r files w (u :: us) w'

/-- **A walk comes to its end after finitely many visits.** -/
theorem exists_visits_run (r : Resolver) (files : Files) (w : Walk) :
    ∃ us, Visits r files w us (run r files w) ∧ (run r files w).frontier = [] := by
  induction w using run.induct r files with
  | case1 w hnil =>
      rw [run_of_frontier_nil hnil]
      exact ⟨[], .nil w, hnil⟩
  | case2 w u rest hcons ih =>
      rw [run_of_frontier_cons hcons]
      obtain ⟨us, hvisits, hend⟩ := ih
      exact ⟨u :: us, .cons hcons hvisits, hend⟩

namespace Visits

/-- Whatever visits are made, those that come to the end go on with the same units. -/
theorem isPrefix {us' : List UnitHandle} {w'' : Walk} (h : Visits r files w us w')
    (hend : w'.frontier = []) (h' : Visits r files w us' w'') : us' <+: us := by
  induction h' generalizing us with
  | nil w => exact List.nil_prefix
  | cons hcons hvisits ih =>
      cases h with
      | nil =>
          rw [hcons] at hend
          exact absurd hend (List.cons_ne_nil _ _)
      | cons hcons' hvisits' =>
          obtain ⟨rfl, rfl⟩ := List.cons_eq_cons.1 (hcons.symm.trans hcons')
          exact (List.prefix_cons_inj _).2 (ih hvisits')

/-- The names of the units that are visited follow those that were visited before in layers. -/
theorem layered {start : UnitHandle} {done queue : List (String × Nat)}
    (h : Visits r files w us w') (hw : Layered r files start w done queue) :
    ∃ done' queue', Layered r files start w' done' queue' ∧
      done'.map Prod.fst = done.map Prod.fst ++ us.map (·.name) := by
  induction h generalizing done queue with
  | nil w => exact ⟨done, queue, hw, (List.append_nil _).symm⟩
  | @cons w w' u rest us hcons hvisits ih =>
      have hmap := hw.frontier
      rw [hcons] at hmap
      cases queue with
      | nil => exact absurd hmap (List.cons_ne_nil _ _)
      | cons q queue =>
          obtain ⟨rfl, rfl⟩ := List.cons_eq_cons.1 hmap
          obtain ⟨new, hstep⟩ := hw.step
          obtain ⟨done', queue', hw', hnames⟩ := ih hstep
          refine ⟨done', queue', hw', ?_⟩
          rw [hnames, List.map_append, List.append_assoc, List.map_cons (l := us),
            Resolver.name_handleFrom]
          rfl

end Visits

/-! ## Misses -/

/-- A visit puts a miss on record if the unit is not located and has not been missed before. -/
theorem misses_step (hnew : ∀ m ∈ w.references.misses, m.unit ≠ u.name) :
    (w.step r files u).references.misses =
      if (r.locate? files u).isNone then w.references.misses ++ [⟨u.name, missReason⟩]
      else w.references.misses := by
  obtain ⟨hnone, hrefs, -⟩ | ⟨path, hloc, -, hrefs, -⟩ | ⟨path, s, fresh, hloc, -, hs, -, hq⟩ :=
    step_cases r files w u
  · have hrecord : w.references.misses.any (·.unit = u.name) = false := by
      simpa using hnew
    rw [hrefs, hnone, ReferenceSet.recordMiss, hrecord]
    rfl
  · rw [hrefs, hloc]
    rfl
  · have hrefs : (w.step r files u).references = s := hq.references
    rw [hrefs, hs, hloc, ReferenceSet.misses_insert]
    rfl

/-- **Each visit to a unit that is not located puts one miss on record**, and no other visit does,
where nothing is visited that is visited again or has been missed before. -/
theorem Visits.misses (h : Visits r files w us w')
    (hnew : (w.references.misses.map (·.unit) ++ us.map (·.name)).Nodup) :
    w'.references.misses.map (·.unit) = w.references.misses.map (·.unit) ++
      (us.filter fun u => (r.locate? files u).isNone).map (·.name) := by
  induction h with
  | nil w => exact (List.append_nil _).symm
  | @cons w w' u rest us hcons hvisits ih =>
      rw [List.map_cons] at hnew
      have hfirst : ∀ m ∈ w.references.misses, m.unit ≠ u.name := fun m hm =>
        (List.nodup_append.1 hnew).2.2 _ (List.mem_map_of_mem hm) _ List.mem_cons_self
      have hstep : (({ w with frontier := rest } : Walk).step r files u).references.misses = _ :=
        misses_step hfirst
      rw [hstep] at ih
      by_cases hnone : (r.locate? files u).isNone = true
      · rw [if_pos hnone, List.map_append, List.append_assoc] at ih
        rw [ih hnew, List.filter_cons, if_pos hnone, List.append_assoc]
        rfl
      · rw [if_neg hnone] at ih
        rw [ih (hnew.sublist ((List.sublist_cons_self _ _).append_left _)), List.filter_cons,
          if_neg hnone]

/-! ## Inspections -/

/-- The identities in the set stay there. -/
theorem containsIdentity_step {i : String} (h : w.references.containsIdentity i = true) :
    (w.step r files u).references.containsIdentity i = true := by
  obtain ⟨-, hrefs, -⟩ | ⟨path, -, -, hrefs, -⟩ | ⟨path, s, fresh, -, -, hs, -, hq⟩ :=
    step_cases r files w u
  · rw [hrefs, ReferenceSet.containsIdentity, ReferenceSet.index_recordMiss]
    exact h
  · rw [hrefs]
    exact h
  · have hrefs : (w.step r files u).references = s := hq.references
    rw [hrefs, hs]
    obtain ⟨-, hinsert⟩ | ⟨holder, -, -, hinsert⟩ | ⟨-, -, hinsert⟩ :=
      w.references.insert_cases (Reference.ofFile files u.name path)
    · rw [hinsert]
      exact h
    · rw [hinsert]
      exact h
    · rw [hinsert, ReferenceSet.containsIdentity, Std.HashSet.contains_insert, Bool.or_eq_true]
      exact Or.inr h

@[simp] theorem inspected_visit (r : Resolver) (w : Walk) (name : String) :
    (w.visit r name).inspected = w.inspected := by
  unfold visit
  split <;> rfl

@[simp] theorem inspected_foldl_visit (r : Resolver) (names : List String) (w : Walk) :
    (names.foldl (visit r) w).inspected = w.inspected := by
  induction names generalizing w with
  | nil => rfl
  | cons n names ih => rw [List.foldl_cons, ih, inspected_visit]

/-- Going on from a unit inspects its file unless the handle says what the unit references. -/
theorem inspected_expand (r : Resolver) (files : Files) (w : Walk) (u : UnitHandle)
    (path : String) : (w.expand r files u path).inspected =
      if u.references.isSome then w.inspected else w.inspected ++ [path] := by
  unfold expand
  cases u.references with
  | some names => exact inspected_foldl_visit r names w
  | none =>
      cases r.inspector files path with
      | ok names => exact inspected_foldl_visit r names _
      | error e => rfl

/-- **What a visit inspects**: nothing, or the file of the unit, which it adds to the set. In the
first case the set has got the unit's file as well, or nothing is put on the frontier. -/
theorem inspected_step_cases (r : Resolver) (files : Files) (w : Walk) (u : UnitHandle) :
    ((w.step r files u).inspected = w.inspected ∧
      (w.step r files u).frontier = w.frontier) ∨
    ∃ path p, r.locate? files u = some path ∧ files.canonicalize path = .ok p ∧
      w.references.containsIdentity p = false ∧
      (w.step r files u).references.containsIdentity p = true ∧
      (w.step r files u).inspected =
        if u.references.isSome then w.inspected else w.inspected ++ [path] := by
  unfold step
  cases hloc : r.locate? files u with
  | none => exact Or.inl ⟨rfl, rfl⟩
  | some path =>
      obtain ⟨p, -, hp⟩ := Files.canonicalize_of_isFile (Resolver.isFile_of_locate? hloc)
      have hid : (Reference.ofFile files u.name path).identity = p := by
        rw [Reference.ofFile, hp]
      obtain ⟨hi, h⟩ | ⟨holder, hi, hn, h⟩ | ⟨hi, hn, h⟩ :=
        w.references.insert_cases (Reference.ofFile files u.name path)
      · simp only [h]
        exact Or.inl ⟨trivial, trivial⟩
      · simp only [h]
        exact Or.inl ⟨trivial, trivial⟩
      · simp only [h]
        refine Or.inr ⟨path, p, rfl, hp, hid ▸ hi, ?_, inspected_expand r files _ u path⟩
        rw [references_expand, ReferenceSet.containsIdentity, Std.HashSet.contains_insert, hid,
          beq_self_eq_true, Bool.true_or]

/-- A walk under way has inspected no file twice, and as long as it goes on the files that it has
inspected are in the set. -/
structure AskedOnce (files : Files) (w : Walk) : Prop where
  /-- What has been inspected are files. -/
  isFile : ∀ path ∈ w.inspected, files.isFile path = true
  /-- No file has been inspected twice. -/
  nodup : (w.inspected.map files.canonicalize).Nodup
  /-- The files that have been inspected are in the set. -/
  claimed : w.frontier ≠ [] → ∀ path ∈ w.inspected, ∃ p, files.canonicalize path = .ok p ∧
    w.references.containsIdentity p = true

namespace AskedOnce

/-- Where nothing more is inspected, the files that have been inspected stay in the set. -/
theorem of_inspected_eq (h : AskedOnce files w) (hsame : w'.inspected = w.inspected)
    (hclaimed : w'.frontier ≠ [] → ∀ path ∈ w.inspected, ∃ p, files.canonicalize path = .ok p ∧
      w'.references.containsIdentity p = true) : AskedOnce files w' := by
  refine ⟨?_, ?_, ?_⟩
  · rw [hsame]
    exact h.isFile
  · rw [hsame]
    exact h.nodup
  · rw [hsame]
    exact hclaimed

/-- **Each visit keeps this**: what it inspects was not in the set, so it had not been
inspected. -/
theorem step {rest : List UnitHandle} (h : AskedOnce files w) (hw : w.frontier = u :: rest) :
    AskedOnce files (Walk.step r files { w with frontier := rest } u) := by
  have hclaimed := h.claimed (hw ▸ List.cons_ne_nil _ _)
  have hold : ∀ path ∈ w.inspected, ∃ p, files.canonicalize path = .ok p ∧
      (Walk.step r files { w with frontier := rest } u).references.containsIdentity p = true := by
    intro path hpath
    obtain ⟨p, hp, hin⟩ := hclaimed path hpath
    exact ⟨p, hp, containsIdentity_step (w := { w with frontier := rest }) hin⟩
  obtain ⟨hsame, -⟩ | ⟨path, p, hloc, hp, hnew, hin, hasked⟩ :=
    inspected_step_cases r files { w with frontier := rest } u
  · exact h.of_inspected_eq hsame fun _ => hold
  by_cases hrefs : u.references.isSome = true
  · rw [if_pos hrefs] at hasked
    exact h.of_inspected_eq hasked fun _ => hold
  rw [if_neg hrefs] at hasked
  have hfile := Resolver.isFile_of_locate? hloc
  refine ⟨?_, ?_, fun _ => ?_⟩
  · rw [hasked, List.forall_mem_append, List.forall_mem_singleton]
    exact ⟨h.isFile, hfile⟩
  · rw [hasked, List.map_append, List.map_singleton, ← List.concat_eq_append]
    refine h.nodup.concat fun hmem => ?_
    -- the file would have been in the set before
    obtain ⟨q, hq, hsame⟩ := List.mem_map.1 hmem
    obtain ⟨p', hp', hin'⟩ := hclaimed q hq
    obtain rfl := Except.ok.inj (hp'.symm.trans (hsame.trans hp))
    rw [hin'] at hnew
    exact Bool.noConfusion hnew
  · rw [hasked, List.forall_mem_append, List.forall_mem_singleton]
    exact ⟨hold, p, hp, hin⟩

/-- No visit inspects a file that has been inspected. -/
theorem visits (h : AskedOnce files w) (hvisits : Visits r files w us w') :
    AskedOnce files w' := by
  induction hvisits with
  | nil w => exact h
  | cons hcons _ ih => exact ih (h.step hcons)

end AskedOnce

/-! ## What a walk depends on -/

/-- What has been inspected stays on record. -/
theorem inspected_prefix_step (r : Resolver) (files : Files) (w : Walk) (u : UnitHandle) :
    w.inspected <+: (w.step r files u).inspected := by
  obtain ⟨hsame, -⟩ | ⟨path, p, -, -, -, -, hasked⟩ := inspected_step_cases r files w u
  · rw [hsame]
  · rw [hasked]
    split
    · exact List.prefix_rfl
    · exact List.prefix_append _ _

theorem Visits.inspected_prefix (h : Visits r files w us w') : w.inspected <+: w'.inspected := by
  induction h with
  | nil w => exact List.prefix_rfl
  | @cons w w' u rest us hcons hvisits ih =>
      exact (inspected_prefix_step r files { w with frontier := rest } u).trans ih

theorem inspected_prefix_run (r : Resolver) (files : Files) (w : Walk) :
    w.inspected <+: (run r files w).inspected := by
  obtain ⟨us, hvisits, -⟩ := exists_visits_run r files w
  exact hvisits.inspected_prefix

/-- An inspector that answers alike where the walk asks leads on from a unit in the same way. -/
theorem expand_congr {ask : Inspector} {path : String}
    (h : ∀ q ∈ (w.expand r files u path).inspected, ask files q = r.inspector files q) :
    w.expand { r with inspector := ask } files u path = w.expand r files u path := by
  rw [inspected_expand] at h
  unfold expand
  cases hrefs : u.references with
  | some names => rfl
  | none =>
      have hpath : path ∈ w.inspected ++ [path] := List.mem_append_right _ List.mem_cons_self
      rw [hrefs] at h
      simp only [h path hpath]
      cases r.inspector files path with
      | ok names => rfl
      | error e => rfl

theorem step_congr {ask : Inspector}
    (h : ∀ q ∈ (w.step r files u).inspected, ask files q = r.inspector files q) :
    w.step { r with inspector := ask } files u = w.step r files u := by
  -- the same unit is located at the same place
  have hlocate : Resolver.locate? { r with inspector := ask } files u = r.locate? files u := rfl
  unfold step at h ⊢
  rw [hlocate]
  cases hloc : r.locate? files u with
  | none => rfl
  | some path =>
      simp only [hloc] at h ⊢
      cases hi : w.references.insert (Reference.ofFile files u.name path) with
      | mk s i =>
          simp only [hi] at h ⊢
          cases i with
          | added => exact expand_congr h
          | present => rfl
          | nameTaken holder => rfl

/-- **A walk depends on nothing but the inspections that it keeps a record of**: an inspector that
answers these alike leads to the same walk. -/
theorem run_congr {ask : Inspector}
    (h : ∀ q ∈ (run r files w).inspected, ask files q = r.inspector files q) :
    run { r with inspector := ask } files w = run r files w := by
  induction w using run.induct r files with
  | case1 w hnil => rw [run_of_frontier_nil hnil, run_of_frontier_nil hnil]
  | case2 w u rest hcons ih =>
      rw [run_of_frontier_cons hcons] at h ⊢
      rw [run_of_frontier_cons hcons]
      have hstep : step { r with inspector := ask } files { w with frontier := rest } u =
          step r files { w with frontier := rest } u :=
        step_congr fun q hq => h q ((inspected_prefix_run r files _).subset hq)
      rw [hstep]
      exact ih h

end Walk

namespace Resolver

variable {r : Resolver} {files : Files} {start u : UnitHandle} {inspected : List String}

/-- The check of a starting unit inspects nothing, or the file where the unit lies. If the unit can
be used then, it says from there on what it references. -/
theorem inspectStart_cases (r : Resolver) (files : Files) (start : UnitHandle) :
    (r.inspectStart files start).2 = [] ∨
      ∃ path, (r.inspectStart files start).2 = [path] ∧ files.isFile path = true ∧
        ∀ u, (r.inspectStart files start).1 = .ok u →
          r.locate? files u = some path ∧ u.references.isSome = true := by
  rw [inspectStart]
  split
  · exact Or.inl rfl
  split
  · exact Or.inl rfl
  rename_i path hpath
  split
  · exact Or.inl rfl
  rename_i hfile
  split
  · exact Or.inl rfl
  have hfile : files.isFile path = true := by simpa using hfile
  split
  · refine Or.inr ⟨path, rfl, hfile, fun u hu => ?_⟩
    obtain rfl := Except.ok.inj hu
    refine ⟨?_, rfl⟩
    rw [locate?, UnitHandle.withReferences, hpath]
    exact if_pos hfile
  · exact Or.inr ⟨path, rfl, hfile, fun u hu => absurd hu (by simp)⟩

/-- **A walk inspects no file twice**, and not the file that the check of the starting unit has
inspected. -/
theorem askedOnce_run (h : r.inspectStart files start = (.ok u, inspected)) :
    Walk.AskedOnce files (Walk.run r files (r.walkFrom u inspected)) := by
  have hcases := r.inspectStart_cases files start
  rw [h] at hcases
  obtain rfl | ⟨path, rfl, hfile, hu⟩ := hcases
  · have hnothing : Walk.AskedOnce files (r.walkFrom u []) :=
      ⟨fun _ hq => absurd hq List.not_mem_nil, List.nodup_nil,
        fun _ _ hq => absurd hq List.not_mem_nil⟩
    obtain ⟨us, hvisits, -⟩ := Walk.exists_visits_run r files (r.walkFrom u [])
    exact hnothing.visits hvisits
  · obtain ⟨hloc, hrefs⟩ := hu u rfl
    -- the first visit puts the file into the set, or it is the last one
    have hone : Walk.AskedOnce files { r.walkFrom u [path] with frontier := [] } := by
      exact ⟨List.forall_mem_singleton.2 hfile, List.nodup_singleton _,
        fun hne => absurd rfl hne⟩
    have hfirst : Walk.AskedOnce files
        (Walk.step r files { r.walkFrom u [path] with frontier := [] } u) := by
      obtain ⟨hsame, hend⟩ | ⟨path', p, hloc', hp, -, hin, hasked⟩ :=
        Walk.inspected_step_cases r files { r.walkFrom u [path] with frontier := [] } u
      · exact hone.of_inspected_eq hsame fun hne => absurd hend hne
      · rw [if_pos hrefs] at hasked
        obtain rfl := Option.some.inj (hloc.symm.trans hloc')
        exact hone.of_inspected_eq hasked fun _ => List.forall_mem_singleton.2 ⟨p, hp, hin⟩
    rw [Walk.run_of_frontier_cons (w := r.walkFrom u [path]) rfl]
    obtain ⟨us, hvisits, -⟩ := Walk.exists_visits_run r files _
    exact hfirst.visits hvisits

theorem inspectStart_congr {ask : Inspector}
    (h : ∀ path ∈ (r.inspectStart files start).2, ask files path = r.inspector files path) :
    inspectStart { r with inspector := ask } files start = r.inspectStart files start := by
  unfold inspectStart at h ⊢
  by_cases hblank : Text.isBlankText start.name = true
  · rw [if_pos hblank, if_pos hblank]
  rw [if_neg hblank] at h ⊢
  rw [if_neg hblank]
  cases hlocation : start.location with
  | none => rfl
  | some path =>
      simp only [hlocation] at h ⊢
      by_cases hfile : (!files.isFile path) = true
      · rw [if_pos hfile, if_pos hfile]
      rw [if_neg hfile] at h ⊢
      rw [if_neg hfile]
      cases hrefs : start.references with
      | some names => rfl
      | none =>
          simp only [hrefs] at h
          -- the one answer that the check asks for
          have hask : ask files path = r.inspector files path := by
            cases hanswer : r.inspector files path <;> rw [hanswer] at h <;>
              exact hanswer ▸ h path List.mem_cons_self
          simp only [hask]

/-- **The inspections on record are all that resolving depends on.** -/
theorem resolve_congr {ask : Inspector}
    (h : ∀ path ∈ (r.resolve files start).inspected, ask files path = r.inspector files path) :
    resolve { r with inspector := ask } files start = r.resolve files start := by
  have hstart : inspectStart { r with inspector := ask } files start =
      r.inspectStart files start := by
    refine inspectStart_congr fun path hpath => h path ?_
    rw [resolve]
    cases hs : r.inspectStart files start with
    | mk result inspected =>
        rw [hs] at hpath
        cases result with
        | error e => exact hpath
        | ok u => exact (Walk.inspected_prefix_run r files (r.walkFrom u inspected)).subset hpath
  unfold resolve at h ⊢
  rw [hstart]
  cases hs : r.inspectStart files start with
  | mk result inspected =>
      cases result with
      | error e => rfl
      | ok u =>
          simp only [hs] at h
          have hrun := Walk.run_congr h
          have hwalk : walkFrom { r with inspector := ask } u inspected =
              r.walkFrom u inspected := rfl
          simp only [hwalk, hrun]

/-- Whatever comes of resolving, no file has been inspected twice. -/
theorem nodup_inspected (r : Resolver) (files : Files) (start : UnitHandle) :
    (∀ path ∈ (r.resolve files start).inspected, files.isFile path = true) ∧
      ((r.resolve files start).inspected.map files.canonicalize).Nodup := by
  rw [resolve]
  cases hs : r.inspectStart files start with
  | mk result inspected =>
      cases result with
      | error e =>
          have hcases := r.inspectStart_cases files start
          rw [hs] at hcases
          obtain rfl | ⟨path, rfl, hfile, -⟩ := hcases
          · exact ⟨fun _ hq => absurd hq List.not_mem_nil, List.nodup_nil⟩
          · exact ⟨List.forall_mem_singleton.2 hfile, List.nodup_singleton _⟩
      | ok u => exact ⟨(askedOnce_run hs).isFile, (askedOnce_run hs).nodup⟩

/-- The visits of a walk from a starting unit: no name is visited twice, and the misses are those of
the units that are not located. -/
theorem nodup_of_visits {us : List UnitHandle} {w : Walk}
    (h : Walk.Visits r files (r.walkFrom u inspected) us w) : (us.map (·.name)).Nodup ∧
      w.references.misses.map (·.unit) =
        (us.filter fun u => (r.locate? files u).isNone).map (·.name) := by
  obtain ⟨done, queue, hlayered, hnames⟩ := h.layered (.walkFrom r files u inspected)
  have hnodup : (us.map (·.name)).Nodup := by
    have hall := hlayered.nodup
    rw [List.map_append, hnames, List.map_nil, List.nil_append] at hall
    exact (List.nodup_append.1 hall).1
  have hnone : (r.walkFrom u inspected).references.misses.map (·.unit) = [] := by
    rw [walkFrom, misses_baseline, List.map_nil]
  have hmisses := h.misses (by rwa [hnone, List.nil_append])
  rw [hnone, List.nil_append] at hmisses
  exact ⟨hnodup, hmisses⟩

/-- **Resolving comes to its end and does nothing twice**, whatever the files, the inspector, the
known units and the starting unit are. Finitely many visits empty the frontier, and no others are
made; no name is visited twice, and exactly the units that are not located are recorded as missing,
each once. The inspector is asked about files only, about no file twice, and about nothing else
than what is on record. -/
theorem resolve_visitsOnce (r : Resolver) (files : Files) (start : UnitHandle) :
    (∀ u inspected, r.inspectStart files start = (.ok u, inspected) →
      ∃ us w, Walk.Visits r files (r.walkFrom u inspected) us w ∧ w.frontier = [] ∧
        (∀ us' w', Walk.Visits r files (r.walkFrom u inspected) us' w' → us' <+: us) ∧
        r.resolve files start = ⟨.ok w.references, w.warnings, w.inspected⟩ ∧
        (us.map (·.name)).Nodup ∧
        w.references.misses.map (·.unit) =
          (us.filter fun u => (r.locate? files u).isNone).map (·.name)) ∧
    (∀ set, (r.resolve files start).result = .ok set → (set.misses.map (·.unit)).Nodup) ∧
    (∀ path ∈ (r.resolve files start).inspected, files.isFile path = true) ∧
    ((r.resolve files start).inspected.map files.canonicalize).Nodup ∧
    ∀ ask : Inspector, (∀ path ∈ (r.resolve files start).inspected,
      ask files path = r.inspector files path) →
        resolve { r with inspector := ask } files start = r.resolve files start := by
  refine ⟨fun u inspected hs => ?_, fun set hset => (coherent_of_resolve hset).nodup_misses,
    (nodup_inspected r files start).1, (nodup_inspected r files start).2,
    fun ask => resolve_congr⟩
  obtain ⟨us, hvisits, hend⟩ := Walk.exists_visits_run r files (r.walkFrom u inspected)
  obtain ⟨hnodup, hmisses⟩ := nodup_of_visits hvisits
  refine ⟨us, _, hvisits, hend, fun us' w' h' => hvisits.isPrefix hend h', ?_, hnodup, hmisses⟩
  rw [resolve, hs]

/-- A file that is met under two names has been inspected before the walk starts, and is not
inspected again. -/
theorem resolve_visitsOnce_alias : ∃ u us w,
    aliasResolver.inspectStart aliasFiles (.atPath "/app.wasm") = (.ok u, ["/app.wasm"]) ∧
    Walk.Visits aliasResolver aliasFiles (aliasResolver.walkFrom u ["/app.wasm"]) us w ∧
    w.frontier = [] ∧ (us.map (·.name)).Nodup ∧ w.inspected = ["/app.wasm"] := by
  have hstart : aliasResolver.inspectStart aliasFiles (.atPath "/app.wasm") =
      (.ok ((UnitHandle.atPath "/app.wasm").withReferences ["twin"]), ["/app.wasm"]) := by
    decide +kernel
  obtain ⟨hvisits, -, hfiles, hnodup, -⟩ :=
    resolve_visitsOnce aliasResolver aliasFiles (.atPath "/app.wasm")
  obtain ⟨us, w, h, hend, -, hresolve, hnames, -⟩ := hvisits _ _ hstart
  rw [hresolve] at hfiles hnodup
  refine ⟨_, us, w, hstart, h, hend, hnames, ?_⟩
  -- there is no other file, so nothing else can have been inspected
  have hcanonical : ∀ path ∈ w.inspected, aliasFiles.canonicalize path = .ok "/app.wasm" := by
    intro path hpath
    obtain ⟨p, hp, hc⟩ := Files.canonicalize_of_isFile (hfiles path hpath)
    have hall : aliasFiles.identities = ["/app.wasm"] := by decide +kernel
    rw [hall, List.mem_singleton] at hp
    rw [hc, hp]
  have hprefix : ["/app.wasm"] <+: w.inspected := h.inspected_prefix
  obtain ⟨others, hothers⟩ := hprefix
  cases others with
  | nil => exact hothers.symm
  | cons q others =>
      rw [← hothers] at hnodup hcanonical
      have hfirst := hcanonical "/app.wasm" (by simp)
      have hsecond := hcanonical q (by simp)
      simp [hfirst, hsecond] at hnodup

end Resolver

end UnitFoundry
