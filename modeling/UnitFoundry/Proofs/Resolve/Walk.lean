import UnitFoundry.Proofs.Resolve.Chain

/-! # What one visit does

A visit takes a unit from the frontier and records a miss, or leaves the set as it is, or adds the
unit's file and puts the units that it references on the frontier.

* **`Walk.exists_queues_foldl_visit`**: of some names, those that have not been visited are put on
  the frontier, each once.
* **`Walk.step_cases`**: everything that one visit can do.
* **`Walk.run_of_frontier_cons`**: a walk goes on with the unit that stands first. -/

namespace UnitFoundry.Walk

variable {r : Resolver} {files : Files}

/-- One walk comes of another when the units of `fresh`, the names among `names` that have not been
visited, are put on the frontier. -/
structure Queues (r : Resolver) (names : List String) (w w' : Walk) (fresh : List String) :
    Prop where
  /-- The set of references stays. -/
  references : w'.references = w.references
  /-- The new units stand at the end of the frontier. -/
  frontier : w'.frontier = w.frontier ++ fresh.map r.handle
  /-- The new names are visited, and no others besides those visited before. -/
  visited : ∀ n, w'.visited.contains n = true ↔ w.visited.contains n = true ∨ n ∈ fresh
  /-- Each unit is put on the frontier once. -/
  nodup : fresh.Nodup
  /-- The new names are among those given and have not been visited. -/
  fresh : ∀ n ∈ fresh, n ∈ names ∧ w.visited.contains n = false
  /-- All names that are given are visited now. -/
  all : ∀ n ∈ names, w'.visited.contains n = true

/-- A name that has been visited is passed over. -/
theorem visit_of_visited {w : Walk} {n : String} (h : w.visited.contains n = true) :
    w.visit r n = w := by
  rw [visit, if_pos h]

theorem visit_of_not_visited {w : Walk} {n : String} (h : w.visited.contains n = false) :
    w.visit r n =
      { w with visited := w.visited.insert n, frontier := w.frontier ++ [r.handle n] } := by
  rw [visit, if_neg (by rw [h]; exact Bool.false_ne_true)]

/-- A name in front that has been visited adds nothing. -/
theorem Queues.cons_of_visited {n : String} {names fresh : List String} {w w' : Walk}
    (hn : w.visited.contains n = true) (h : Queues r names w w' fresh) :
    Queues r (n :: names) w w' fresh where
  references := h.references
  frontier := h.frontier
  visited := h.visited
  nodup := h.nodup
  fresh m hm := ⟨List.mem_cons_of_mem _ (h.fresh m hm).1, (h.fresh m hm).2⟩
  all := by
    intro m hm
    rcases List.mem_cons.1 hm with rfl | hm
    · exact (h.visited m).2 (Or.inl hn)
    · exact h.all m hm

/-- A name in front that has not been visited comes first. While the rest is looked at it counts as
visited, so it is not new a second time. -/
theorem Queues.cons_of_not_visited {n : String} {names fresh : List String} {w w' : Walk}
    (hn : w.visited.contains n = false)
    (h : Queues r names
      { w with visited := w.visited.insert n, frontier := w.frontier ++ [r.handle n] } w' fresh) :
    Queues r (n :: names) w w' (n :: fresh) := by
  have hvisited : ∀ m, (w.visited.insert n).contains m = true ↔
      n = m ∨ w.visited.contains m = true := by
    intro m
    rw [Std.HashSet.contains_insert, Bool.or_eq_true, beq_iff_eq]
  have hfresh : ∀ m ∈ fresh, m ∈ names ∧ n ≠ m ∧ w.visited.contains m = false := by
    intro m hm
    obtain ⟨hmem, hnew⟩ := h.fresh m hm
    have hnot : ¬(n = m ∨ w.visited.contains m = true) := by
      rw [← hvisited m]
      exact Bool.eq_false_iff.1 hnew
    rw [not_or, Bool.not_eq_true] at hnot
    exact ⟨hmem, hnot⟩
  refine ⟨h.references, ?_, fun m => ?_, ?_, fun m hm => ?_, fun m hm => ?_⟩
  · rw [h.frontier, List.append_assoc, List.map_cons, List.singleton_append]
  · rw [h.visited m, hvisited m, List.mem_cons]
    constructor
    · rintro ((rfl | hm) | hm)
      · exact Or.inr (Or.inl rfl)
      · exact Or.inl hm
      · exact Or.inr (Or.inr hm)
    · rintro (hm | rfl | hm)
      · exact Or.inl (Or.inr hm)
      · exact Or.inl (Or.inl rfl)
      · exact Or.inr hm
  · exact List.nodup_cons.2 ⟨fun hmem => (hfresh n hmem).2.1 rfl, h.nodup⟩
  · rcases List.mem_cons.1 hm with rfl | hm
    · exact ⟨List.mem_cons_self, hn⟩
    · exact ⟨List.mem_cons_of_mem _ (hfresh m hm).1, (hfresh m hm).2.2⟩
  · rcases List.mem_cons.1 hm with rfl | hm
    · exact (h.visited m).2 (Or.inl ((hvisited m).2 (Or.inl rfl)))
    · exact h.all m hm

/-- **Of some names, those that have not been visited are put on the frontier.** -/
theorem exists_queues_foldl_visit (r : Resolver) (names : List String) (w : Walk) :
    ∃ fresh, Queues r names w (names.foldl (visit r) w) fresh := by
  induction names generalizing w with
  | nil =>
      exact ⟨[], rfl, (List.append_nil _).symm, fun n => by simp, List.nodup_nil,
        fun n hn => absurd hn List.not_mem_nil, fun n hn => absurd hn List.not_mem_nil⟩
  | cons n names ih =>
      rw [List.foldl_cons]
      cases hn : w.visited.contains n with
      | true =>
          rw [visit_of_visited hn]
          obtain ⟨fresh, h⟩ := ih w
          exact ⟨fresh, h.cons_of_visited hn⟩
      | false =>
          rw [visit_of_not_visited hn]
          obtain ⟨fresh, h⟩ := ih _
          exact ⟨n :: fresh, h.cons_of_not_visited hn⟩

/-- Going on from a unit puts what it references on the frontier. -/
theorem exists_queues_expand {u : UnitHandle} {path : String} (w : Walk)
    (hloc : r.locate? files u = some path) :
    ∃ fresh, Queues r (r.referencesOf files u) w (w.expand r files u path) fresh := by
  unfold expand Resolver.referencesOf
  cases u.references with
  | some names => exact exists_queues_foldl_visit r names w
  | none =>
      -- noting the inspection or the warning changes nothing that `Queues` speaks of
      simp only [hloc]
      cases r.inspector files path with
      | ok names =>
          obtain ⟨fresh, h⟩ := exists_queues_foldl_visit r names
            { w with inspected := w.inspected ++ [path] }
          exact ⟨fresh, h.references, h.frontier, h.visited, h.nodup, h.fresh, h.all⟩
      | error e =>
          obtain ⟨fresh, h⟩ := exists_queues_foldl_visit r [] w
          exact ⟨fresh, h.references, h.frontier, h.visited, h.nodup, h.fresh, h.all⟩

/-- **What a visit does**: it records that the unit cannot be located; or it leaves the set as it
is, since the unit's file or its name is present; or it adds the unit's file and puts what the unit
references on the frontier. -/
theorem step_cases (r : Resolver) (files : Files) (w : Walk) (u : UnitHandle) :
    (r.locate? files u = none ∧
      (w.step r files u).references = w.references.recordMiss ⟨u.name, missReason⟩ ∧
      (w.step r files u).frontier = w.frontier ∧ (w.step r files u).visited = w.visited) ∨
    (∃ path, r.locate? files u = some path ∧
      (w.references.containsIdentity (Reference.ofFile files u.name path).identity = true ∨
        (w.references.get? u.name).isSome) ∧
      (w.step r files u).references = w.references ∧
      (w.step r files u).frontier = w.frontier ∧ (w.step r files u).visited = w.visited) ∨
    (∃ path s fresh, r.locate? files u = some path ∧ w.references.get? u.name = none ∧
      s = (w.references.insert (Reference.ofFile files u.name path)).1 ∧
      s.entries = w.references.entries ++ [Reference.ofFile files u.name path] ∧
      Queues r (r.referencesOf files u) { w with references := s } (w.step r files u) fresh) := by
  unfold step
  cases hloc : r.locate? files u with
  | none => exact Or.inl ⟨rfl, rfl, rfl, rfl⟩
  | some path =>
      right
      obtain ⟨hi, h⟩ | ⟨holder, hi, hn, h⟩ | ⟨hi, hn, h⟩ :=
        w.references.insert_cases (Reference.ofFile files u.name path)
      · exact Or.inl ⟨path, rfl, Or.inl hi, by simp only [h], by simp only [h], by simp only [h]⟩
      · have hbound : (w.references.get? u.name).isSome :=
          Option.isSome_iff_exists.2 ⟨holder, hn⟩
        exact Or.inl
          ⟨path, rfl, Or.inr hbound, by simp only [h], by simp only [h], by simp only [h]⟩
      · right
        simp only [h]
        obtain ⟨fresh, hq⟩ := exists_queues_expand
          { w with references := { w.references with
              entries := w.references.entries ++ [Reference.ofFile files u.name path]
              index := w.references.index.insert
                (Reference.ofFile files u.name path).identity } } hloc
        refine ⟨path, _, fresh, rfl, hn, ?_, ?_, hq⟩
        · rw [h]
        · rfl

/-! ## Visits one after another -/

/-- A walk ends when nothing is left to be visited. -/
theorem run_of_frontier_nil {w : Walk} (h : w.frontier = []) : run r files w = w := by
  rw [run]
  split
  · rfl
  · rename_i hcons
    rw [h] at hcons
    exact absurd hcons (List.cons_ne_nil _ _).symm

/-- A walk goes on with the unit that stands first. -/
theorem run_of_frontier_cons {w : Walk} {u : UnitHandle} {rest : List UnitHandle}
    (h : w.frontier = u :: rest) :
    run r files w = run r files (step r files { w with frontier := rest } u) := by
  rw [run]
  split
  · rename_i hnil
    rw [h] at hnil
    exact absurd hnil (List.cons_ne_nil _ _)
  · rename_i u' rest' hcons
    rw [h] at hcons
    obtain ⟨rfl, rfl⟩ := List.cons_eq_cons.1 hcons
    rfl

end UnitFoundry.Walk
