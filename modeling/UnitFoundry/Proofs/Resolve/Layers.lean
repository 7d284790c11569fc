import UnitFoundry.Proofs.Resolve.Baseline
import UnitFoundry.Proofs.Resolve.Walk

/-! # The layers of a walk

A walk takes names from the frontier in the order of their layers: the layer of a name is the
length of a chain that leads to it, and the names on the frontier lie in at most two layers that
follow each other. `Walk.Layered` says this of a walk under way, beside what it says about the set
of references; it is kept by each visit (`Walk.Layered.step`), and so it holds at the end of the
walk (`Walk.Layered.run`). -/

namespace UnitFoundry.Walk

variable {r : Resolver} {files : Files} {start : UnitHandle}

/-- A walk under way that has visited the names in `done` and still has to visit those in `queue`,
each with its layer. -/
structure Layered (r : Resolver) (files : Files) (start : UnitHandle) (w : Walk)
    (done queue : List (String × Nat)) : Prop where
  /-- The frontier holds the units of the names in the queue. -/
  frontier : w.frontier = queue.map fun q => r.handleFrom start q.1
  /-- The set of references is coherent. -/
  coherent : w.references.Coherent
  /-- No name is visited twice. -/
  nodup : ((done ++ queue).map Prod.fst).Nodup
  /-- Besides these names, those of the baseline count as visited. -/
  visited : ∀ n, w.visited.contains n = true ↔
    n ∈ r.config.baseline ∨ ∃ k, (n, k) ∈ done ++ queue
  /-- The layers come in order. -/
  sorted : (done ++ queue).Pairwise fun q q' => q.2 ≤ q'.2
  /-- The layers in the queue are at most two that follow each other. -/
  near : ∀ q ∈ queue, ∀ q' ∈ queue, q'.2 ≤ q.2 + 1
  /-- The starting unit is the first layer. -/
  start_mem : (start.name, 0) ∈ done ++ queue
  /-- A chain leads to each name, as long as its layer says. -/
  chain : ∀ q ∈ done ++ queue, r.Chain files start w.references.entries q.2 q.1
  /-- The entries are the baseline, and then files of visited names in the order of the visits. -/
  entries : ∃ fs, w.references.entries = r.baseline.entries ++ fs ∧
    (fs.map (·.name)).Sublist (done.map Prod.fst) ∧
    ∀ e ∈ fs, ∃ path, r.locate? files (r.handleFrom start e.name) = some path ∧
      e = Reference.ofFile files e.name path
  /-- What the file of a visited name references lies at most one layer further. -/
  closed : ∀ q ∈ done, Resolver.IsFileEntry w.references.entries q.1 →
    ∀ n ∈ r.referencesOf files (r.handleFrom start q.1),
      n ∈ r.config.baseline ∨ ∃ k, k ≤ q.2 + 1 ∧ (n, k) ∈ done ++ queue
  /-- Each visited name is settled. -/
  settled : ∀ q ∈ done, r.Settled files start w.references q.1
  /-- Only the starting unit can be named like the baseline. -/
  beyond : ∀ q ∈ done ++ queue, q.1 = start.name ∨ q.1 ∉ r.config.baseline
  /-- What is missed has been visited and cannot be located. -/
  missed : ∀ m ∈ w.references.misses,
    m.unit ∈ done.map Prod.fst ∧ r.locate? files (r.handleFrom start m.unit) = none

namespace Layered

variable {w w' : Walk} {done queue : List (String × Nat)} {n : String} {k : Nat}

/-- The files of a walk are those of visited names. -/
theorem mem_done_of_isFileEntry (h : Layered r files start w done queue)
    (hn : Resolver.IsFileEntry w.references.entries n) : n ∈ done.map Prod.fst := by
  obtain ⟨fs, hentries, hsub, -⟩ := h.entries
  obtain ⟨e, he, rfl, hhost⟩ := hn
  rw [hentries] at he
  rcases List.mem_append.1 he with he | he
  · obtain ⟨m, -, rfl⟩ := Resolver.mem_entries_baseline.1 he
    exact absurd hhost (by simp)
  · exact hsub.subset (List.mem_map_of_mem he)

/-- The name that is visited next has not been visited. -/
theorem not_mem_done_next (h : Layered r files start w done ((n, k) :: queue)) :
    n ∉ done.map Prod.fst := by
  intro hdone
  have hnodup := h.nodup
  rw [List.map_append, List.map_cons] at hnodup
  exact (List.nodup_append.1 hnodup).2.2 n hdone n List.mem_cons_self rfl

/-- The name that is visited next is not that of a file yet. -/
theorem not_isFileEntry_next (h : Layered r files start w done ((n, k) :: queue)) :
    ¬Resolver.IsFileEntry w.references.entries n :=
  fun hn => h.not_mem_done_next (h.mem_done_of_isFileEntry hn)

/-- Nothing lies more than one layer behind the name that is visited next. -/
theorem layer_le (h : Layered r files start w done ((n, k) :: queue)) :
    ∀ q ∈ done ++ (n, k) :: queue, q.2 ≤ k + 1 := by
  intro q hq
  have hsorted := (List.pairwise_append.1 h.sorted).2.2
  rcases List.mem_append.1 hq with hq | hq
  · exact Nat.le_succ_of_le (hsorted q hq (n, k) List.mem_cons_self)
  · exact h.near (n, k) List.mem_cons_self q hq

/-- No name in the queue lies in an earlier layer than the name that is visited next. -/
theorem le_layer (h : Layered r files start w done ((n, k) :: queue)) :
    ∀ q ∈ queue, k ≤ q.2 := by
  have hqueue := (List.pairwise_append.1 h.sorted).2.1
  exact (List.pairwise_cons.1 hqueue).1

/-- A visit that adds no file settles the name that it visits. -/
theorem skip (h : Layered r files start w done ((n, k) :: queue))
    (hfrontier : w'.frontier = queue.map fun q => r.handleFrom start q.1)
    (hvisited : w'.visited = w.visited) (hcoherent : w'.references.Coherent)
    (hentries : w'.references.entries = w.references.entries)
    (hgrows : w.references.Grows w'.references)
    (hsettled : r.Settled files start w'.references n)
    (hmissed : ∀ m ∈ w'.references.misses, m ∈ w.references.misses ∨
      m.unit = n ∧ r.locate? files (r.handleFrom start n) = none) :
    Layered r files start w' (done ++ [(n, k)]) queue := by
  -- the name only moves from the queue to those that are done
  have happend : (done ++ [(n, k)]) ++ queue = done ++ (n, k) :: queue := by
    rw [List.append_assoc, List.singleton_append]
  refine
    { frontier := hfrontier
      coherent := hcoherent
      nodup := by rw [happend]; exact h.nodup
      visited := by rw [happend, hvisited]; exact h.visited
      sorted := by rw [happend]; exact h.sorted
      near := fun q hq q' hq' =>
        h.near q (List.mem_cons_of_mem _ hq) q' (List.mem_cons_of_mem _ hq')
      start_mem := by rw [happend]; exact h.start_mem
      chain := by rw [happend, hentries]; exact h.chain
      entries := ?_
      closed := ?_
      settled := ?_
      beyond := by rw [happend]; exact h.beyond
      missed := fun m hm => ?_ }
  · obtain ⟨fs, hfs, hsub, hlocated⟩ := h.entries
    refine ⟨fs, hentries.trans hfs, ?_, hlocated⟩
    rw [List.map_append]
    exact hsub.trans (List.sublist_append_left _ _)
  · -- no file has been added, so only what was closed before counts
    intro q hq hfile
    rw [hentries] at hfile
    rw [happend]
    rcases List.mem_append.1 hq with hq | hq
    · exact h.closed q hq hfile
    · rw [List.mem_singleton.1 hq] at hfile
      exact absurd hfile h.not_isFileEntry_next
  · intro q hq
    rcases List.mem_append.1 hq with hq | hq
    · exact (h.settled q hq).mono hgrows
    · rw [List.mem_singleton.1 hq]
      exact hsettled
  · rw [List.map_append]
    obtain hm | ⟨rfl, hnone⟩ := hmissed m hm
    · obtain ⟨hmem, hnone⟩ := h.missed m hm
      exact ⟨List.mem_append_left _ hmem, hnone⟩
    · exact ⟨List.mem_append_right _ List.mem_cons_self, hnone⟩

/-! ## A visit that adds a file

The names that are put on the frontier are those in `fresh`, and their layer is the one after that
of the unit. -/

section Add

variable {s : ReferenceSet} {fresh : List String} {path : String}

theorem append_fresh (done queue : List (String × Nat)) (n : String) (k : Nat)
    (fresh : List String) :
    (done ++ [(n, k)]) ++ (queue ++ fresh.map fun m => (m, k + 1)) =
      (done ++ (n, k) :: queue) ++ fresh.map fun m => (m, k + 1) := by
  simp only [List.append_assoc, List.cons_append, List.nil_append]

variable (h : Layered r files start w done ((n, k) :: queue))
  (hq : Queues r (r.referencesOf files (r.handleFrom start n))
    { w with frontier := queue.map fun q => r.handleFrom start q.1, references := s } w' fresh)

include h hq

/-- The names that are put on the frontier have not been there. -/
theorem not_mem_of_mem_fresh {m : String} (hm : m ∈ fresh) :
    ¬(m ∈ r.config.baseline ∨ ∃ j, (m, j) ∈ done ++ (n, k) :: queue) := by
  rw [← h.visited m, (hq.fresh m hm).2]
  exact Bool.false_ne_true

theorem frontier_add :
    w'.frontier = (queue ++ fresh.map fun m => (m, k + 1)).map fun q => r.handleFrom start q.1 := by
  rw [hq.frontier, List.map_append, List.map_map]
  congr 1
  refine List.map_congr_left fun m hm => ?_
  -- the starting unit has been visited, so the new names mean no more than known units
  have hne : m ≠ start.name := by
    rintro rfl
    exact h.not_mem_of_mem_fresh hq hm (Or.inr ⟨0, h.start_mem⟩)
  exact (Resolver.handleFrom_of_ne hne).symm

theorem nodup_add :
    (((done ++ (n, k) :: queue) ++ fresh.map fun m => (m, k + 1)).map Prod.fst).Nodup := by
  have hmap : (fresh.map fun m => (m, k + 1)).map Prod.fst = fresh := by
    rw [List.map_map]
    exact List.map_id fresh
  rw [List.map_append, hmap]
  -- what is new has not been visited, so it is not among the old names
  refine List.Nodup.append h.nodup hq.nodup fun m hold hm => ?_
  obtain ⟨q, hmem, rfl⟩ := List.mem_map.1 hold
  exact h.not_mem_of_mem_fresh hq hm (Or.inr ⟨q.2, hmem⟩)

theorem visited_add (m : String) : w'.visited.contains m = true ↔ m ∈ r.config.baseline ∨
    ∃ j, (m, j) ∈ (done ++ (n, k) :: queue) ++ fresh.map fun m => (m, k + 1) := by
  rw [hq.visited m]
  show w.visited.contains m = true ∨ m ∈ fresh ↔ _
  rw [h.visited m]
  constructor
  · rintro ((hm | ⟨j, hm⟩) | hm)
    · exact Or.inl hm
    · exact Or.inr ⟨j, List.mem_append_left _ hm⟩
    · exact Or.inr ⟨k + 1, List.mem_append_right _ (List.mem_map.2 ⟨m, hm, rfl⟩)⟩
  · rintro (hm | ⟨j, hm⟩)
    · exact Or.inl (Or.inl hm)
    · rcases List.mem_append.1 hm with hm | hm
      · exact Or.inl (Or.inr ⟨j, hm⟩)
      · obtain ⟨m', hm', heq⟩ := List.mem_map.1 hm
        exact Or.inr ((Prod.mk.inj heq).1 ▸ hm')

/-- The names that are put on the frontier are not those of the baseline. -/
theorem beyond_add : ∀ q ∈ (done ++ (n, k) :: queue) ++ fresh.map fun m => (m, k + 1),
    q.1 = start.name ∨ q.1 ∉ r.config.baseline := by
  intro q hmem
  rcases List.mem_append.1 hmem with hmem | hmem
  · exact h.beyond q hmem
  · obtain ⟨m, hm, rfl⟩ := List.mem_map.1 hmem
    exact Or.inr fun hbase => h.not_mem_of_mem_fresh hq hm (Or.inl hbase)

/-- A chain leads to each new name through the file that has been added. -/
theorem chain_add (hgrows : w.references.Grows s) (hentry : Resolver.IsFileEntry s.entries n) :
    ∀ q ∈ (done ++ (n, k) :: queue) ++ fresh.map fun m => (m, k + 1),
      r.Chain files start s.entries q.2 q.1 := by
  intro q hmem
  rcases List.mem_append.1 hmem with hmem | hmem
  · exact (h.chain q hmem).mono fun e he => hgrows.mem he
  · obtain ⟨m, hm, rfl⟩ := List.mem_map.1 hmem
    have hchain := h.chain (n, k) (List.mem_append_right _ List.mem_cons_self)
    exact (hchain.mono fun e he => hgrows.mem he).next hentry (hq.fresh m hm).1

/-- What the files reference lies at most one layer further, and that of the new one does. -/
theorem closed_add
    (hentries : s.entries = w.references.entries ++ [Reference.ofFile files n path]) :
    ∀ q ∈ done ++ [(n, k)], Resolver.IsFileEntry s.entries q.1 →
      ∀ m ∈ r.referencesOf files (r.handleFrom start q.1), m ∈ r.config.baseline ∨
        ∃ j, j ≤ q.2 + 1 ∧
          (m, j) ∈ (done ++ (n, k) :: queue) ++ fresh.map fun m => (m, k + 1) := by
  intro q hmem hfile m hm
  rcases List.mem_append.1 hmem with hmem | hmem
  · -- the entry that is new has another name
    have hne : q.1 ≠ n := by
      intro heq
      have hdone : q.1 ∈ done.map Prod.fst := List.mem_map_of_mem hmem
      exact h.not_mem_done_next (heq ▸ hdone)
    have hold : Resolver.IsFileEntry w.references.entries q.1 := by
      obtain ⟨e, he, hen, hhost⟩ := hfile
      rw [hentries] at he
      rcases List.mem_append.1 he with he | he
      · exact ⟨e, he, hen, hhost⟩
      · rw [List.mem_singleton.1 he] at hen
        exact absurd hen.symm hne
    obtain hbase | ⟨j, hj, hmem⟩ := h.closed q hmem hold m hm
    · exact Or.inl hbase
    · exact Or.inr ⟨j, hj, List.mem_append_left _ hmem⟩
  · -- the names that the new file references are all visited by now, and none lies further
    rw [List.mem_singleton.1 hmem] at hm ⊢
    have hvisited := hq.all m hm
    rw [hq.visited m] at hvisited
    rcases hvisited with hvisited | hfresh
    · obtain hbase | ⟨j, hj⟩ := (h.visited m).1 hvisited
      · exact Or.inl hbase
      · exact Or.inr ⟨j, h.layer_le _ hj, List.mem_append_left _ hj⟩
    · exact Or.inr
        ⟨k + 1, Nat.le_refl _, List.mem_append_right _ (List.mem_map.2 ⟨m, hfresh, rfl⟩)⟩

omit hq

theorem sorted_add : ((done ++ (n, k) :: queue) ++ fresh.map fun m => (m, k + 1)).Pairwise
    fun q q' => q.2 ≤ q'.2 := by
  refine List.pairwise_append.2 ⟨h.sorted, ?_, ?_⟩
  · refine List.pairwise_map.2 (List.pairwise_of_forall fun _ _ => ?_)
    exact Nat.le_refl _
  · intro q hmem q' hmem'
    obtain ⟨m, -, rfl⟩ := List.mem_map.1 hmem'
    exact h.layer_le q hmem

theorem near_add : ∀ q ∈ queue ++ fresh.map fun m => (m, k + 1),
    ∀ q' ∈ queue ++ fresh.map fun m => (m, k + 1), q'.2 ≤ q.2 + 1 := by
  -- what waits lies in the layer of the name that is visited, or in the next one
  have hlow : ∀ q ∈ queue ++ fresh.map fun m => (m, k + 1), k ≤ q.2 := by
    intro q hmem
    rcases List.mem_append.1 hmem with hmem | hmem
    · exact h.le_layer q hmem
    · obtain ⟨m, -, rfl⟩ := List.mem_map.1 hmem
      exact Nat.le_succ k
  have hhigh : ∀ q ∈ queue ++ fresh.map fun m => (m, k + 1), q.2 ≤ k + 1 := by
    intro q hmem
    rcases List.mem_append.1 hmem with hmem | hmem
    · exact h.layer_le q (List.mem_append_right _ (List.mem_cons_of_mem _ hmem))
    · obtain ⟨m, -, rfl⟩ := List.mem_map.1 hmem
      exact Nat.le_refl _
  exact fun q hmem q' hmem' => (hhigh q' hmem').trans (Nat.succ_le_succ (hlow q hmem))

/-- The file that is added is that of the name that is visited. -/
theorem entries_add (hlocate : r.locate? files (r.handleFrom start n) = some path)
    (hentries : s.entries = w.references.entries ++ [Reference.ofFile files n path]) :
    ∃ fs, s.entries = r.baseline.entries ++ fs ∧
      (fs.map (·.name)).Sublist ((done ++ [(n, k)]).map Prod.fst) ∧
      ∀ e ∈ fs, ∃ path, r.locate? files (r.handleFrom start e.name) = some path ∧
        e = Reference.ofFile files e.name path := by
  obtain ⟨fs, hfs, hsub, hlocated⟩ := h.entries
  refine ⟨fs ++ [Reference.ofFile files n path], ?_, ?_, ?_⟩
  · rw [hentries, hfs, List.append_assoc]
  · rw [List.map_append, List.map_append]
    exact hsub.append (List.Sublist.refl [n])
  · intro e he
    rcases List.mem_append.1 he with he | he
    · exact hlocated e he
    · rw [List.mem_singleton.1 he]
      exact ⟨path, hlocate, rfl⟩

include hq

/-- **A visit that adds a file puts what the unit references into the next layer.** -/
theorem add (hlocate : r.locate? files (r.handleFrom start n) = some path)
    (hs : s = (w.references.insert (Reference.ofFile files n path)).1)
    (hentries : s.entries = w.references.entries ++ [Reference.ofFile files n path]) :
    Layered r files start w' (done ++ [(n, k)]) (queue ++ fresh.map fun m => (m, k + 1)) := by
  have hw' : w'.references = s := hq.references
  have hgrows : w.references.Grows s := hs ▸ ReferenceSet.Grows.insert _ _
  have hentry : Resolver.IsFileEntry s.entries n :=
    ⟨_, hentries ▸ List.mem_append_right _ List.mem_cons_self, rfl, Reference.isHost_ofFile _ _ _⟩
  have happend := append_fresh done queue n k fresh
  refine
    { frontier := h.frontier_add hq
      coherent := by rw [hw', hs]; exact h.coherent.insert _
      nodup := by rw [happend]; exact h.nodup_add hq
      visited := by rw [happend]; exact h.visited_add hq
      sorted := by rw [happend]; exact h.sorted_add
      near := h.near_add
      start_mem := by rw [happend]; exact List.mem_append_left _ h.start_mem
      chain := by rw [happend, hw']; exact h.chain_add hq hgrows hentry
      entries := by rw [hw']; exact h.entries_add hlocate hentries
      closed := by rw [happend, hw']; exact h.closed_add hq hentries
      settled := fun q hmem => ?_
      beyond := by rw [happend]; exact h.beyond_add hq
      missed := fun m hm => ?_ }
  · rw [hw']
    rcases List.mem_append.1 hmem with hmem | hmem
    · exact (h.settled q hmem).mono hgrows
    · rw [List.mem_singleton.1 hmem]
      obtain ⟨e, he, hen, -⟩ := hentry
      exact Or.inl (ReferenceSet.isSome_get?_iff.2 ⟨e, he, hen⟩)
  · rw [hw', hs, ReferenceSet.misses_insert] at hm
    rw [List.map_append]
    exact ⟨List.mem_append_left _ (h.missed m hm).1, (h.missed m hm).2⟩

end Add

/-! ## Visits one after another -/

/-- **Each visit keeps the layers.** -/
theorem step (h : Layered r files start w done ((n, k) :: queue)) :
    ∃ new, Layered r files start
      (Walk.step r files
        { w with frontier := queue.map fun q => r.handleFrom start q.1 } (r.handleFrom start n))
      (done ++ [(n, k)]) (queue ++ new) := by
  have hcases := Walk.step_cases r files
    { w with frontier := queue.map fun q => r.handleFrom start q.1 } (r.handleFrom start n)
  rw [Resolver.name_handleFrom] at hcases
  obtain ⟨hlocate, hrefs, hfrontier, hvisited⟩ |
    ⟨path, hlocate, hpresent, hrefs, hfrontier, hvisited⟩ |
    ⟨path, s, fresh, hlocate, -, hs, hentries, hq⟩ := hcases
  · -- the unit cannot be located, and its miss settles it
    refine ⟨[], ?_⟩
    rw [List.append_nil]
    have hgrows := ReferenceSet.Grows.recordMiss w.references ⟨n, missReason⟩
    refine h.skip hfrontier hvisited ?_ ?_ (hrefs ▸ hgrows) ?_ ?_
    · rw [hrefs]
      exact h.coherent.recordMiss _
    · rw [hrefs]
      exact ReferenceSet.entries_recordMiss _ _
    · rw [hrefs]
      obtain ⟨m, hm, hmn⟩ :=
        ReferenceSet.exists_mem_misses_recordMiss w.references ⟨n, missReason⟩
      exact Or.inr (Or.inl ⟨hlocate, m, hm, hmn⟩)
    · rw [hrefs]
      intro m hm
      obtain hm | rfl := ReferenceSet.mem_misses_of_mem_recordMiss hm
      · exact Or.inl hm
      · exact Or.inr ⟨rfl, hlocate⟩
  · -- the set stays, since the file or the name is there
    refine ⟨[], ?_⟩
    rw [List.append_nil]
    refine h.skip hfrontier hvisited ?_ ?_ ?_ ?_ ?_
    · rw [hrefs]
      exact h.coherent
    · rw [hrefs]
    · rw [hrefs]
      exact ReferenceSet.Grows.refl _
    · rw [hrefs]
      rcases hpresent with hidentity | hname
      · obtain ⟨e, he, hid⟩ := (h.coherent.containsIdentity_iff _).1 hidentity
        exact Or.inr (Or.inr ⟨path, hlocate, e, he, hid⟩)
      · exact Or.inl hname
    · rw [hrefs]
      exact fun m hm => Or.inl hm
  · -- a file is added, and what it references waits in the next layer
    exact ⟨fresh.map fun m => (m, k + 1), h.add hq hlocate hs hentries⟩

/-- **The layers are there at the end of the walk.** -/
theorem run (h : Layered r files start w done queue) :
    ∃ done', Layered r files start (Walk.run r files w) done' [] := by
  induction w using Walk.run.induct r files generalizing done queue with
  | case1 w hempty =>
      -- with the frontier, the queue is empty
      have hqueue : queue = [] := by
        have hmap := h.frontier
        rw [hempty] at hmap
        exact List.map_eq_nil_iff.1 hmap.symm
      subst hqueue
      rw [Walk.run_of_frontier_nil hempty]
      exact ⟨done, h⟩
  | case2 w u rest hcons ih =>
      have hmap := h.frontier
      rw [hcons] at hmap
      cases queue with
      | nil => exact absurd hmap (List.cons_ne_nil _ _)
      | cons q queue =>
          obtain ⟨n, k⟩ := q
          obtain ⟨rfl, rfl⟩ := List.cons_eq_cons.1 hmap
          obtain ⟨new, hstep⟩ := h.step
          rw [Walk.run_of_frontier_cons hcons]
          exact ih hstep

end Layered

end UnitFoundry.Walk
