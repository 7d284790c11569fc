import UnitFoundry.Proofs.Resolve.Layers
import UnitFoundry.Proofs.Wasm.Opening

/-! # Resolving is a breadth-first closure

What a walk leaves behind when its frontier is empty: the files to which chains lead, nearer ones
first, and nothing that they reference is left unsettled.

* **`Resolver.layered_of_resolve`**: a unit that resolves gives the references of a walk that has
  come to its end in layers.
* **`Walk.Layered.distance_eq`**: the layer of a file is the length of the shortest chain to it.
* **`Resolver.resolve_breadthFirst`**: the whole of what a resolved set says. -/

namespace UnitFoundry

namespace Walk.Layered

variable {r : Resolver} {files : Files} {start : UnitHandle} {w : Walk}
  {done queue : List (String × Nat)} {n : String} {k : Nat}

/-- A walk that is about to start has its starting unit in the first layer. -/
theorem walkFrom (r : Resolver) (files : Files) (start : UnitHandle) (inspected : List String) :
    Layered r files start (r.walkFrom start inspected) [] [(start.name, 0)] where
  frontier := by rw [List.map_singleton, Resolver.handleFrom_name]; rfl
  coherent := r.coherent_baseline
  nodup := List.nodup_singleton _
  visited n := by
    show ((Std.HashSet.ofList r.config.baseline).insert start.name).contains n = true ↔ _
    rw [Std.HashSet.contains_insert, Std.HashSet.contains_ofList, Bool.or_eq_true, beq_iff_eq,
      List.contains_iff_mem]
    simp [or_comm, eq_comm]
  sorted := List.pairwise_singleton _ _
  near q hq q' hq' := by
    rw [List.mem_singleton.1 hq, List.mem_singleton.1 hq']
    exact Nat.le_succ 0
  start_mem := List.mem_cons_self
  chain q hq := by
    rw [List.mem_singleton.1 hq]
    exact .start
  entries := ⟨[], (List.append_nil _).symm, List.Sublist.refl _, fun e he =>
    absurd he List.not_mem_nil⟩
  closed q hq := absurd hq List.not_mem_nil
  settled q hq := absurd hq List.not_mem_nil
  beyond q hq := by
    rw [List.mem_singleton.1 hq]
    exact Or.inl rfl
  missed m hm := by
    rw [Resolver.walkFrom, Resolver.misses_baseline] at hm
    exact absurd hm List.not_mem_nil

/-- The files of a walk are not named like the baseline. -/
theorem not_mem_baseline (h : Layered r files start w done queue)
    (hn : Resolver.IsFileEntry w.references.entries n) : n ∉ r.config.baseline := by
  intro hbase
  obtain ⟨e, he, rfl, hhost⟩ := hn
  obtain ⟨fs, hentries, -⟩ := h.entries
  have hmem : Reference.ofHost e.name ∈ w.references.entries := by
    rw [hentries]
    exact List.mem_append_left _ (Resolver.mem_entries_baseline.2 ⟨e.name, hbase, rfl⟩)
  have heq : Reference.ofHost e.name = e :=
    List.inj_on_of_nodup_map h.coherent.nodup_names hmem he rfl
  rw [← heq] at hhost
  exact Bool.noConfusion hhost

/-- At the end of a walk, a name to which a chain leads has been visited in a layer no further than
the chain is long. -/
theorem exists_layer_le (h : Layered r files start w done [])
    (hchain : r.Chain files start w.references.entries k n) :
    n ∈ r.config.baseline ∨ ∃ j, j ≤ k ∧ (n, j) ∈ done := by
  have hall : done ++ [] = done := List.append_nil done
  -- each unit on the chain is a file, and what files reference is closed off by the layers
  induction hchain with
  | start => exact Or.inr ⟨0, Nat.le_refl 0, hall ▸ h.start_mem⟩
  | next _ hentry hmem ih =>
      obtain hbase | ⟨j, hj, hdone⟩ := ih
      · exact absurd hbase (h.not_mem_baseline hentry)
      · obtain hbase | ⟨i, hi, hdone⟩ := h.closed _ hdone hentry _ hmem
        · exact Or.inl hbase
        · exact Or.inr ⟨i, hi.trans (Nat.succ_le_succ hj), hall ▸ hdone⟩

/-- **The layer of a file is the length of the shortest chain to it.** -/
theorem distance_eq (h : Layered r files start w done [])
    (hn : Resolver.IsFileEntry w.references.entries n) (hk : (n, k) ∈ done) :
    r.distance files start w.references.entries n = k := by
  have hall : done ++ [] = done := List.append_nil done
  have hchain : r.Chain files start w.references.entries k n :=
    h.chain (n, k) (hall.symm ▸ hk)
  refine le_antisymm (Nat.sInf_le hchain) (le_csInf ⟨k, hchain⟩ fun j hj => ?_)
  -- a name is visited only once, so the layer below the other chain is the same
  obtain hbase | ⟨i, hi, hdone⟩ := h.exists_layer_le hj
  · exact absurd hbase (h.not_mem_baseline hn)
  · have hnodup := h.nodup
    rw [hall] at hnodup
    have heq : (n, i) = (n, k) := List.inj_on_of_nodup_map hnodup hdone hk rfl
    rw [← (Prod.mk.inj heq).2]
    exact hi

/-- The files of a walk that has come to its end stand in the order of their distances. -/
theorem pairwise_distance (h : Layered r files start w done []) {fs : List Reference}
    (hfs : ∀ e ∈ fs, Resolver.IsFileEntry w.references.entries e.name)
    (hsub : (fs.map (·.name)).Sublist (done.map Prod.fst)) :
    fs.Pairwise fun e e' => r.distance files start w.references.entries e.name ≤
      r.distance files start w.references.entries e'.name := by
  have hsorted := h.sorted
  rw [List.append_nil] at hsorted
  -- the files of visited names, taken from the visits themselves
  obtain ⟨qs, hqs, hnames⟩ := List.sublist_map_iff.1 hsub
  have hpairs : qs.Pairwise fun q q' => q.1 ∈ fs.map (·.name) → q'.1 ∈ fs.map (·.name) →
      r.distance files start w.references.entries q.1 ≤
        r.distance files start w.references.entries q'.1 := by
    refine (List.Pairwise.sublist hqs hsorted).imp_of_mem fun {q q'} hq hq' hle hfq hfq' => ?_
    obtain ⟨e, he, hen⟩ := List.mem_map.1 hfq
    obtain ⟨e', he', hen'⟩ := List.mem_map.1 hfq'
    rw [h.distance_eq (hen ▸ hfs e he) (hqs.subset hq),
      h.distance_eq (hen' ▸ hfs e' he') (hqs.subset hq')]
    exact hle
  have hmap : (qs.map Prod.fst).Pairwise fun m m' => m ∈ fs.map (·.name) →
      m' ∈ fs.map (·.name) → r.distance files start w.references.entries m ≤
        r.distance files start w.references.entries m' :=
    List.pairwise_map.2 hpairs
  rw [← hnames, List.pairwise_map] at hmap
  exact hmap.imp_of_mem fun he he' hle =>
    hle (List.mem_map_of_mem he) (List.mem_map_of_mem he')

end Walk.Layered

namespace Resolver

variable {r : Resolver} {files : Files} {start u : UnitHandle} {set : ReferenceSet}
  {inspected : List String}

/-! ## The starting unit -/

/-- A starting unit that can be used keeps its name and its place, and it references what it
did. -/
theorem inspectStart_eq_ok (h : r.inspectStart files start = (.ok u, inspected)) :
    u.name = start.name ∧ r.locate? files u = r.locate? files start ∧
      r.referencesOf files u = r.referencesOf files start := by
  rw [inspectStart] at h
  split at h
  · exact absurd (Prod.mk.inj h).1 (by simp)
  · split at h
    · obtain rfl := Except.ok.inj (Prod.mk.inj h).1
      exact ⟨rfl, rfl, rfl⟩
    · rename_i path hpath
      split at h
      · exact absurd (Prod.mk.inj h).1 (by simp)
      · rename_i hfile
        have hfile : files.isFile path = true := by simpa using hfile
        split at h
        · obtain rfl := Except.ok.inj (Prod.mk.inj h).1
          exact ⟨rfl, rfl, rfl⟩
        · rename_i hnone
          split at h
          · rename_i names hnames
            obtain rfl := Except.ok.inj (Prod.mk.inj h).1
            refine ⟨rfl, rfl, ?_⟩
            have hloc : r.locate? files start = some path := by
              rw [locate?, hpath]
              exact if_pos hfile
            rw [referencesOf, referencesOf, hnone]
            simp only [hloc, hnames, UnitHandle.withReferences]
            rfl
          · exact absurd (Prod.mk.inj h).1 (by simp)

theorem handleFrom_congr (h : r.inspectStart files start = (.ok u, inspected)) (n : String) :
    r.locate? files (r.handleFrom u n) = r.locate? files (r.handleFrom start n) ∧
      r.referencesOf files (r.handleFrom u n) = r.referencesOf files (r.handleFrom start n) := by
  obtain ⟨hname, hloc, href⟩ := inspectStart_eq_ok h
  by_cases hn : n = start.name
  · rw [hn, handleFrom_name, ← hname, handleFrom_name]
    exact ⟨hloc, href⟩
  · rw [handleFrom_of_ne hn, handleFrom_of_ne (hname ▸ hn)]
    exact ⟨rfl, rfl⟩

/-- A starting unit that can be used is resolved. -/
theorem exists_resolve_eq_ok (h : (r.inspectStart files start).1.toOption.isSome = true) :
    ∃ set, (r.resolve files start).result = .ok set := by
  rw [resolve]
  cases hs : r.inspectStart files start with
  | mk result inspected =>
      rw [hs] at h
      cases result with
      | error e => exact absurd h Bool.false_ne_true
      | ok u => exact ⟨_, rfl⟩

theorem exists_of_resolve_eq_ok (h : (r.resolve files start).result = .ok set) :
    ∃ u inspected, r.inspectStart files start = (.ok u, inspected) ∧
      set = (Walk.run r files (r.walkFrom u inspected)).references := by
  rw [resolve] at h
  cases hs : r.inspectStart files start with
  | mk result inspected =>
      rw [hs] at h
      cases result with
      | error e => exact absurd h (by simp)
      | ok u => exact ⟨u, inspected, rfl, (Except.ok.inj h).symm⟩

/-- **A unit that resolves gives the references of a walk that has come to its end in layers.** -/
theorem layered_of_resolve (h : (r.resolve files start).result = .ok set) :
    ∃ u inspected w done, r.inspectStart files start = (.ok u, inspected) ∧
      w.references = set ∧ Walk.Layered r files u w done [] := by
  obtain ⟨u, inspected, hs, rfl⟩ := exists_of_resolve_eq_ok h
  obtain ⟨done, hdone⟩ := (Walk.Layered.walkFrom r files u inspected).run
  exact ⟨u, inspected, _, done, hs, rfl, hdone⟩

theorem coherent_of_resolve (h : (r.resolve files start).result = .ok set) : set.Coherent := by
  obtain ⟨u, inspected, w, done, -, rfl, hw⟩ := layered_of_resolve h
  exact hw.coherent

/-! ## What a resolved set holds -/

/-- **The entries of a resolved set** are the baseline, and then files to which chains lead, nearer
ones first. -/
theorem exists_entries_of_resolve (h : (r.resolve files start).result = .ok set) :
    ∃ fs, set.entries = r.baseline.entries ++ fs ∧
      (∀ e ∈ fs, (∃ k, r.Chain files start set.entries k e.name) ∧
        ∃ path, r.locate? files (r.handleFrom start e.name) = some path ∧
          e = Reference.ofFile files e.name path) ∧
      fs.Pairwise fun e e' => r.distance files start set.entries e.name ≤
        r.distance files start set.entries e'.name := by
  obtain ⟨u, inspected, w, done, hs, rfl, hw⟩ := layered_of_resolve h
  obtain ⟨hname, -, href⟩ := inspectStart_eq_ok hs
  have hchain : ∀ k n, r.Chain files u w.references.entries k n ↔
      r.Chain files start w.references.entries k n := fun k n =>
    ⟨Chain.congr hname.symm href.symm, Chain.congr hname href⟩
  -- chains only depend on what the starting unit is called and references
  have hdistance : ∀ n, r.distance files u w.references.entries n =
      r.distance files start w.references.entries n := by
    intro n
    simp only [distance, hchain]
  obtain ⟨fs, hentries, hsub, hlocated⟩ := hw.entries
  have hfile : ∀ e ∈ fs, IsFileEntry w.references.entries e.name := by
    intro e he
    obtain ⟨path, -, hof⟩ := hlocated e he
    exact ⟨e, hentries ▸ List.mem_append_right _ he, rfl, by rw [hof, Reference.isHost_ofFile]⟩
  refine ⟨fs, hentries, fun e he => ⟨?_, ?_⟩, ?_⟩
  · obtain ⟨q, hq, hqe⟩ := List.mem_map.1 (hsub.subset (List.mem_map_of_mem he))
    refine ⟨q.2, (hchain _ _).1 ?_⟩
    rw [← hqe]
    exact hw.chain q (List.mem_append_left _ hq)
  · obtain ⟨path, hloc, hof⟩ := hlocated e he
    exact ⟨path, (handleFrom_congr hs e.name).1 ▸ hloc, hof⟩
  · have hpairwise := hw.pairwise_distance hfile hsub
    simpa only [hdistance] using hpairwise

/-- A resolved set has grown from the baseline. -/
theorem baseline_grows (h : (r.resolve files start).result = .ok set) :
    r.baseline.Grows set := by
  obtain ⟨fs, hentries, -⟩ := exists_entries_of_resolve h
  refine ⟨⟨fs, hentries.symm⟩, ?_⟩
  rw [misses_baseline]
  exact List.nil_prefix

/-- A chain leads to a file of a resolved set, and it has been located under its name. -/
theorem exists_chain_and_locate?_of_resolve (h : (r.resolve files start).result = .ok set)
    {e : Reference} (he : e ∈ set.entries) (hfile : e.isHost = false) :
    (∃ k, r.Chain files start set.entries k e.name) ∧
      ∃ path, r.locate? files (r.handleFrom start e.name) = some path ∧
        e = Reference.ofFile files e.name path := by
  obtain ⟨fs, hentries, hfs, -⟩ := exists_entries_of_resolve h
  rw [hentries] at he
  rcases List.mem_append.1 he with he | he
  · obtain ⟨n, -, rfl⟩ := mem_entries_baseline.1 he
    exact absurd hfile (by simp)
  · exact hfs e he

theorem exists_chain_of_resolve (h : (r.resolve files start).result = .ok set)
    {e : Reference} (he : e ∈ set.entries) (hfile : e.isHost = false) :
    ∃ k, r.Chain files start set.entries k e.name :=
  (exists_chain_and_locate?_of_resolve h he hfile).1

theorem exists_locate?_of_resolve (h : (r.resolve files start).result = .ok set)
    {e : Reference} (he : e ∈ set.entries) (hfile : e.isHost = false) :
    ∃ path, r.locate? files (r.handleFrom start e.name) = some path ∧
      e = Reference.ofFile files e.name path :=
  (exists_chain_and_locate?_of_resolve h he hfile).2

/-- A module of the host in a resolved set belongs to the baseline. -/
theorem mem_baseline_of_resolve (h : (r.resolve files start).result = .ok set)
    {e : Reference} (he : e ∈ set.entries) (hhost : e.isHost = true) :
    ∃ n ∈ r.config.baseline, Reference.ofHost n = e := by
  obtain ⟨fs, hentries, hfs, -⟩ := exists_entries_of_resolve h
  rw [hentries] at he
  rcases List.mem_append.1 he with he | he
  · exact mem_entries_baseline.1 he
  · obtain ⟨-, path, -, hof⟩ := hfs e he
    rw [hof, Reference.isHost_ofFile] at hhost
    exact absurd hhost Bool.false_ne_true

/-- A file of a resolved set is not named like the baseline. -/
theorem not_mem_baseline_of_resolve (h : (r.resolve files start).result = .ok set)
    {e : Reference} (he : e ∈ set.entries) (hfile : e.isHost = false) :
    e.name ∉ r.config.baseline := by
  obtain ⟨u, inspected, w, done, -, rfl, hw⟩ := layered_of_resolve h
  exact hw.not_mem_baseline ⟨e, he, rfl, hfile⟩

/-- An entry with the identity of a file that is located is a file. -/
theorem isHost_eq_false_of_identity (h : (r.resolve files start).result = .ok set)
    {e : Reference} (he : e ∈ set.entries) {n path : String} (hloc : r.locate? files u = some path)
    (hid : e.identity = (Reference.ofFile files n path).identity) : e.isHost = false := by
  rw [Bool.eq_false_iff]
  intro hhost
  obtain ⟨host, -, rfl⟩ := mem_baseline_of_resolve h he hhost
  exact identity_ofFile_ne_ofHost hloc hid.symm

theorem settled_congr (hs : r.inspectStart files start = (.ok u, inspected)) {n : String}
    (h : r.Settled files u set n) : r.Settled files start set n := by
  rw [Settled, (handleFrom_congr hs n).1] at h
  exact h

/-- **The starting unit is settled.** -/
theorem settled_start_of_resolve (h : (r.resolve files start).result = .ok set) :
    r.Settled files start set start.name := by
  obtain ⟨u, inspected, w, done, hs, rfl, hw⟩ := layered_of_resolve h
  have hstart := hw.start_mem
  rw [List.append_nil] at hstart
  have hsettled := hw.settled _ hstart
  rw [(inspectStart_eq_ok hs).1] at hsettled
  exact settled_congr hs hsettled

/-- An entry that is not named like the baseline is a file. -/
theorem isHost_eq_false_of_not_mem_baseline (h : (r.resolve files start).result = .ok set)
    {e : Reference} (he : e ∈ set.entries) (hbase : e.name ∉ r.config.baseline) :
    e.isHost = false := by
  rw [Bool.eq_false_iff]
  intro hhost
  obtain ⟨host, hmem, rfl⟩ := mem_baseline_of_resolve h he hhost
  exact hbase hmem

/-- A name that is bound to a file is bound to the file that is located for it. -/
theorem eq_ofFile_of_resolve (h : (r.resolve files start).result = .ok set) {e : Reference}
    (he : e ∈ set.entries) (hbase : e.name ∉ r.config.baseline) {path : String}
    (hloc : r.locate? files (r.handleFrom start e.name) = some path) :
    e = Reference.ofFile files e.name path := by
  have hfile := isHost_eq_false_of_not_mem_baseline h he hbase
  obtain ⟨path', hloc', hof⟩ := exists_locate?_of_resolve h he hfile
  rw [hloc] at hloc'
  obtain rfl := Option.some.inj hloc'
  exact hof

/-- A name that is settled has its file in the set, if it can be located and is not named like the
baseline. -/
theorem exists_identity_of_settled (h : (r.resolve files start).result = .ok set) {n path : String}
    (hn : r.Settled files start set n) (hbase : n ∉ r.config.baseline)
    (hloc : r.locate? files (r.handleFrom start n) = some path) :
    ∃ e ∈ set.entries, e.identity = (Reference.ofFile files n path).identity := by
  obtain hbound | ⟨hnone, -⟩ | ⟨path', hloc', e, he, hid⟩ := hn
  · obtain ⟨e, he, rfl⟩ := ReferenceSet.isSome_get?_iff.1 hbound
    exact ⟨e, he, congrArg (·.identity) (eq_ofFile_of_resolve h he hbase hloc)⟩
  · rw [hloc] at hnone
    exact absurd hnone (by simp)
  · obtain rfl := Option.some.inj (hloc.symm.trans hloc')
    exact ⟨e, he, hid⟩

/-- A name that is settled is missed, if it cannot be located and is not named like the baseline. -/
theorem exists_miss_of_settled (h : (r.resolve files start).result = .ok set) {n : String}
    (hn : r.Settled files start set n) (hbase : n ∉ r.config.baseline)
    (hnone : r.locate? files (r.handleFrom start n) = none) : ∃ m ∈ set.misses, m.unit = n := by
  obtain hbound | ⟨-, hmissed⟩ | ⟨path, hloc, -⟩ := hn
  · obtain ⟨e, he, rfl⟩ := ReferenceSet.isSome_get?_iff.1 hbound
    obtain ⟨path, hloc, -⟩ :=
      exists_locate?_of_resolve h he (isHost_eq_false_of_not_mem_baseline h he hbase)
    rw [hnone] at hloc
    exact absurd hloc (by simp)
  · exact hmissed
  · rw [hnone] at hloc
    exact absurd hloc (by simp)

/-- **The starting unit is in the set** if it can be located and its name is not in the baseline. -/
theorem mem_entries_start (h : (r.resolve files start).result = .ok set)
    (hbase : start.name ∉ r.config.baseline) {path : String}
    (hloc : r.locate? files start = some path) :
    Reference.ofFile files start.name path ∈ set.entries := by
  have hloc' : r.locate? files (r.handleFrom start start.name) = some path := by
    rw [handleFrom_name, hloc]
  have hnamed : ∀ e ∈ set.entries, e.name = start.name →
      Reference.ofFile files start.name path ∈ set.entries := by
    intro e he hname
    have heq := eq_ofFile_of_resolve h he (hname ▸ hbase) (hname ▸ hloc')
    rw [hname] at heq
    exact heq ▸ he
  obtain ⟨e, he, hid⟩ := exists_identity_of_settled h (settled_start_of_resolve h) hbase hloc'
  by_cases hname : e.name = start.name
  · exact hnamed e he hname
  · -- the other name has been met on a chain through the starting unit
    obtain ⟨k, hchain⟩ :=
      exists_chain_of_resolve h he (isHost_eq_false_of_identity h he hloc' hid)
    obtain ⟨e', he', hname', -⟩ := hchain.isFileEntry_start hname
    exact hnamed e' he' hname'

/-- What a resolved set misses cannot be located. -/
theorem locate?_of_miss (h : (r.resolve files start).result = .ok set) {m : Miss}
    (hm : m ∈ set.misses) : r.locate? files (r.handleFrom start m.unit) = none := by
  obtain ⟨u, inspected, w, done, hs, rfl, hw⟩ := layered_of_resolve h
  rw [← (handleFrom_congr hs m.unit).1]
  exact (hw.missed m hm).2

/-- What a resolved set misses is the starting unit, or a file of the set references it. -/
theorem referenced_of_miss (h : (r.resolve files start).result = .ok set) {m : Miss}
    (hm : m ∈ set.misses) : m.unit = start.name ∨ m.unit ∉ r.config.baseline ∧
      ∃ e ∈ set.entries, e.isHost = false ∧
        m.unit ∈ r.referencesOf files (r.handleFrom start e.name) := by
  obtain ⟨u, inspected, w, done, hs, rfl, hw⟩ := layered_of_resolve h
  obtain ⟨q, hq, hunit⟩ := List.mem_map.1 (hw.missed m hm).1
  have hname := (inspectStart_eq_ok hs).1
  obtain hstart | hbeyond := hw.beyond q (List.mem_append_left _ hq)
  · exact Or.inl (hunit.symm.trans (hstart.trans hname))
  · rw [hunit] at hbeyond
    have hchain := hw.chain q (List.mem_append_left _ hq)
    rw [hunit] at hchain
    obtain hstart | ⟨_, ⟨e, he, rfl, hfile⟩, hmem⟩ := hchain.eq_start_or_referenced
    · exact Or.inl (hstart.trans hname)
    · rw [(handleFrom_congr hs e.name).2] at hmem
      exact Or.inr ⟨hbeyond, e, he, hfile, hmem⟩

/-- **Of two names for a file only one is bound**, and the other one is not on record as missing
either. -/
theorem unbound_of_sameFile (h : (r.resolve files start).result = .ok set) {e : Reference}
    (he : e ∈ set.entries) {n path : String} (hbase : n ∉ r.config.baseline) (hne : e.name ≠ n)
    (hloc : r.locate? files (r.handleFrom start n) = some path)
    (hid : e.identity = (Reference.ofFile files n path).identity) :
    set.get? n = none ∧ ∀ m ∈ set.misses, m.unit ≠ n := by
  constructor
  · rw [ReferenceSet.get?_eq_none_iff]
    rintro e' he' rfl
    -- an entry of that name would be the same file, so the same entry
    have heq := eq_ofFile_of_resolve h he' hbase hloc
    have hsame : e.identity = e'.identity := hid.trans (congrArg (·.identity) heq).symm
    have hids := (coherent_of_resolve h).nodup_identities
    exact hne (congrArg (·.name) (List.inj_on_of_nodup_map hids he he' hsame))
  · rintro m hm rfl
    rw [locate?_of_miss h hm] at hloc
    exact absurd hloc (by simp)

/-- **Whatever a file of a resolved set references is settled.** -/
theorem settled_of_resolve (h : (r.resolve files start).result = .ok set) {e : Reference}
    (he : e ∈ set.entries) (hfile : e.isHost = false) {n : String}
    (hn : n ∈ r.referencesOf files (r.handleFrom start e.name)) :
    r.Settled files start set n := by
  obtain ⟨u, inspected, w, done, hs, rfl, hw⟩ := layered_of_resolve h
  have hentry : IsFileEntry w.references.entries e.name := ⟨e, he, rfl, hfile⟩
  obtain ⟨q, hq, hqe⟩ := List.mem_map.1 (hw.mem_done_of_isFileEntry hentry)
  rw [← (handleFrom_congr hs e.name).2, ← hqe] at hn
  -- the name belongs to the baseline, or it has been visited
  obtain hbase | ⟨k, -, hk⟩ := hw.closed q hq (hqe ▸ hentry) n hn
  · obtain ⟨fs, hentries, -⟩ := hw.entries
    refine Or.inl (ReferenceSet.isSome_get?_iff.2 ⟨Reference.ofHost n, ?_, rfl⟩)
    rw [hentries]
    exact List.mem_append_left _ (mem_entries_baseline.2 ⟨n, hbase, rfl⟩)
  · rw [List.append_nil] at hk
    exact settled_congr hs (hw.settled _ hk)

/-- A file that imports from a name, and a link of that name to the file. -/
def aliasFiles : Files :=
  { nodes := [(["app.wasm"], .file (Wasm.Module.importing "twin" "f").encode),
      (["twin.wasm"], .link "app.wasm")] }

/-- The resolver that finds the link. -/
def aliasResolver : Resolver :=
  { config := { hintPaths := ["/twin.wasm"] }, inspector := .wasm }

theorem exists_resolve_alias :
    ∃ set, (aliasResolver.resolve aliasFiles (.atPath "/app.wasm")).result = .ok set :=
  exists_resolve_eq_ok (by decide +kernel)

/-- The file is in the set, and the other name for it is neither bound nor missed. -/
theorem entries_alias
    (h : (aliasResolver.resolve aliasFiles (.atPath "/app.wasm")).result = .ok set) :
    ⟨"app", "/app.wasm", .file "/app.wasm"⟩ ∈ set.entries ∧ set.get? "twin" = none ∧
      ∀ m ∈ set.misses, m.unit ≠ "twin" := by
  have hstart : aliasResolver.locate? aliasFiles (.atPath "/app.wasm") = some "/app.wasm" := by
    decide +kernel
  have htwin : aliasResolver.locate? aliasFiles
      (aliasResolver.handleFrom (.atPath "/app.wasm") "twin") = some "/twin.wasm" := by
    decide +kernel
  have happ := mem_entries_start h (by decide +kernel) hstart
  have hof : Reference.ofFile aliasFiles (UnitHandle.atPath "/app.wasm").name "/app.wasm" =
      ⟨"app", "/app.wasm", .file "/app.wasm"⟩ := by
    decide +kernel
  rw [hof] at happ
  exact ⟨happ, unbound_of_sameFile h happ (by decide +kernel) (by decide) htwin (by decide +kernel)⟩

end Resolver

end UnitFoundry
