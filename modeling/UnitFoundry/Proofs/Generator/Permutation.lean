import UnitFoundry.Proofs.Compile.Directories
import UnitFoundry.Proofs.Generator.History
import UnitFoundry.Proofs.Reference.Agreement
import UnitFoundry.Proofs.Resolve.Inclusion
import UnitFoundry.Proofs.Resolve.Representation

/-! # Referencing in any order

Units whose references are compatible can be referenced in any order. What has a name or an
identity in common in two resolved sets is then the same reference altogether, since an identity
tells where a unit comes from.

* **`Resolver.agrees_of_compatible`**: resolved sets that are compatible agree.
* **`Generator.references_run_referenceUnit`**: referencing units merges what they resolve to.
* **`Generator.run_perm`**: neither the references nor the directories that a compiler searches
  tell in which order the units were referenced. -/

namespace UnitFoundry

/-! ## Members of resolved sets -/

namespace Walk

variable {r : Resolver} {files : Files} {w : Walk}

/-- Every miss on record has the same reason. -/
def MissesAlike (s : ReferenceSet) : Prop :=
  ∀ m ∈ s.misses, m.reason = missReason

theorem missesAlike_step (h : MissesAlike w.references) (u : UnitHandle) :
    MissesAlike (w.step r files u).references := by
  obtain ⟨-, hmiss, -⟩ | ⟨path, -, -, hsame, -⟩ | ⟨path, s, fresh, -, -, hs, -, hqueues⟩ :=
    step_cases r files w u
  · rw [hmiss]
    intro m hm
    obtain hm | rfl := ReferenceSet.mem_misses_of_mem_recordMiss hm
    · exact h m hm
    · rfl
  · rw [hsame]
    exact h
  · have hrefs : (w.step r files u).references = s := hqueues.references
    rw [hrefs, hs, MissesAlike, ReferenceSet.misses_insert]
    exact h

theorem missesAlike_run (h : MissesAlike w.references) :
    MissesAlike (run r files w).references := by
  induction w using run.induct r files with
  | case1 w hnil =>
      rw [run_of_frontier_nil hnil]
      exact h
  | case2 w u rest hcons ih =>
      rw [run_of_frontier_cons hcons]
      exact ih (missesAlike_step (w := { w with frontier := rest }) h u)

end Walk

namespace Resolver

variable {r : Resolver} {files : Files} {u v : UnitHandle} {s t : ReferenceSet} {e : Reference}

/-- What a resolved set misses is missed for one reason only. -/
theorem reason_of_miss (h : (r.resolve files u).result = .ok s) {m : Miss} (hm : m ∈ s.misses) :
    m.reason = missReason := by
  obtain ⟨start, inspected, -, rfl⟩ := exists_of_resolve_eq_ok h
  have hbaseline : Walk.MissesAlike (r.walkFrom start inspected).references := by
    intro m hm
    have hnone : m ∈ r.baseline.misses := hm
    rw [misses_baseline] at hnone
    exact absurd hnone List.not_mem_nil
  exact Walk.missesAlike_run hbaseline m hm

/-- **A member of a resolved set** is a module of the host, or a file under its canonical path. -/
theorem eq_ofHost_or_file_of_resolve (h : (r.resolve files u).result = .ok s)
    (he : e ∈ s.entries) : e = .ofHost e.name ∨
      ∃ path c, r.locate? files (r.handleFrom u e.name) = some path ∧
        files.canonicalize path = .ok c ∧ e = ⟨e.name, c, .file c⟩ := by
  cases hhost : e.isHost with
  | true =>
      obtain ⟨n, -, rfl⟩ := mem_baseline_of_resolve h he hhost
      exact Or.inl rfl
  | false =>
      obtain ⟨path, hloc, hof⟩ := exists_locate?_of_resolve h he hhost
      obtain ⟨c, hc, hfile⟩ := ofFile_of_locate? hloc
      exact Or.inr ⟨path, c, hloc, hc, hof.trans (hfile e.name)⟩

theorem isCanonical_of_resolve (h : (r.resolve files u).result = .ok s) (he : e ∈ s.entries) :
    RustcCompiler.IsCanonical e := by
  intro p hp
  obtain hhost | ⟨path, c, -, hc, hfile⟩ := eq_ofHost_or_file_of_resolve h he
  · rw [hhost, Reference.path?_ofHost] at hp
    exact absurd hp (by simp)
  · rw [hfile] at hp
    obtain rfl : c = p := Option.some.inj hp
    obtain ⟨l, n, hfind, rfl⟩ := Files.exists_find_of_canonicalize hc
    exact ⟨l, Files.names_of_resolve (Files.find_eq_ok_iff.1 hfind).1, rfl⟩

/-- A member with the identity of a file that has been located is no module of the host. -/
theorem ne_ofHost_of_identity (h : (r.resolve files u).result = .ok s) (he : e ∈ s.entries)
    {n path c : String} (hloc : r.locate? files (r.handleFrom v n) = some path)
    (hc : files.canonicalize path = .ok c) (hid : e.identity = c) : e ≠ .ofHost e.name := by
  intro hhost
  have hof : (Reference.ofFile files n path).identity = c := by
    rw [Reference.ofFile, hc]
  have hpath := isHost_eq_false_of_identity h he hloc (hid.trans hof.symm)
  rw [hhost, Reference.isHost_ofHost] at hpath
  exact absurd hpath (by simp)

/-- Members of resolved sets with the same name and the same identity are the same. -/
theorem eq_of_name_of_identity (h : (r.resolve files u).result = .ok s)
    (h' : (r.resolve files v).result = .ok t) (he : e ∈ s.entries) {e' : Reference}
    (he' : e' ∈ t.entries) (hname : e.name = e'.name) (hid : e.identity = e'.identity) :
    e = e' := by
  obtain hhost | ⟨path, c, hloc, hc, hfile⟩ := eq_ofHost_or_file_of_resolve h he
  · obtain hhost' | ⟨path', c', hloc', hc', hfile'⟩ := eq_ofHost_or_file_of_resolve h' he'
    · rw [hhost, hhost', hname]
    · exact absurd hhost (ne_ofHost_of_identity h he hloc' hc' (by rw [hid, hfile']))
  · obtain hhost' | ⟨path', c', hloc', hc', hfile'⟩ := eq_ofHost_or_file_of_resolve h' he'
    · exact absurd hhost' (ne_ofHost_of_identity h' he' hloc hc (by rw [← hid, hfile]))
    · rw [hfile, hfile'] at hid ⊢
      have hcc : c = c' := hid
      rw [hname, hcc]

/-- **Resolved sets that are compatible agree.** -/
theorem agrees_of_compatible (h : (r.resolve files u).result = .ok s)
    (h' : (r.resolve files v).result = .ok t) (hst : s.Compatible t) : s.Agrees t where
  entries e he e' he' hsame := by
    have hiff := hst e he e' he'
    exact eq_of_name_of_identity h h' he he' (hsame.elim id hiff.2) (hsame.elim hiff.1 id)
  misses m hm m' hm' hunit := by
    obtain ⟨unit, reason⟩ := m
    obtain ⟨unit', reason'⟩ := m'
    have hreason : reason = missReason := reason_of_miss h hm
    have hreason' : reason' = missReason := reason_of_miss h' hm'
    rw [hreason, hreason', show unit = unit' from hunit]

/-- The baseline agrees with what has grown from it. -/
theorem agrees_baseline (h : (r.resolve files u).result = .ok s) : r.baseline.Agrees s where
  entries e he e' he' hsame := by
    have hs := coherent_of_resolve h
    have hmem := (baseline_grows h).mem he
    obtain hname | hid := hsame
    · exact List.inj_on_of_nodup_map hs.nodup_names hmem he' hname
    · exact List.inj_on_of_nodup_map hs.nodup_identities hmem he' hid
  misses m hm := by
    rw [misses_baseline] at hm
    exact absurd hm List.not_mem_nil

end Resolver

namespace Generator

variable {E : Engine} {resolver : Resolver} {gateway : Gateway E} {files : Files}
  {us us' : List UnitHandle} {ts : List ReferenceSet}

/-- **Referencing units merges what they resolve to**, one after another. -/
theorem references_run_referenceUnit {g : Generator E}
    (h : List.Forall₂ (fun u t => (g.resolver.resolve files u).result = .ok t) us ts) :
    (g.run (us.map (.referenceUnit files))).references = g.references.extendAll ts := by
  induction us generalizing g ts with
  | nil =>
      cases h
      rfl
  | cons u us ih =>
      obtain ⟨t, ts, hfirst, hrest, rfl⟩ := List.forall₂_cons_left_iff.1 h
      obtain ⟨e, herror, -⟩ | ⟨t', ht', -, hgenerator⟩ := g.referenceUnit_cases files u
      · exact absurd (herror.symm.trans hfirst) (by simp)
      · obtain rfl : t' = t := Except.ok.inj (ht'.symm.trans hfirst)
        have hafter : g.after (.referenceUnit files u) =
            { g with references := (g.references.extend t').set } := hgenerator
        rw [List.map_cons, run, List.foldl_cons, hafter]
        exact ih hrest

section Resolved

variable (hresolves : List.Forall₂ (fun u t => (resolver.resolve files u).result = .ok t) us ts)

include hresolves

theorem exists_resolve_of_mem {t : ReferenceSet} (ht : t ∈ ts) :
    ∃ u, (resolver.resolve files u).result = .ok t := by
  induction hresolves with
  | nil => exact absurd ht List.not_mem_nil
  | cons hu _ ih =>
      rcases List.mem_cons.1 ht with rfl | ht
      · exact ⟨_, hu⟩
      · exact ih ht

/-- What units resolve to can be merged into the baseline if it is compatible. -/
theorem mergeable_of_compatible (hcompat : ts.Pairwise ReferenceSet.Compatible) :
    ReferenceSet.Mergeable resolver.baseline ts := by
  refine ⟨resolver.coherent_baseline, fun t ht => ?_, fun t ht => ?_, ?_⟩
  · obtain ⟨u, hu⟩ := exists_resolve_of_mem hresolves ht
    exact Resolver.coherent_of_resolve hu
  · obtain ⟨u, hu⟩ := exists_resolve_of_mem hresolves ht
    exact Resolver.agrees_baseline hu
  · refine hcompat.imp_of_mem fun hs ht hst => ?_
    obtain ⟨u, hu⟩ := exists_resolve_of_mem hresolves hs
    obtain ⟨v, hv⟩ := exists_resolve_of_mem hresolves ht
    exact Resolver.agrees_of_compatible hu hv hst

/-- What has been merged into the baseline has canonical paths. -/
theorem isCanonical_of_mergeable (hmerge : ReferenceSet.Mergeable resolver.baseline ts) :
    ∀ e ∈ (resolver.baseline.extendAll ts).entries, RustcCompiler.IsCanonical e := by
  intro e he
  obtain hbaseline | ⟨t, ht, het⟩ := hmerge.mem_entries_extendAll.1 he
  · obtain ⟨n, -, rfl⟩ := Resolver.mem_entries_baseline.1 hbaseline
    exact fun p hp => absurd hp (by simp)
  · obtain ⟨u, hu⟩ := exists_resolve_of_mem hresolves ht
    exact Resolver.isCanonical_of_resolve hu het

end Resolved

/-- **Units can be referenced in any order** by a generator that has not been asked for anything, if
all of them resolve and what they resolve to is compatible. The references have the same entries and
the same misses, the numbers returned have the same sum, and for every source the compiler is asked
to search the same directories and is run with the same arguments. -/
theorem run_perm
    (hresolves : List.Forall₂ (fun u t => (resolver.resolve files u).result = .ok t) us ts)
    (hcompat : ts.Pairwise ReferenceSet.Compatible) (hperm : us.Perm us') :
    let g := ofParts resolver gateway
    let history := us.map (Request.referenceUnit files)
    let history' := us'.map (Request.referenceUnit files)
    let s := (g.run history).references
    let s' := (g.run history').references
    s.entries.Perm s'.entries ∧ s.misses.Perm s'.misses ∧ g.total history = g.total history' ∧
    RustcCompiler.searchDirectories s.entries = RustcCompiler.searchDirectories s'.entries ∧
    ∀ c ending kind source,
      RustcCompiler.arguments c (gateway.request ending kind source s) =
        RustcCompiler.arguments c (gateway.request ending kind source s') := by
  intro g history history' s s'
  -- the other order resolves to the same sets in another order
  obtain ⟨ts', hresolves', hts⟩ := List.perm_comp_forall₂ hperm.symm hresolves
  have hmerge := mergeable_of_compatible hresolves hcompat
  have hs : s = resolver.baseline.extendAll ts :=
    references_run_referenceUnit (g := g) hresolves
  have hs' : s' = resolver.baseline.extendAll ts' :=
    references_run_referenceUnit (g := g) hresolves'
  obtain ⟨hentries, hmisses⟩ := hmerge.extendAll_perm hts.symm
  rw [← hs, ← hs'] at hentries hmisses
  have hdirectories : RustcCompiler.searchDirectories s.entries =
      RustcCompiler.searchDirectories s'.entries :=
    RustcCompiler.searchDirectories_perm hentries (hs ▸ isCanonical_of_mergeable hresolves hmerge)
  refine ⟨hentries, hmisses, ?_, hdirectories, fun c ending kind source => ?_⟩
  · have hsize := g.size_run history
    have hsize' := g.size_run history'
    have hlength : (g.run history).references.size = (g.run history').references.size :=
      hentries.length_eq
    omega
  · rw [RustcCompiler.arguments, RustcCompiler.arguments, Gateway.request, Gateway.request]
    simp only [hdirectories]

/-- Two files that import from a third one. -/
def forkFiles : Files :=
  { nodes := [(["base.wasm"], .file (Wasm.Module.importing "wasi" "f").encode),
      (["left.wasm"], .file (Wasm.Module.importing "base" "f").encode),
      (["right.wasm"], .file (Wasm.Module.importing "base" "f").encode)] }

/-- The resolver that finds all of them. -/
def forkResolver : Resolver :=
  { config := { hintPaths := ["/base.wasm", "/left.wasm", "/right.wasm"] }, inspector := .wasm }

/-- What can stand in a set that one of the two files resolves to. -/
theorem mem_fork {n : String} (hn : n = "left" ∨ n = "right") {s : ReferenceSet}
    (h : (forkResolver.resolve forkFiles (.named n)).result = .ok s) {e : Reference}
    (he : e ∈ s.entries) : e = .ofHost "wasi_snapshot_preview1" ∨
      e = .ofFile forkFiles n ("/" ++ n ++ ".wasm") ∨
      e = .ofFile forkFiles "base" "/base.wasm" := by
  have hreferences : ∀ m, m = n ∨ m = "base" ∨ m = "wasi" →
      ∀ m' ∈ forkResolver.referencesOf forkFiles (.named m), m' = "base" ∨ m' = "wasi" := by
    intro m hm
    obtain rfl | rfl | rfl := hm
    · obtain rfl | rfl := hn <;> decide +kernel
    · decide +kernel
    · decide +kernel
  -- chains lead to the file in common and to what it imports from
  have hchain : ∀ k m, forkResolver.Chain forkFiles (.named n) s.entries k m →
      m = n ∨ m = "base" ∨ m = "wasi" := by
    intro k m hchain
    induction hchain with
    | start => exact Or.inl rfl
    | next _ _ hmem ih =>
        rw [Resolver.handleFrom_named rfl] at hmem
        exact Or.inr (hreferences _ ih _ hmem)
  cases hhost : e.isHost with
  | true =>
      obtain ⟨host, hmem, rfl⟩ := Resolver.mem_baseline_of_resolve h he hhost
      exact Or.inl (congrArg Reference.ofHost (List.mem_singleton.1 hmem))
  | false =>
      obtain ⟨⟨k, hk⟩, path, hloc, hof⟩ := Resolver.exists_chain_and_locate?_of_resolve h he hhost
      rw [Resolver.handleFrom_named rfl] at hloc
      rw [hof]
      obtain hname | hname | hname := hchain k _ hk
      · have hfile : forkResolver.locate? forkFiles (.named n) = some ("/" ++ n ++ ".wasm") := by
          obtain rfl | rfl := hn <;> decide +kernel
        rw [hname, hfile] at hloc
        rw [hname, ← Option.some.inj hloc]
        exact Or.inr (Or.inl rfl)
      · have hfile : forkResolver.locate? forkFiles (.named "base") = some "/base.wasm" := by
          decide +kernel
        rw [hname, hfile] at hloc
        rw [hname, ← Option.some.inj hloc]
        exact Or.inr (Or.inr rfl)
      · have hnone : forkResolver.locate? forkFiles (.named "wasi") = none := by
          decide +kernel
        rw [hname, hnone] at hloc
        exact absurd hloc (by simp)

/-- The two files need a third one, and a module that cannot be located. They can be referenced one
way round and the other. -/
theorem run_perm_fork : ∃ s t,
    (forkResolver.resolve forkFiles (.named "left")).result = .ok s ∧
    (forkResolver.resolve forkFiles (.named "right")).result = .ok t ∧ s.Compatible t ∧
    let run := fun us =>
      (ofParts (E := Wasm.engine) forkResolver { compiler := WatCompiler.compiler }).run
        (us.map (Request.referenceUnit forkFiles))
    (run [.named "left", .named "right"]).references.entries.Perm
      (run [.named "right", .named "left"]).references.entries := by
  obtain ⟨s, hs⟩ : ∃ s, (forkResolver.resolve forkFiles (.named "left")).result = .ok s :=
    Resolver.exists_resolve_eq_ok (by decide +kernel)
  obtain ⟨t, ht⟩ : ∃ t, (forkResolver.resolve forkFiles (.named "right")).result = .ok t :=
    Resolver.exists_resolve_eq_ok (by decide +kernel)
  have hcompat : s.Compatible t := by
    intro e he e' he'
    obtain rfl | rfl | rfl := mem_fork (.inl rfl) hs he <;>
      obtain rfl | rfl | rfl := mem_fork (.inr rfl) ht he' <;> decide +kernel
  exact ⟨s, t, hs, ht, hcompat, (run_perm (.cons hs (.cons ht .nil))
    (List.pairwise_pair.2 hcompat) (List.Perm.swap _ _ _)).1⟩

end Generator

end UnitFoundry
