import UnitFoundry.Proofs.Linking.Completeness

/-! # When no reference is ready

The loop that links references takes the first one if none is ready. Then each reference that is
pending imports from a module name that is neither provided by the host nor linked: no reference
has this name, or the one that has it is pending too, since everything that is imported from has
been opened. As there are finitely many references, either one of them imports from a name that no
reference has, or they wait for each other in a cycle. Where neither can happen, what is taken is
always ready.

* **`Linking.WaitsFor`**: a pending reference imports from a pending one.
* **`Linking.Underway.exists_unbound_or_cycle`**: why no reference is ready.
* **`Linking.linkFor_fallback`**: when a reference is taken that is not ready. -/

namespace UnitFoundry.Linking

open Relation

/-- Whether a reference that is pending imports from one that is pending. -/
def WaitsFor {E : Engine} (pending : List (Opened E)) (o o' : Opened E) : Prop :=
  o ∈ pending ∧ o' ∈ pending ∧ o'.name ∈ E.importNames o.module

variable {E : Engine} {files : Files} {references : List Reference} {m : E.Module} {l : Linked E}
  {o o' : Opened E} {os pending : List (Opened E)} {name : String}

/-! ## Module names -/

theorem isHosted_iff : isHosted references name = true ↔
    ∃ r ∈ references, r.isHost = true ∧ r.name = name := by
  rw [isHosted, List.any_eq_true]
  simp only [Bool.and_eq_true, decide_eq_true_eq]

theorem isAvailable_iff : isAvailable references l name = true ↔
    (∃ r ∈ references, r.isHost = true ∧ r.name = name) ∨ name ∈ l.names := by
  rw [isAvailable, Bool.or_eq_true, isHosted_iff, List.contains_iff_mem]

/-- A module name that stands for no file is one of the host, or no reference has it. -/
theorem isHosted_or_unbound (h : file? references name = none) :
    isHosted references name = true ∨ ∀ r ∈ references, r.name ≠ name := by
  rw [file?] at h
  split at h
  · rename_i hhosted
    exact .inl hhosted
  · rename_i hhosted
    cases hfind : references.find? (·.name = name) with
    | none => exact .inr (by simpa using hfind)
    | some r =>
        rw [hfind, Option.bind_some] at h
        have hmem := List.mem_of_find?_eq_some hfind
        have hname := Reference.name_of_find?_eq_some hfind
        -- a reference without a file is one of the host
        have hhost : r.isHost = true := by
          obtain ⟨_, _, _ | _⟩ := r
          · exact absurd h (by simp [Reference.path?])
          · rfl
        exact absurd (isHosted_iff.2 ⟨r, hmem, hhost, hname⟩) hhosted

namespace Underway

/-! ## What is waited for -/

/-- A reference that is not ready imports from a name that no reference has, or from a reference
that is pending. -/
theorem exists_of_not_isReady (h : Underway os l pending)
    (hg : Gathering files references m ([], os)) (ho : o ∈ pending)
    (hready : isReady references l o = false) :
    (∃ name ∈ E.importNames o.module, ∀ r ∈ references, r.name ≠ name) ∨
      ∃ o', WaitsFor pending o o' := by
  obtain ⟨name, hname, hmissing⟩ := List.all_eq_false.1 hready
  rw [isAvailable, Bool.or_eq_true, not_or, List.contains_iff_mem] at hmissing
  obtain ⟨hhosted, hlinked⟩ := hmissing
  obtain hmem | hnone | hopened := hg.closed name (.inr ⟨o, h.opened o ho, hname⟩)
  · exact absurd hmem List.not_mem_nil
  · exact .inl ⟨name, hname, (isHosted_or_unbound hnone).resolve_left hhosted⟩
  · -- it has been opened, but not linked
    obtain ⟨o', ho', rfl⟩ := List.mem_map.1 ((h.mem_names_or hopened).resolve_left hlinked)
    exact .inr ⟨o', ho, ho', hname⟩

/-- **Why no reference is ready**: one of them imports from a name that no reference has, or they
wait for each other in a cycle. -/
theorem exists_unbound_or_cycle (h : Underway os l pending)
    (hg : Gathering files references m ([], os)) (ho : o ∈ pending)
    (hstuck : ∀ o ∈ pending, isReady references l o = false) :
    (∃ o ∈ pending, ∃ name ∈ E.importNames o.module, ∀ r ∈ references, r.name ≠ name) ∨
      ∃ o ∈ pending, TransGen (WaitsFor pending) o o := by
  by_cases hcycle : ∃ o ∈ pending, TransGen (WaitsFor pending) o o
  · exact .inr hcycle
  · -- without a cycle, some reference waits for no other one
    have hacyclic : ∀ o ∈ pending, ¬TransGen (WaitsFor pending) o o := fun o ho hself =>
      hcycle ⟨o, ho, hself⟩
    obtain ⟨last, hlast, -, hnone⟩ := exists_last_of_acyclic hacyclic ho
    obtain hunbound | ⟨o', hwaits⟩ := h.exists_of_not_isReady hg hlast (hstuck last hlast)
    · exact .inl ⟨last, hlast, hunbound⟩
    · exact absurd hwaits (hnone o' hwaits.2.1)

/-- References that wait for each other in a cycle import from each other in a cycle. -/
theorem transGen_dependsOn (h : Underway os l pending)
    (hnodup : (references.map (·.name)).Nodup) (hg : Gathering files references m ([], os))
    (hwaits : TransGen (WaitsFor pending) o o') :
    TransGen (DependsOn E files references) o.name o'.name := by
  refine TransGen.lift Opened.name ?_ o o' hwaits
  rintro a b ⟨ha, hb, hmem⟩
  obtain ⟨path, hfile, -⟩ := hg.opened b (h.opened b hb)
  exact (dependsOn_iff hnodup hg (h.opened a ha) b.name).2
    ⟨hmem, path, isFileAt_of_file? hfile⟩

end Underway

/-! ## The reference that is taken -/

/-- **A reference that is not ready is only taken for a cycle or a missing module.** Let the loop
that links references have come to some that are pending, so that linking is what it gives from
there. If none of them is ready, one of them imports from a name that no reference has, or they
wait for each other in a cycle. So if each name to which the imports lead is that of a reference
and no file imports from itself, not even through others, the reference that is taken only imports
from modules of the host that are listed and from what has been linked. -/
theorem linkFor_fallback (E : Engine) (files : Files) (references : List Reference) (m : E.Module)
    (hnodup : (references.map (·.name)).Nodup) {os rest : List (Opened E)} {l : Linked E}
    {first : Opened E} (hgather : gather files references (E.importNames m) [] = .ok os)
    (hrun : ReflTransGen (LinkStep references) (.host, os) (l, first :: rest)) :
    linkFor files references m = linkAll references l (first :: rest) ∧
    ((∀ o ∈ first :: rest, isReady references l o = false) →
      (∃ o ∈ first :: rest, ∃ name ∈ E.importNames o.module,
        ∀ r ∈ references, r.name ≠ name) ∨
        ∃ o ∈ first :: rest, TransGen (WaitsFor (first :: rest)) o o) ∧
    ((∀ name, Reaches files references m name → ∃ r ∈ references, r.name = name) →
      (∀ name, Reaches files references m name →
        ¬TransGen (DependsOn E files references) name name) →
      ∀ name ∈ E.importNames (takeReady (isReady references l) first rest).1.module,
        (∃ r ∈ references, r.isHost = true ∧ r.name = name) ∨ name ∈ l.names) := by
  have hg := gathering_of_gather hgather
  have hunder : Underway os l (first :: rest) := (Underway.start os).run hrun
  have hstuck := hunder.exists_unbound_or_cycle hg List.mem_cons_self
  refine ⟨(linkFor_of_gather hgather).trans (linkAll_of_steps hrun), hstuck,
    fun hbound hacyclic name hname => ?_⟩
  have hreach : ∀ o ∈ first :: rest, Reaches files references m o.name := fun o ho =>
    hg.reached o.name (List.mem_map_of_mem (hunder.opened o ho))
  rw [takeReady] at hname
  cases hfind : (first :: rest).find? (isReady references l) with
  | some o =>
      rw [hfind] at hname
      have hready : isReady references l o = true := List.find?_some hfind
      exact isAvailable_iff.1 (List.all_eq_true.1 hready name hname)
  | none =>
      have hnone : ∀ o ∈ first :: rest, isReady references l o = false := fun o ho =>
        Bool.eq_false_iff.2 (List.find?_eq_none.1 hfind o ho)
      obtain ⟨o, ho, target, htarget, hunbound⟩ | ⟨o, ho, hcycle⟩ := hstuck hnone
      · -- the name that no reference has would be reached
        obtain ⟨path, hfile, hopen⟩ := hg.opened o (hunder.opened o ho)
        obtain ⟨r, hr, hrname⟩ := hbound target ((hreach o ho).next
          ⟨path, o.module, isFileAt_of_file? hfile, hopen, htarget⟩)
        exact absurd hrname (hunbound r hr)
      · exact absurd (hunder.transGen_dependsOn hnodup hg hcycle) (hacyclic o.name (hreach o ho))

/-- Two files that import from each other, opened. -/
def mutualOpened : List (Opened Wasm.engine) :=
  [⟨"ping", pongUser⟩, ⟨"pong", pingUser⟩]

theorem gather_mutual : gather mutualFiles mutualReferences (Wasm.engine.importNames pingUser) [] =
    .ok mutualOpened :=
  gather_eq_ok_iff.2 (.head (.opens (by decide +kernel) rfl ofFile_mutual.1)
    (.head (.opens (by decide +kernel) (by decide) ofFile_mutual.2) (.single (.again (by decide)))))

/-- A file that passes on what it imports from another one, and that other file, opened. -/
theorem gather_relay : gather relayFiles (relayReferences [Wasm.Wasi.moduleName])
    (Wasm.engine.importNames relayUser) [] = .ok relayOpened :=
  gather_eq_ok_iff.2 (.head (.opens (by decide) rfl ofFile_relay.1)
    (.head (.opens (by decide) (by decide) ofFile_relay.2) (.single (.unknown (by decide)))))

theorem exists_mem_of_reaches_relay (h : Reaches (E := Wasm.engine) relayFiles
    (relayReferences [Wasm.Wasi.moduleName]) relayUser name) :
    ∃ r ∈ relayReferences [Wasm.Wasi.moduleName], r.name = name := by
  cases h with
  | direct hmem =>
      obtain rfl := List.mem_singleton.1 hmem
      decide
  | next _ himports => obtain ⟨-, rfl⟩ | ⟨-, rfl⟩ := imports_relay himports <;> decide

/-- Of two files that import from each other none is ready, and they wait for each other. Of the
other two files, the one that is taken first only imports from a module of the host. -/
theorem linkFor_fallback_mutual :
    (mutualReferences.map (·.name)).Nodup ∧
    gather mutualFiles mutualReferences (Wasm.engine.importNames pingUser) [] =
      .ok mutualOpened ∧
    (∀ o ∈ mutualOpened, isReady mutualReferences .host o = false) ∧
    (∃ o ∈ mutualOpened, TransGen (WaitsFor mutualOpened) o o) ∧
    ∀ name ∈ Wasm.engine.importNames (takeReady
        (isReady (relayReferences [Wasm.Wasi.moduleName]) .host) ⟨"relay", passingModule⟩
        [⟨"base", baseModule⟩]).1.module,
      ∃ r ∈ relayReferences [Wasm.Wasi.moduleName], r.isHost = true ∧ r.name = name := by
  have hnodup : (mutualReferences.map (·.name)).Nodup := by decide
  have hstuck : ∀ o ∈ mutualOpened, isReady mutualReferences .host o = false := by decide +kernel
  have hbound : ∀ o ∈ mutualOpened, ∀ name ∈ Wasm.engine.importNames o.module,
      ∃ r ∈ mutualReferences, r.name = name := by decide
  obtain ⟨-, hmutual, -⟩ := linkFor_fallback Wasm.engine mutualFiles mutualReferences pingUser
    hnodup gather_mutual .refl
  obtain ⟨-, -, hrelay⟩ := linkFor_fallback Wasm.engine relayFiles
    (relayReferences [Wasm.Wasi.moduleName]) relayUser (by decide) gather_relay .refl
  refine ⟨hnodup, gather_mutual, hstuck, ?_, fun name hname => ?_⟩
  · obtain ⟨o, ho, name, hname, hunbound⟩ | hcycle := hmutual hstuck
    · obtain ⟨r, hr, hrname⟩ := hbound o ho name hname
      exact absurd hrname (hunbound r hr)
    · exact hcycle
  · obtain hhost | hlinked := hrelay (fun _ => exists_mem_of_reaches_relay)
      (fun _ _ => not_transGen_relay) name hname
    · exact hhost
    · exact absurd hlinked List.not_mem_nil

end UnitFoundry.Linking
