import UnitFoundry.Proofs.Resolve.Baseline
import UnitFoundry.Proofs.Resolve.Walk

/-! # What a reference set stands for

A reference set is looked up by identity, in an index beside the entries, and by name, along the
entries. Whatever has built the set, the two agree with the entries: a reference is taken up if no
entry has its identity or its name, and refused otherwise.

* **`Resolver.built_of_resolve`**: the operations of sets build every set that resolving gives.
* **`ReferenceSet.perm_toList_index`**: the index lists the identities of the entries.
* **`ReferenceSet.insert_eq_added_iff`**: which references are taken up.
* **`ReferenceSet.represents_entries`**: all of this for sets that are built or resolved. -/

namespace UnitFoundry

/-! ## Sets that resolving gives -/

namespace Walk

variable {r : Resolver} {files : Files} {w : Walk}

/-- A visit adds a reference, records a miss or leaves the set as it is. -/
theorem built_step (h : w.references.Built) (u : UnitHandle) :
    (w.step r files u).references.Built := by
  obtain ⟨-, hmiss, -⟩ | ⟨path, -, -, hsame, -⟩ | ⟨path, s, fresh, -, -, hs, -, hqueues⟩ :=
    step_cases r files w u
  · rw [hmiss]
    exact h.recordMiss _
  · rw [hsame]
    exact h
  · have hrefs : (w.step r files u).references = s := hqueues.references
    rw [hrefs, hs]
    exact h.insert _

/-- A walk does nothing else, however many units it visits. -/
theorem built_run (h : w.references.Built) : (run r files w).references.Built := by
  induction w using run.induct r files with
  | case1 w hnil =>
      rw [run_of_frontier_nil hnil]
      exact h
  | case2 w u rest hcons ih =>
      rw [run_of_frontier_cons hcons]
      exact ih (built_step (w := { w with frontier := rest }) h u)

end Walk

namespace Resolver

variable {r : Resolver} {files : Files} {u : UnitHandle} {s : ReferenceSet}

/-- The operations of sets build the baseline. -/
theorem built_baseline (r : Resolver) : r.baseline.Built := by
  rw [baseline_eq_foldl]
  exact List.foldlRecOn _ _ .empty fun _ h e _ => h.insert e

/-- **The operations of sets build every set that resolving gives.** -/
theorem built_of_resolve (h : (r.resolve files u).result = .ok s) : s.Built := by
  rw [resolve] at h
  split at h
  · exact absurd h (by simp)
  · rename_i start inspected hstart
    rw [← Except.ok.inj h]
    exact Walk.built_run (w := r.walkFrom start inspected) r.built_baseline

end Resolver

/-! ## The index and the entries -/

namespace ReferenceSet

variable {s : ReferenceSet} {e : Reference} {n : String}

/-- **The index lists the identities of the entries**, each once and nothing else. -/
theorem perm_toList_index (h : s.Coherent) :
    s.index.toList.Perm (s.entries.map (·.identity)) := by
  have hnodup : s.index.toList.Nodup :=
    Std.HashSet.distinct_toList.imp fun hne => ne_of_beq_false hne
  refine (List.perm_ext_iff_of_nodup hnodup h.nodup_identities).2 fun i => ?_
  rw [Std.HashSet.mem_toList, ← Std.HashSet.contains_iff_mem, List.mem_map]
  exact h.containsIdentity_iff i

/-- **A name stands for the only entry that has it.** -/
theorem get?_eq_some_iff (h : s.Coherent) :
    s.get? n = some e ↔ e ∈ s.entries ∧ e.name = n ∧ ∀ e' ∈ s.entries, e'.name = n → e' = e := by
  constructor
  · intro hget
    have hmem := mem_of_get?_eq_some hget
    have hname := name_of_get?_eq_some hget
    refine ⟨hmem, hname, fun e' he' hname' => ?_⟩
    exact List.inj_on_of_nodup_map h.nodup_names he' hmem (hname'.trans hname.symm)
  · rintro ⟨hmem, rfl, -⟩
    exact get?_eq_some_of_mem h.nodup_names hmem

/-- **A reference is taken up exactly if no entry has its identity or its name.** -/
theorem insert_eq_added_iff (h : s.Coherent) :
    (s.insert e).2 = .added ↔ ∀ e' ∈ s.entries, e'.identity ≠ e.identity ∧ e'.name ≠ e.name := by
  obtain ⟨hi, hinsert⟩ | ⟨holder, -, hn, hinsert⟩ | ⟨hi, hn, hinsert⟩ := insert_cases s e
  · -- an entry has the identity
    obtain ⟨e', he', hid⟩ := (h.containsIdentity_iff _).1 hi
    rw [hinsert]
    exact ⟨fun hadded => absurd hadded (by simp), fun hall => absurd hid (hall e' he').1⟩
  · -- an entry has the name
    have hholder := mem_of_get?_eq_some hn
    have hname := name_of_get?_eq_some hn
    rw [hinsert]
    exact ⟨fun hadded => absurd hadded (by simp), fun hall => absurd hname (hall holder hholder).2⟩
  · rw [hinsert]
    exact ⟨fun _ e' he' => ⟨h.containsIdentity_eq_false hi e' he', get?_eq_none_iff.1 hn e' he'⟩,
      fun _ => rfl⟩

/-- A reference that is taken up becomes the last entry, and any other changes nothing. -/
theorem insert_eq (s : ReferenceSet) (e : Reference) :
    ((s.insert e).2 = .added → (s.insert e).1 =
      { s with entries := s.entries ++ [e], index := s.index.insert e.identity }) ∧
    ((s.insert e).2 ≠ .added → (s.insert e).1 = s) := by
  obtain ⟨-, h⟩ | ⟨holder, -, -, h⟩ | ⟨-, -, h⟩ := insert_cases s e
  · rw [h]
    exact ⟨fun hadded => absurd hadded (by simp), fun _ => rfl⟩
  · rw [h]
    exact ⟨fun hadded => absurd hadded (by simp), fun _ => rfl⟩
  · rw [h]
    exact ⟨fun _ => rfl, fun hne => absurd rfl hne⟩

/-- **What a reference set stands for.** In every set that comes of empty ones by adding
references, recording misses and merging, in every baseline and in every set that resolving gives,
nothing stands twice and the index lists the identities of the entries. So an identity is present
exactly if an entry has it, a name stands for the only entry that has it, and a reference whose
identity and name are both new becomes the last entry, while any other changes nothing. -/
theorem represents_entries (s : ReferenceSet)
    (h : s.Built ∨ (∃ r : Resolver, s = r.baseline) ∨
      ∃ (r : Resolver) (files : Files) (u : UnitHandle), (r.resolve files u).result = .ok s) :
    s.index.toList.Perm (s.entries.map (·.identity)) ∧
      (s.entries.map (·.identity)).Nodup ∧ (s.entries.map (·.name)).Nodup ∧
      (s.misses.map (·.unit)).Nodup ∧
      (∀ i, s.containsIdentity i = true ↔ ∃ e ∈ s.entries, e.identity = i) ∧
      (∀ n e, s.get? n = some e ↔
        e ∈ s.entries ∧ e.name = n ∧ ∀ e' ∈ s.entries, e'.name = n → e' = e) ∧
      ∀ e, ((s.insert e).2 = .added ↔
          ∀ e' ∈ s.entries, e'.identity ≠ e.identity ∧ e'.name ≠ e.name) ∧
        ((s.insert e).2 = .added → (s.insert e).1 =
          { s with entries := s.entries ++ [e], index := s.index.insert e.identity }) ∧
        ((s.insert e).2 ≠ .added → (s.insert e).1 = s) := by
  have hbuilt : s.Built := by
    obtain h | ⟨r, rfl⟩ | ⟨r, files, u, hresolve⟩ := h
    · exact h
    · exact r.built_baseline
    · exact Resolver.built_of_resolve hresolve
  have hs := hbuilt.coherent
  exact ⟨perm_toList_index hs, hs.nodup_identities, hs.nodup_names, hs.nodup_misses,
    hs.containsIdentity_iff, fun _ _ => get?_eq_some_iff hs,
    fun e => ⟨insert_eq_added_iff hs, insert_eq s e⟩⟩

/-- A set into which another one has been merged that shares an entry and a miss with it. -/
def overlappingSet : ReferenceSet :=
  (extend (((∅ : ReferenceSet).insert (.ofHost "a")).1.recordMiss ⟨"c", missReason⟩)
    ((((∅ : ReferenceSet).insert (.ofHost "a")).1.insert (.ofHost "b")).1.recordMiss
      ⟨"c", missReason⟩)).set

theorem entries_overlappingSet : overlappingSet.entries = [.ofHost "a", .ofHost "b"] := by
  simp [overlappingSet, extend, Merge.insert, insert, containsIdentity, get?, recordMiss,
    Reference.ofHost, EmptyCollection.emptyCollection]

/-- The shared entry is there once, it is not taken up again, and another reference is. -/
theorem represents_entries_overlapping : overlappingSet.Built ∧
    overlappingSet.index.toList.Perm ["host:a", "host:b"] ∧
    overlappingSet.get? "b" = some (.ofHost "b") ∧
    (overlappingSet.insert (.ofHost "a")).1 = overlappingSet ∧
    (overlappingSet.insert (.ofHost "c")).2 = .added := by
  have hbuilt : overlappingSet.Built :=
    .extend (.recordMiss _ (.insert _ .empty)) (.recordMiss _ (.insert _ (.insert _ .empty)))
  obtain ⟨hindex, -, -, -, -, hget, hinsert⟩ := represents_entries overlappingSet (.inl hbuilt)
  rw [entries_overlappingSet] at hindex
  simp only [entries_overlappingSet] at hget hinsert
  refine ⟨hbuilt, hindex, (hget _ _).2 (by decide), (hinsert _).2.2 ?_, (hinsert _).1.2 (by decide)⟩
  rw [Ne, (hinsert _).1]
  decide

end ReferenceSet

end UnitFoundry
