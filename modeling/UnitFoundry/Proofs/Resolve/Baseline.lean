import Mathlib.Data.List.Induction
import UnitFoundry.Proofs.Resolve.Chain

/-! # The baseline

Every resolution starts from the modules of the host that the configuration names.

* **`Resolver.entries_baseline`**: they are the names of the configuration in order, each where it
  first occurs.
* **`Resolver.coherent_baseline`**: the baseline is coherent. -/

namespace UnitFoundry

namespace Reference

theorem identity_ofHost_inj {a b : String} :
    (ofHost a).identity = (ofHost b).identity ↔ a = b := by
  rw [ofHost, ofHost]
  exact String.append_right_inj "host:"

end Reference

namespace Resolver

/-- Adding modules of the host one by one gives each of them once. -/
theorem foldl_insert_ofHost (names : List String) :
    ((names.map Reference.ofHost).foldl (fun s r => (s.insert r).1) (∅ : ReferenceSet)).Coherent ∧
      ((names.map Reference.ofHost).foldl (fun s r => (s.insert r).1)
        (∅ : ReferenceSet)).entries = names.eraseDups.map Reference.ofHost ∧
      ((names.map Reference.ofHost).foldl (fun s r => (s.insert r).1)
        (∅ : ReferenceSet)).misses = [] := by
  induction names using List.reverseRecOn with
  | nil => exact ⟨.empty, rfl, rfl⟩
  | append_singleton names n ih =>
      rw [List.map_append, List.foldl_append, List.eraseDups_append]
      obtain ⟨hcoherent, hentries, hmisses⟩ := ih
      generalize (names.map Reference.ofHost).foldl (fun s r => (s.insert r).1)
        (∅ : ReferenceSet) = s at hcoherent hentries hmisses
      refine ⟨hcoherent.insert _, ?_, by rw [← hmisses]; exact s.misses_insert _⟩
      have hmem : ∀ e, e ∈ s.entries ↔ ∃ m ∈ names, Reference.ofHost m = e := by
        intro e
        rw [hentries, List.mem_map]
        simp only [List.mem_eraseDups]
      show (s.insert (Reference.ofHost n)).1.entries = _
      by_cases hn : n ∈ names
      · -- the module is there already
        have hpresent : s.containsIdentity (Reference.ofHost n).identity = true :=
          (hcoherent.containsIdentity_iff _).2 ⟨_, (hmem _).2 ⟨n, hn, rfl⟩, rfl⟩
        rw [ReferenceSet.insert_present hpresent, hentries]
        simp [List.removeAll, hn]
      · have habsent : s.containsIdentity (Reference.ofHost n).identity = false := by
          rw [Bool.eq_false_iff]
          intro h
          obtain ⟨e, he, hid⟩ := (hcoherent.containsIdentity_iff _).1 h
          obtain ⟨m, hm, rfl⟩ := (hmem e).1 he
          exact hn (Reference.identity_ofHost_inj.1 hid ▸ hm)
        have hfree : s.get? (Reference.ofHost n).name = none := by
          rw [ReferenceSet.get?_eq_none_iff]
          rintro e he hname
          obtain ⟨m, hm, rfl⟩ := (hmem e).1 he
          have heq : m = n := hname
          exact hn (heq ▸ hm)
        rw [ReferenceSet.insert_added habsent hfree]
        simp [List.removeAll, hn, hentries, List.eraseDups_cons]

theorem baseline_eq_foldl (r : Resolver) : r.baseline =
    (r.config.baseline.map Reference.ofHost).foldl (fun s e => (s.insert e).1) ∅ := by
  rw [baseline, ReferenceSet.ofList, ReferenceSet.Merge.set_foldl_insert]

/-- **The baseline is coherent.** -/
theorem coherent_baseline (r : Resolver) : r.baseline.Coherent := by
  rw [baseline_eq_foldl]
  exact (foldl_insert_ofHost _).1

/-- **The baseline lists the modules of the configuration in order, each where it first occurs.** -/
theorem entries_baseline (r : Resolver) :
    r.baseline.entries = r.config.baseline.eraseDups.map Reference.ofHost := by
  rw [baseline_eq_foldl]
  exact (foldl_insert_ofHost _).2.1

@[simp] theorem misses_baseline (r : Resolver) : r.baseline.misses = [] := by
  rw [baseline_eq_foldl]
  exact (foldl_insert_ofHost _).2.2

theorem mem_entries_baseline {r : Resolver} {e : Reference} :
    e ∈ r.baseline.entries ↔ ∃ n ∈ r.config.baseline, Reference.ofHost n = e := by
  rw [entries_baseline, List.mem_map]
  simp only [List.mem_eraseDups]

/-- The names of the baseline are bound. -/
theorem isSome_get?_baseline {r : Resolver} {n : String} (h : n ∈ r.config.baseline) :
    (r.baseline.get? n).isSome :=
  ReferenceSet.isSome_get?_iff.2 ⟨_, mem_entries_baseline.2 ⟨n, h, rfl⟩, rfl⟩

end Resolver

end UnitFoundry
