import Mathlib.Data.List.Perm.Basic
import UnitFoundry.Proofs.Reference.Merge

/-! # Sets that agree

What is in two sets may be the same or have nothing in common. Sets of which that is true can be
merged in any order: nothing is left out but what is there already, so the merged set has the
members of all of them.

* **`Mergeable.mem_entries_extendAll`**, **`Mergeable.mem_misses_extendAll`**: a member of
  sets that have been merged one after another is a member of one of them.
* **`Mergeable.extendAll_perm`**: merging them in another order gives the same members. -/

namespace UnitFoundry.ReferenceSet

variable {s t u : ReferenceSet} {e : Reference} {m : Miss} {ts ts' : List ReferenceSet}

/-- What has the same name in both sets has the same identity in both, and the other way round. -/
def Compatible (s t : ReferenceSet) : Prop :=
  ∀ e ∈ s.entries, ∀ e' ∈ t.entries, e.name = e'.name ↔ e.identity = e'.identity

/-- Members of the two sets that have anything in common are the same. -/
structure Agrees (s t : ReferenceSet) : Prop where
  /-- Entries with the same name or the same identity. -/
  entries : ∀ e ∈ s.entries, ∀ e' ∈ t.entries, e.name = e'.name ∨ e.identity = e'.identity → e = e'
  /-- Misses of the same unit. -/
  misses : ∀ m ∈ s.misses, ∀ m' ∈ t.misses, m.unit = m'.unit → m = m'

theorem Agrees.symm (h : s.Agrees t) : t.Agrees s where
  entries e he e' he' hsame := (h.entries e' he' e he (hsame.imp Eq.symm Eq.symm)).symm
  misses m hm m' hm' hunit := (h.misses m' hm' m hm hunit.symm).symm

/-! ## Merging one set -/

/-- Merging a set that agrees leaves no entry out. -/
theorem mem_entries_extend (hs : s.Coherent) (ht : t.Coherent) (hst : s.Agrees t) :
    e ∈ (s.extend t).set.entries ↔ e ∈ s.entries ∨ e ∈ t.entries := by
  refine ⟨mem_of_mem_extend ht, ?_⟩
  rw [entries_extend s ht]
  rintro (he | he)
  · exact List.mem_append_left _ he
  · by_cases hnew : s.isNew e = true
    · exact List.mem_append_right _ (List.mem_filter.2 ⟨he, hnew⟩)
    · -- what stands in its place is the entry itself
      rw [isNew_iff hs] at hnew
      push Not at hnew
      obtain ⟨e', he', hsame⟩ := hnew
      have heq : e' = e := hst.entries e' he' e he (or_iff_not_imp_left.2 hsame)
      exact List.mem_append_left _ (heq ▸ he')

/-- Merging a set that agrees leaves no miss out. -/
theorem mem_misses_extend (ht : t.Coherent) (hst : s.Agrees t) :
    m ∈ (s.extend t).set.misses ↔ m ∈ s.misses ∨ m ∈ t.misses := by
  rw [misses_extend s ht, List.mem_append, List.mem_filter]
  constructor
  · exact Or.imp_right And.left
  · rintro (hm | hm)
    · exact Or.inl hm
    · by_cases hnew : s.isNewMiss m = true
      · exact Or.inr ⟨hm, hnew⟩
      · rw [isNewMiss_iff] at hnew
        push Not at hnew
        obtain ⟨m', hm', hunit⟩ := hnew
        exact Or.inl (hst.misses m' hm' m hm hunit ▸ hm')

/-- A merged set agrees with whatever both sets agree with. -/
theorem Agrees.extend (hs : s.Coherent) (ht : t.Coherent) (hst : s.Agrees t) (hsu : s.Agrees u)
    (htu : t.Agrees u) : (s.extend t).set.Agrees u where
  entries e he := ((mem_entries_extend hs ht hst).1 he).elim (hsu.entries e) (htu.entries e)
  misses m hm := ((mem_misses_extend ht hst).1 hm).elim (hsu.misses m) (htu.misses m)

/-! ## Merging sets one after another -/

/-- A set after others have been merged into it one after another. -/
def extendAll (s : ReferenceSet) (ts : List ReferenceSet) : ReferenceSet :=
  ts.foldl (fun s t => (s.extend t).set) s

@[simp] theorem extendAll_nil (s : ReferenceSet) : s.extendAll [] = s := rfl

@[simp] theorem extendAll_cons (s t : ReferenceSet) (ts : List ReferenceSet) :
    s.extendAll (t :: ts) = (s.extend t).set.extendAll ts := rfl

theorem Coherent.extendAll (hs : s.Coherent) (ts : List ReferenceSet) :
    (s.extendAll ts).Coherent :=
  List.foldlRecOn ts _ hs fun _ h t _ => h.extend t

/-- Sets that are coherent and agree, each with the set that they are merged into too. -/
structure Mergeable (s : ReferenceSet) (ts : List ReferenceSet) : Prop where
  /-- The first set is coherent. -/
  first : s.Coherent
  /-- So are the others. -/
  coherent : ∀ t ∈ ts, t.Coherent
  /-- The first set agrees with each of the others. -/
  agrees : ∀ t ∈ ts, s.Agrees t
  /-- The others agree with each other. -/
  pairwise : ts.Pairwise Agrees

namespace Mergeable

/-- Merging the first of the others leaves sets that can be merged. -/
theorem step (h : Mergeable s (t :: ts)) :
    t.Coherent ∧ s.Agrees t ∧ Mergeable (s.extend t).set ts := by
  obtain ⟨ht, hts⟩ := List.forall_mem_cons.1 h.coherent
  obtain ⟨hst, hsts⟩ := List.forall_mem_cons.1 h.agrees
  obtain ⟨htts, hpairwise⟩ := List.pairwise_cons.1 h.pairwise
  exact ⟨ht, hst, h.first.extend t, hts,
    fun u hu => .extend h.first ht hst (hsts u hu) (htts u hu), hpairwise⟩

theorem of_perm (h : Mergeable s ts) (hperm : ts.Perm ts') : Mergeable s ts' where
  first := h.first
  coherent t ht := h.coherent t (hperm.mem_iff.2 ht)
  agrees t ht := h.agrees t (hperm.mem_iff.2 ht)
  pairwise := (hperm.pairwise_iff Agrees.symm).1 h.pairwise

/-- **An entry of sets that have been merged is an entry of one of them.** -/
theorem mem_entries_extendAll (h : Mergeable s ts) :
    e ∈ (s.extendAll ts).entries ↔ e ∈ s.entries ∨ ∃ t ∈ ts, e ∈ t.entries := by
  induction ts generalizing s with
  | nil => simp
  | cons t ts ih =>
      obtain ⟨ht, hst, hrest⟩ := h.step
      rw [extendAll_cons, ih hrest, mem_entries_extend h.first ht hst, or_assoc,
        List.exists_mem_cons_iff]

/-- **A miss of sets that have been merged is a miss of one of them.** -/
theorem mem_misses_extendAll (h : Mergeable s ts) :
    m ∈ (s.extendAll ts).misses ↔ m ∈ s.misses ∨ ∃ t ∈ ts, m ∈ t.misses := by
  induction ts generalizing s with
  | nil => simp
  | cons t ts ih =>
      obtain ⟨ht, hst, hrest⟩ := h.step
      rw [extendAll_cons, ih hrest, mem_misses_extend ht hst, or_assoc, List.exists_mem_cons_iff]

/-- **Merging sets in another order gives the same members.** -/
theorem extendAll_perm (h : Mergeable s ts) (hperm : ts.Perm ts') :
    (s.extendAll ts).entries.Perm (s.extendAll ts').entries ∧
      (s.extendAll ts).misses.Perm (s.extendAll ts').misses := by
  have h' := h.of_perm hperm
  have hcoherent := h.first.extendAll ts
  have hcoherent' := h.first.extendAll ts'
  constructor
  · refine (List.perm_ext_iff_of_nodup hcoherent.nodup_identities.of_map
      hcoherent'.nodup_identities.of_map).2 fun e => ?_
    simp only [h.mem_entries_extendAll, h'.mem_entries_extendAll, hperm.mem_iff]
  · refine (List.perm_ext_iff_of_nodup hcoherent.nodup_misses.of_map
      hcoherent'.nodup_misses.of_map).2 fun m => ?_
    simp only [h.mem_misses_extendAll, h'.mem_misses_extendAll, hperm.mem_iff]

end Mergeable

end UnitFoundry.ReferenceSet
