import Mathlib.Data.List.Nodup
import UnitFoundry.Reference.Set

/-! # Coherence of reference sets

A reference set is *coherent* when its index tells the identities of its entries and nothing in it
stands twice: no identity, no name and no missed unit. The operations keep this, and they only ever
add at the end.

* **`ReferenceSet.insert_cases`**: everything that adding one reference can do.
* **`ReferenceSet.extend_induction`**: what adding references and recording misses keeps, merging
  keeps.
* **`ReferenceSet.Built.coherent`**: every set that the operations build is coherent. -/

namespace UnitFoundry.ReferenceSet

variable {s t u : ReferenceSet} {r e : Reference} {n : String}

/-! ## Entries by name -/

theorem isSome_get?_iff : (s.get? n).isSome ↔ ∃ e ∈ s.entries, e.name = n := by
  rw [get?, List.find?_isSome]
  simp only [decide_eq_true_eq]

theorem get?_eq_none_iff : s.get? n = none ↔ ∀ e ∈ s.entries, e.name ≠ n := by
  rw [get?, List.find?_eq_none]
  simp only [decide_eq_true_eq, ne_eq]

theorem mem_of_get?_eq_some (h : s.get? n = some e) : e ∈ s.entries :=
  List.mem_of_find?_eq_some h

theorem name_of_get?_eq_some (h : s.get? n = some e) : e.name = n :=
  Reference.name_of_find?_eq_some h

/-- Where names are distinct, an entry is what its name stands for. -/
theorem get?_eq_some_of_mem (hs : s.names.Nodup) (h : e ∈ s.entries) :
    s.get? e.name = some e := by
  have hsome : (s.get? e.name).isSome := isSome_get?_iff.2 ⟨e, h, rfl⟩
  obtain ⟨e', he'⟩ := Option.isSome_iff_exists.1 hsome
  have heq : e' = e :=
    List.inj_on_of_nodup_map hs (mem_of_get?_eq_some he') h (name_of_get?_eq_some he')
  rw [he', heq]

/-! ## Adding one reference -/

/-- **What adding a reference does**: nothing if its identity is present, nothing if its name is
taken, and otherwise it becomes the last entry. -/
theorem insert_cases (s : ReferenceSet) (r : Reference) :
    (s.containsIdentity r.identity = true ∧ s.insert r = (s, .present)) ∨
    (∃ holder, s.containsIdentity r.identity = false ∧ s.get? r.name = some holder ∧
      s.insert r = (s, .nameTaken holder)) ∨
    (s.containsIdentity r.identity = false ∧ s.get? r.name = none ∧
      s.insert r =
        ({ s with entries := s.entries ++ [r], index := s.index.insert r.identity }, .added)) := by
  cases hi : s.containsIdentity r.identity with
  | true => exact Or.inl ⟨rfl, insert_present hi⟩
  | false =>
      cases hn : s.get? r.name with
      | some holder => exact Or.inr (Or.inl ⟨holder, rfl, rfl, insert_nameTaken hi hn⟩)
      | none => exact Or.inr (Or.inr ⟨rfl, rfl, insert_added hi hn⟩)

@[simp] theorem misses_insert (s : ReferenceSet) (r : Reference) :
    (s.insert r).1.misses = s.misses := by
  obtain ⟨-, h⟩ | ⟨_, -, -, h⟩ | ⟨-, -, h⟩ := insert_cases s r <;> rw [h]

@[simp] theorem entries_recordMiss (s : ReferenceSet) (m : Miss) :
    (s.recordMiss m).entries = s.entries := by
  rw [recordMiss]
  split <;> rfl

@[simp] theorem index_recordMiss (s : ReferenceSet) (m : Miss) :
    (s.recordMiss m).index = s.index := by
  rw [recordMiss]
  split <;> rfl

@[simp] theorem get?_recordMiss (s : ReferenceSet) (m : Miss) (n : String) :
    (s.recordMiss m).get? n = s.get? n := by
  rw [get?, entries_recordMiss, get?]

/-- A unit is on record once its miss has been recorded. -/
theorem exists_mem_misses_recordMiss (s : ReferenceSet) (m : Miss) :
    ∃ m' ∈ (s.recordMiss m).misses, m'.unit = m.unit := by
  rw [recordMiss]
  split
  · rename_i h
    simpa only [List.any_eq_true, decide_eq_true_eq] using h
  · exact ⟨m, List.mem_append_right _ List.mem_cons_self, rfl⟩

/-- Recording a miss puts no other miss on record. -/
theorem mem_misses_of_mem_recordMiss {m m' : Miss} (h : m' ∈ (s.recordMiss m).misses) :
    m' ∈ s.misses ∨ m' = m := by
  rw [recordMiss] at h
  split at h
  · exact Or.inl h
  · exact (List.mem_append.1 h).imp_right List.mem_singleton.1

/-! ## Growth -/

/-- One set grows into another: entries and misses are added at the end. -/
structure Grows (s t : ReferenceSet) : Prop where
  /-- The entries stay and keep their places. -/
  entries : s.entries <+: t.entries
  /-- The misses stay and keep their places. -/
  misses : s.misses <+: t.misses

namespace Grows

theorem refl (s : ReferenceSet) : s.Grows s :=
  ⟨List.prefix_rfl, List.prefix_rfl⟩

theorem trans (h : s.Grows t) (h' : t.Grows u) : s.Grows u :=
  ⟨h.entries.trans h'.entries, h.misses.trans h'.misses⟩

theorem insert (s : ReferenceSet) (r : Reference) : s.Grows (s.insert r).1 := by
  obtain ⟨-, h⟩ | ⟨_, -, -, h⟩ | ⟨-, -, h⟩ := insert_cases s r
  · rw [h]
    exact refl s
  · rw [h]
    exact refl s
  · rw [h]
    exact ⟨List.prefix_append _ _, List.prefix_rfl⟩

theorem recordMiss (s : ReferenceSet) (m : Miss) : s.Grows (s.recordMiss m) := by
  refine ⟨⟨[], ?_⟩, ?_⟩
  · rw [List.append_nil, entries_recordMiss]
  · rw [ReferenceSet.recordMiss]
    split
    · exact List.prefix_rfl
    · exact List.prefix_append _ _

theorem mem (h : s.Grows t) (he : e ∈ s.entries) : e ∈ t.entries :=
  h.entries.subset he

theorem mem_misses (h : s.Grows t) {m : Miss} (hm : m ∈ s.misses) : m ∈ t.misses :=
  h.misses.subset hm

/-- What a name stands for does not change while a set grows. -/
theorem get?_eq_some (h : s.Grows t) (hget : s.get? n = some e) : t.get? n = some e := by
  obtain ⟨rest, hrest⟩ := h.entries
  rw [get?] at hget
  rw [get?, ← hrest, List.find?_append, hget, Option.some_or]

/-- A name that is bound stays bound. -/
theorem isSome_get? (h : s.Grows t) (hn : (s.get? n).isSome) : (t.get? n).isSome := by
  obtain ⟨e, he, hen⟩ := isSome_get?_iff.1 hn
  exact isSome_get?_iff.2 ⟨e, h.mem he, hen⟩

end Grows

/-! ## Merging -/

@[simp] theorem Merge.set_insert (m : Merge) (r : Reference) :
    (m.insert r).set = (m.set.insert r).1 := by
  unfold Merge.insert
  split <;> simp [*]

theorem Merge.set_foldl_insert (rs : List Reference) (m : Merge) :
    (rs.foldl Merge.insert m).set = rs.foldl (fun s r => (s.insert r).1) m.set := by
  induction rs generalizing m with
  | nil => rfl
  | cons r rs ih => rw [List.foldl_cons, List.foldl_cons, ih, Merge.set_insert]

/-- **What adding references and recording misses keeps, merging keeps.** -/
theorem extend_induction {P : ReferenceSet → Prop} (hs : P s)
    (hinsert : ∀ u, ∀ r ∈ t.entries, P u → P (u.insert r).1)
    (hmiss : ∀ u, ∀ m ∈ t.misses, P u → P (u.recordMiss m)) : P (s.extend t).set := by
  show P (t.misses.foldl ReferenceSet.recordMiss (t.entries.foldl Merge.insert { set := s }).set)
  rw [Merge.set_foldl_insert]
  refine List.foldlRecOn _ _ (List.foldlRecOn _ _ hs ?_) ?_
  · exact fun u hu r hr => hinsert u r hr hu
  · exact fun u hu m hm => hmiss u m hm hu

theorem Grows.extend (s t : ReferenceSet) : s.Grows (s.extend t).set :=
  extend_induction (P := s.Grows) (refl s) (fun u r _ h => h.trans (Grows.insert u r))
    fun u m _ h => h.trans (Grows.recordMiss u m)

/-! ## Coherence -/

/-- The index tells the identities of the entries, and nothing stands twice. -/
structure Coherent (s : ReferenceSet) : Prop where
  /-- The index holds exactly the identities of the entries. -/
  containsIdentity_iff : ∀ i, s.containsIdentity i = true ↔ ∃ e ∈ s.entries, e.identity = i
  /-- No two entries have the same identity. -/
  nodup_identities : (s.entries.map (·.identity)).Nodup
  /-- No two entries have the same name. -/
  nodup_names : s.names.Nodup
  /-- No unit is missed twice. -/
  nodup_misses : (s.misses.map (·.unit)).Nodup

namespace Coherent

theorem empty : Coherent ∅ where
  containsIdentity_iff i := by
    show (∅ : Std.HashSet String).contains i = true ↔ ∃ e ∈ ([] : List Reference), e.identity = i
    simp
  nodup_identities := List.nodup_nil
  nodup_names := List.nodup_nil
  nodup_misses := List.nodup_nil

theorem containsIdentity_eq_false (hs : s.Coherent) {i : String}
    (h : s.containsIdentity i = false) : ∀ e ∈ s.entries, e.identity ≠ i := by
  intro e he hei
  have htrue := (hs.containsIdentity_iff i).2 ⟨e, he, hei⟩
  rw [h] at htrue
  exact Bool.false_ne_true htrue

theorem insert (hs : s.Coherent) (r : Reference) : (s.insert r).1.Coherent := by
  obtain ⟨-, h⟩ | ⟨_, -, -, h⟩ | ⟨hi, hn, h⟩ := insert_cases s r
  · rwa [h]
  · rwa [h]
  · rw [h]
    have hid : ∀ e ∈ s.entries, e.identity ≠ r.identity := hs.containsIdentity_eq_false hi
    have hname : ∀ e ∈ s.entries, e.name ≠ r.name := get?_eq_none_iff.1 hn
    refine ⟨fun i => ?_, ?_, ?_, hs.nodup_misses⟩
    · have hold := hs.containsIdentity_iff i
      rw [containsIdentity] at hold
      simp only [containsIdentity, Std.HashSet.contains_insert, Bool.or_eq_true, beq_iff_eq, hold,
        List.mem_append, List.mem_singleton]
      constructor
      · rintro (hr | ⟨e, he, hei⟩)
        · exact ⟨r, Or.inr rfl, hr⟩
        · exact ⟨e, Or.inl he, hei⟩
      · rintro ⟨e, he | rfl, hei⟩
        · exact Or.inr ⟨e, he, hei⟩
        · exact Or.inl hei
    · rw [List.map_append]
      -- the identity is new
      refine hs.nodup_identities.append (List.nodup_singleton _) ?_
      rintro i hmem hlast
      obtain ⟨e, he, rfl⟩ := List.mem_map.1 hmem
      exact hid e he (List.mem_singleton.1 hlast)
    · show ((s.entries ++ [r]).map (·.name)).Nodup
      rw [List.map_append]
      -- and so is the name
      refine List.Nodup.append hs.nodup_names (List.nodup_singleton _) ?_
      rintro n hmem hlast
      obtain ⟨e, he, rfl⟩ := List.mem_map.1 hmem
      exact hname e he (List.mem_singleton.1 hlast)

theorem recordMiss (hs : s.Coherent) (m : Miss) : (s.recordMiss m).Coherent := by
  have hentries := entries_recordMiss s m
  refine ⟨fun i => ?_, by rw [hentries]; exact hs.nodup_identities, ?_, ?_⟩
  · rw [containsIdentity, index_recordMiss, hentries]
    exact hs.containsIdentity_iff i
  · rw [names, hentries]
    exact hs.nodup_names
  · rw [ReferenceSet.recordMiss]
    split
    · exact hs.nodup_misses
    · rename_i hany
      rw [List.map_append]
      refine hs.nodup_misses.append (List.nodup_singleton _) ?_
      intro n hmem hlast
      obtain ⟨m', hm', rfl⟩ := List.mem_map.1 hmem
      -- a second miss of the unit would not have been recorded
      refine hany (List.any_eq_true.2 ⟨m', hm', ?_⟩)
      rw [decide_eq_true_eq]
      exact List.mem_singleton.1 hlast

theorem extend (hs : s.Coherent) (t : ReferenceSet) : (s.extend t).set.Coherent :=
  extend_induction (P := Coherent) hs (fun _ r _ h => h.insert r) fun _ m _ h => h.recordMiss m

end Coherent

/-! ## Sets that the operations build -/

/-- The sets that come of the empty one by adding references, recording misses and merging. -/
inductive Built : ReferenceSet → Prop where
  /-- The empty set. -/
  | empty : Built ∅
  /-- A set after a reference has been added. -/
  | insert {s : ReferenceSet} (r : Reference) : Built s → Built (s.insert r).1
  /-- A set after a miss has been recorded. -/
  | recordMiss {s : ReferenceSet} (m : Miss) : Built s → Built (s.recordMiss m)
  /-- A set after another one has been merged into it. -/
  | extend {s t : ReferenceSet} : Built s → Built t → Built (s.extend t).set

/-- **Every set that the operations build is coherent.** -/
theorem Built.coherent (h : s.Built) : s.Coherent := by
  induction h with
  | empty => exact Coherent.empty
  | insert r _ ih => exact ih.insert r
  | recordMiss m _ ih => exact ih.recordMiss m
  | @extend _ t _ _ ih _ => exact ih.extend t

end UnitFoundry.ReferenceSet
