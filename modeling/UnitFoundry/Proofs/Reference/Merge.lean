import UnitFoundry.Proofs.Reference.Coherence

/-! # The closed form of merging

Merging adds the entries of the other set one by one. Where nothing stands twice in the other set,
whether an entry is added depends only on the set as it was before the merge.

* **`ReferenceSet.entries_extend`**: the entries whose identity and whose name are both new are
  added, in their order.
* **`ReferenceSet.misses_extend`**: the misses of units that are not on record are added.
* **`ReferenceSet.mem_warnings_extend_iff`**: the entries that are left out for their names.
* **`ReferenceSet.extend_of_present`**, **`ReferenceSet.extend_of_not_isNew`**: a set that brings
  nothing new changes nothing.
* **`ReferenceSet.extend_appends`**: all that merging does, once and again. -/

namespace UnitFoundry.ReferenceSet

variable {s t : ReferenceSet} {r e : Reference} {n : String}

/-- Whether neither the identity nor the name of a reference is present. -/
def isNew (s : ReferenceSet) (e : Reference) : Bool :=
  !s.containsIdentity e.identity && (s.get? e.name).isNone

/-- Whether no miss of the unit is on record. -/
def isNewMiss (s : ReferenceSet) (m : Miss) : Bool :=
  !s.misses.any (·.unit = m.unit)

theorem isNew_iff (hs : s.Coherent) :
    s.isNew e = true ↔ ∀ e' ∈ s.entries, e'.name ≠ e.name ∧ e'.identity ≠ e.identity := by
  rw [isNew, Bool.and_eq_true, Bool.not_eq_true', Option.isNone_iff_eq_none, get?_eq_none_iff]
  constructor
  · rintro ⟨hid, hname⟩ e' he'
    exact ⟨hname e' he', hs.containsIdentity_eq_false hid e' he'⟩
  · intro hall
    refine ⟨Bool.eq_false_iff.2 fun hcontains => ?_, fun e' he' => (hall e' he').1⟩
    obtain ⟨e', he', hid⟩ := (hs.containsIdentity_iff _).1 hcontains
    exact (hall e' he').2 hid

theorem isNewMiss_iff {m : Miss} : s.isNewMiss m = true ↔ ∀ m' ∈ s.misses, m'.unit ≠ m.unit := by
  simp [isNewMiss]

/-- Adding a reference does not change whether another identity is present. -/
theorem containsIdentity_insert {i : String} (h : r.identity ≠ i) :
    (s.insert r).1.containsIdentity i = s.containsIdentity i := by
  obtain ⟨-, h'⟩ | ⟨_, -, -, h'⟩ | ⟨-, -, h'⟩ := insert_cases s r
  · rw [h']
  · rw [h']
  · rw [h', containsIdentity, containsIdentity, Std.HashSet.contains_insert, beq_false_of_ne h,
      Bool.false_or]

/-- Adding a reference does not change what another name stands for. -/
theorem get?_insert (h : r.name ≠ n) : (s.insert r).1.get? n = s.get? n := by
  obtain ⟨-, h'⟩ | ⟨_, -, -, h'⟩ | ⟨-, -, h'⟩ := insert_cases s r
  · rw [h']
  · rw [h']
  · rw [h', get?, get?, List.find?_append, List.find?_cons_of_neg (by simpa using h),
      List.find?_nil, Option.or_none]

/-- Adding another reference does not change whether a reference is new. -/
theorem isNew_insert (hid : r.identity ≠ e.identity) (hname : r.name ≠ e.name) :
    (s.insert r).1.isNew e = s.isNew e := by
  rw [isNew, isNew, containsIdentity_insert hid, get?_insert hname]

theorem entries_insert (s : ReferenceSet) (r : Reference) :
    (s.insert r).1.entries = s.entries ++ [r].filter s.isNew := by
  obtain ⟨hi, h⟩ | ⟨_, hi, hn, h⟩ | ⟨hi, hn, h⟩ := insert_cases s r
  · simp [h, isNew, hi]
  · simp [h, isNew, hn]
  · simp [h, isNew, hi, hn]

theorem misses_recordMiss (s : ReferenceSet) (m : Miss) :
    (s.recordMiss m).misses = s.misses ++ [m].filter s.isNewMiss := by
  rw [recordMiss]
  cases hany : s.misses.any (·.unit = m.unit) with
  | true => simp [isNewMiss, hany]
  | false => simp [isNewMiss, hany]

theorem entries_foldl_insert {rs : List Reference} (hids : (rs.map (·.identity)).Nodup)
    (hnames : (rs.map (·.name)).Nodup) (s : ReferenceSet) :
    (rs.foldl (fun s r => (s.insert r).1) s).entries = s.entries ++ rs.filter s.isNew := by
  induction rs generalizing s with
  | nil => rw [List.foldl_nil, List.filter_nil, List.append_nil]
  | cons r rs ih =>
      rw [List.map_cons, List.nodup_cons] at hids hnames
      -- nothing after `r` has its identity or its name, so `r` does not decide on it
      have hsame : rs.filter (s.insert r).1.isNew = rs.filter s.isNew := by
        refine List.filter_congr fun e he => isNew_insert ?_ ?_
        · exact fun heq => hids.1 (heq ▸ List.mem_map_of_mem he)
        · exact fun heq => hnames.1 (heq ▸ List.mem_map_of_mem he)
      rw [List.foldl_cons, ih hids.2 hnames.2, hsame, entries_insert, List.append_assoc,
        ← List.filter_append, List.singleton_append]

theorem misses_foldl_recordMiss {ms : List Miss} (hms : (ms.map (·.unit)).Nodup)
    (s : ReferenceSet) :
    (ms.foldl recordMiss s).misses = s.misses ++ ms.filter s.isNewMiss := by
  induction ms generalizing s with
  | nil => rw [List.foldl_nil, List.filter_nil, List.append_nil]
  | cons m ms ih =>
      rw [List.map_cons, List.nodup_cons] at hms
      have hsame : ms.filter (s.recordMiss m).isNewMiss = ms.filter s.isNewMiss := by
        refine List.filter_congr fun m' hm' => ?_
        have hne : m.unit ≠ m'.unit := fun heq => hms.1 (heq ▸ List.mem_map_of_mem hm')
        rw [isNewMiss, isNewMiss, recordMiss]
        split
        · rfl
        · simp [hne]
      rw [List.foldl_cons, ih hms.2, hsame, misses_recordMiss, List.append_assoc,
        ← List.filter_append, List.singleton_append]

@[simp] theorem entries_foldl_recordMiss (s : ReferenceSet) (ms : List Miss) :
    (ms.foldl recordMiss s).entries = s.entries := by
  induction ms generalizing s with
  | nil => rfl
  | cons m ms ih => rw [List.foldl_cons, ih, entries_recordMiss]

@[simp] theorem misses_foldl_insert (s : ReferenceSet) (rs : List Reference) :
    (rs.foldl (fun s r => (s.insert r).1) s).misses = s.misses := by
  induction rs generalizing s with
  | nil => rfl
  | cons r rs ih => rw [List.foldl_cons, ih, misses_insert]

theorem set_extend (s t : ReferenceSet) : (s.extend t).set =
    t.misses.foldl recordMiss (t.entries.foldl (fun s r => (s.insert r).1) s) := by
  show t.misses.foldl recordMiss (t.entries.foldl Merge.insert { set := s }).set = _
  rw [Merge.set_foldl_insert]

/-- **Merging adds the entries whose identity and whose name are both new.** -/
theorem entries_extend (s : ReferenceSet) (ht : t.Coherent) :
    (s.extend t).set.entries = s.entries ++ t.entries.filter s.isNew := by
  rw [set_extend, entries_foldl_recordMiss]
  exact entries_foldl_insert ht.nodup_identities ht.nodup_names s

/-- **Merging adds the misses of units that are not on record.** -/
theorem misses_extend (s : ReferenceSet) (ht : t.Coherent) :
    (s.extend t).set.misses = s.misses ++ t.misses.filter s.isNewMiss := by
  rw [set_extend, misses_foldl_recordMiss ht.nodup_misses, misses_foldl_insert]
  congr 1
  refine List.filter_congr fun m _ => ?_
  rw [isNewMiss, isNewMiss, misses_foldl_insert]

/-! ## How many entries are added -/

/-- A merge counts each reference that it adds. -/
theorem Merge.size_insert (m : Merge) (r : Reference) :
    (m.insert r).set.size + m.added = m.set.size + (m.insert r).added := by
  obtain ⟨-, h⟩ | ⟨holder, -, -, h⟩ | ⟨-, -, h⟩ := insert_cases m.set r
  · rw [Merge.insert, h]
  · rw [Merge.insert, h]
  · rw [Merge.insert, h]
    simp only [size, List.length_append, List.length_singleton]
    omega

theorem Merge.size_foldl_insert (rs : List Reference) (m : Merge) :
    (rs.foldl Merge.insert m).set.size + m.added =
      m.set.size + (rs.foldl Merge.insert m).added := by
  induction rs generalizing m with
  | nil => rfl
  | cons r rs ih =>
      have hfirst := m.size_insert r
      have hrest := ih (m.insert r)
      rw [List.foldl_cons]
      omega

/-- **Merging counts what it adds.** -/
theorem size_extend (s t : ReferenceSet) : (s.extend t).set.size = s.size + (s.extend t).added := by
  have hcount := Merge.size_foldl_insert t.entries { set := s }
  rw [Nat.add_zero] at hcount
  rw [size, extend, entries_foldl_recordMiss]
  exact hcount

/-! ## What is left out for its name -/

/-- What is noted of a reference whose identity is new, if its name is taken. -/
def nameTaken? (s : ReferenceSet) (e : Reference) : Option NameTaken :=
  if s.containsIdentity e.identity then none else (s.get? e.name).map (⟨e, ·⟩)

theorem nameTaken?_eq_some_iff {w : NameTaken} : s.nameTaken? e = some w ↔
    s.containsIdentity e.identity = false ∧ w.reference = e ∧ s.get? e.name = some w.holder := by
  obtain ⟨reference, holder⟩ := w
  rw [nameTaken?]
  cases s.containsIdentity e.identity with
  | true => simp
  | false =>
      rw [if_neg Bool.false_ne_true, Option.map_eq_some_iff]
      constructor
      · rintro ⟨holder', hget, heq⟩
        obtain ⟨rfl, rfl⟩ := NameTaken.mk.inj heq
        exact ⟨rfl, rfl, hget⟩
      · rintro ⟨-, rfl, hget⟩
        exact ⟨holder, hget, rfl⟩

/-- Adding another reference does not change whether the name of a reference is taken. -/
theorem nameTaken?_insert (hid : r.identity ≠ e.identity) (hname : r.name ≠ e.name) :
    (s.insert r).1.nameTaken? e = s.nameTaken? e := by
  rw [nameTaken?, nameTaken?, containsIdentity_insert hid, get?_insert hname]

theorem Merge.warnings_insert (m : Merge) (r : Reference) :
    (m.insert r).warnings = m.warnings ++ (m.set.nameTaken? r).toList := by
  obtain ⟨hi, h⟩ | ⟨_, hi, hn, h⟩ | ⟨hi, hn, h⟩ := insert_cases m.set r
  · simp [Merge.insert, h, nameTaken?, hi]
  · simp [Merge.insert, h, nameTaken?, hi, hn]
  · simp [Merge.insert, h, nameTaken?, hi, hn]

theorem Merge.warnings_foldl_insert {rs : List Reference} (hids : (rs.map (·.identity)).Nodup)
    (hnames : (rs.map (·.name)).Nodup) (m : Merge) :
    (rs.foldl Merge.insert m).warnings = m.warnings ++ rs.filterMap m.set.nameTaken? := by
  induction rs generalizing m with
  | nil => rw [List.foldl_nil, List.filterMap_nil, List.append_nil]
  | cons r rs ih =>
      rw [List.map_cons, List.nodup_cons] at hids hnames
      have hsame : rs.filterMap (m.insert r).set.nameTaken? =
          rs.filterMap m.set.nameTaken? := by
        refine List.filterMap_congr fun e he => ?_
        rw [Merge.set_insert]
        exact nameTaken?_insert (fun heq => hids.1 (heq ▸ List.mem_map_of_mem he))
          fun heq => hnames.1 (heq ▸ List.mem_map_of_mem he)
      rw [List.foldl_cons, ih hids.2 hnames.2, hsame, Merge.warnings_insert, List.append_assoc]
      congr 1
      cases h : m.set.nameTaken? r <;> simp [h]

/-- **A merge notes the entries whose identity is new and whose name is taken**, and no others. -/
theorem mem_warnings_extend_iff (s : ReferenceSet) (ht : t.Coherent) {w : NameTaken} :
    w ∈ (s.extend t).warnings ↔ w.reference ∈ t.entries ∧
      s.containsIdentity w.reference.identity = false ∧
        s.get? w.reference.name = some w.holder := by
  have hwarnings : (s.extend t).warnings = t.entries.filterMap s.nameTaken? := by
    rw [extend]
    exact (Merge.warnings_foldl_insert ht.nodup_identities ht.nodup_names _).trans
      (List.nil_append _)
  rw [hwarnings, List.mem_filterMap]
  constructor
  · rintro ⟨e, he, hw⟩
    obtain ⟨hid, rfl, hget⟩ := nameTaken?_eq_some_iff.1 hw
    exact ⟨he, hid, hget⟩
  · rintro ⟨he, hid, hget⟩
    exact ⟨w.reference, he, nameTaken?_eq_some_iff.2 ⟨hid, rfl, hget⟩⟩

/-- After a merge, each entry of the other set has its name bound or its identity present. -/
theorem bound_or_present_of_mem (hs : s.Coherent) (ht : t.Coherent) (he : e ∈ t.entries) :
    ((s.extend t).set.get? e.name).isSome ∨
      ∃ e' ∈ s.entries, e'.identity = e.identity := by
  cases hi : s.containsIdentity e.identity with
  | true => exact Or.inr ((hs.containsIdentity_iff _).1 hi)
  | false =>
      left
      cases hn : s.get? e.name with
      | some holder =>
          exact (Grows.extend s t).isSome_get? (Option.isSome_iff_exists.2 ⟨holder, hn⟩)
      | none =>
          have hnew : s.isNew e = true := by rw [isNew, hi, hn]; rfl
          refine isSome_get?_iff.2 ⟨e, ?_, rfl⟩
          rw [entries_extend s ht]
          exact List.mem_append_right _ (List.mem_filter.2 ⟨he, hnew⟩)

/-- **What becomes of an entry of the other set**: it is there, or its identity was there before, or
it is left out because its name is taken. -/
theorem mem_or_present_or_leftOut (hs : s.Coherent) (ht : t.Coherent) (he : e ∈ t.entries) :
    (∃ e' ∈ (s.extend t).set.entries, e'.identity = e.identity) ∨
      ∃ w ∈ (s.extend t).warnings, w.reference = e := by
  cases hi : s.containsIdentity e.identity with
  | true =>
      obtain ⟨e', he', hid⟩ := (hs.containsIdentity_iff _).1 hi
      exact Or.inl ⟨e', (Grows.extend s t).mem he', hid⟩
  | false =>
      cases hn : s.get? e.name with
      | some holder =>
          exact Or.inr ⟨⟨e, holder⟩, (mem_warnings_extend_iff s ht).2 ⟨he, hi, hn⟩, rfl⟩
      | none =>
          have hnew : s.isNew e = true := by rw [isNew, hi, hn]; rfl
          refine Or.inl ⟨e, ?_, rfl⟩
          rw [entries_extend s ht]
          exact List.mem_append_right _ (List.mem_filter.2 ⟨he, hnew⟩)

/-- After a merge, each unit that the other set misses is on record. -/
theorem exists_miss_of_mem (s : ReferenceSet) (ht : t.Coherent) {m : Miss} (hm : m ∈ t.misses) :
    ∃ m' ∈ (s.extend t).set.misses, m'.unit = m.unit := by
  rw [misses_extend s ht]
  cases hnew : s.isNewMiss m with
  | true => exact ⟨m, List.mem_append_right _ (List.mem_filter.2 ⟨hm, hnew⟩), rfl⟩
  | false =>
      rw [isNewMiss, Bool.not_eq_false', List.any_eq_true] at hnew
      obtain ⟨m', hm', heq⟩ := hnew
      exact ⟨m', List.mem_append_left _ hm', of_decide_eq_true heq⟩

/-- A merge has no entries but those of the two sets. -/
theorem mem_of_mem_extend (ht : t.Coherent) (he : e ∈ (s.extend t).set.entries) :
    e ∈ s.entries ∨ e ∈ t.entries := by
  rw [entries_extend s ht] at he
  exact (List.mem_append.1 he).imp_right fun h => (List.mem_filter.1 h).1

/-! ## Merging a set that brings nothing -/

/-- Recording misses of units that are on record changes nothing. -/
theorem foldl_recordMiss_of_present {ms : List Miss}
    (hms : ∀ m ∈ ms, ∃ m' ∈ s.misses, m'.unit = m.unit) : ms.foldl recordMiss s = s := by
  refine List.foldlRecOn ms recordMiss (motive := fun u => u = s) rfl ?_
  rintro u rfl m hm
  obtain ⟨m', hm', hunit⟩ := hms m hm
  rw [recordMiss, if_pos (List.any_eq_true.2 ⟨m', hm', decide_eq_true hunit⟩)]

/-- **Merging a set whose identities and missed units are all there** changes nothing, and nothing
counts as new. -/
theorem extend_of_present (hentries : ∀ e ∈ t.entries, s.containsIdentity e.identity = true)
    (hmisses : ∀ m ∈ t.misses, ∃ m' ∈ s.misses, m'.unit = m.unit) :
    s.extend t = { set := s } := by
  have hinsert : t.entries.foldl Merge.insert { set := s } = { set := s } := by
    refine List.foldlRecOn t.entries Merge.insert
      (motive := fun m : Merge => m = { set := s }) rfl ?_
    rintro m rfl e he
    rw [Merge.insert, insert_present (hentries e he)]
  rw [extend, hinsert]
  dsimp only
  rw [foldl_recordMiss_of_present hmisses]

/-- A reference that is not new is left out. -/
theorem Merge.insert_of_not_isNew {m : Merge} (h : m.set.isNew e = false) :
    (m.insert e).set = m.set ∧ (m.insert e).added = m.added := by
  obtain ⟨-, hinsert⟩ | ⟨holder, -, -, hinsert⟩ | ⟨hi, hn, -⟩ := insert_cases m.set e
  · rw [Merge.insert, hinsert]
    exact ⟨rfl, rfl⟩
  · rw [Merge.insert, hinsert]
    exact ⟨rfl, rfl⟩
  · rw [isNew, hi, hn] at h
    exact Bool.noConfusion h

/-- **Merging a set of which nothing is new** changes nothing, and nothing counts as new. -/
theorem extend_of_not_isNew (hentries : ∀ e ∈ t.entries, s.isNew e = false)
    (hmisses : ∀ m ∈ t.misses, ∃ m' ∈ s.misses, m'.unit = m.unit) :
    (s.extend t).set = s ∧ (s.extend t).added = 0 := by
  have hinsert : (t.entries.foldl Merge.insert { set := s }).set = s ∧
      (t.entries.foldl Merge.insert { set := s }).added = 0 := by
    refine List.foldlRecOn t.entries Merge.insert
      (motive := fun m : Merge => m.set = s ∧ m.added = 0) ⟨rfl, rfl⟩ ?_
    rintro m ⟨hset, hadded⟩ e he
    have hold : m.set.isNew e = false := by rw [hset, hentries e he]
    obtain ⟨hset', hadded'⟩ := Merge.insert_of_not_isNew hold
    exact ⟨hset'.trans hset, hadded'.trans hadded⟩
  rw [extend]
  dsimp only
  rw [hinsert.1]
  exact ⟨foldl_recordMiss_of_present hmisses, hinsert.2⟩

/-- After a merge, nothing of the other set is new. -/
theorem isNew_extend (hs : s.Coherent) (ht : t.Coherent) (he : e ∈ t.entries) :
    (s.extend t).set.isNew e = false := by
  rw [Bool.eq_false_iff, Ne, isNew_iff (hs.extend t)]
  intro hall
  obtain hbound | ⟨e', he', hid⟩ := bound_or_present_of_mem hs ht he
  · obtain ⟨e', he', hname⟩ := isSome_get?_iff.1 hbound
    exact (hall e' he').1 hname
  · exact (hall e' ((Grows.extend s t).mem he')).2 hid

/-- Merging a set into one that it has grown into changes nothing, and nothing counts as new. -/
theorem extend_of_grows (ht : t.Coherent) (hst : s.Grows t) : t.extend s = { set := t } :=
  extend_of_present (fun e he => (ht.containsIdentity_iff _).2 ⟨e, hst.mem he, rfl⟩)
    fun m hm => ⟨m, hst.mem_misses hm, rfl⟩

/-! ## Merging a set into one that it has grown from -/

/-- **Merging a set into one that it has grown from** gives its entries. -/
theorem entries_extend_of_grows (hs : s.Coherent) (ht : t.Coherent) (hst : s.Grows t) :
    (s.extend t).set.entries = t.entries := by
  obtain ⟨rest, hrest⟩ := hst.entries
  have hids := ht.nodup_identities
  have hnames := ht.nodup_names
  rw [names, ← hrest, List.map_append] at hnames
  rw [← hrest, List.map_append] at hids
  -- what the set had is not new to it, and what has been added since is
  have hold : s.entries.filter s.isNew = [] := by
    rw [List.filter_eq_nil_iff]
    intro e he hnew
    rw [isNew, (hs.containsIdentity_iff _).2 ⟨e, he, rfl⟩] at hnew
    exact Bool.false_ne_true hnew
  have hnew : rest.filter s.isNew = rest := by
    rw [List.filter_eq_self]
    intro e he
    have hid : s.containsIdentity e.identity = false := by
      rw [Bool.eq_false_iff]
      intro h
      obtain ⟨e', he', hee⟩ := (hs.containsIdentity_iff _).1 h
      exact (List.nodup_append.1 hids).2.2 _ (List.mem_map_of_mem he') _
        (List.mem_map_of_mem he) hee
    have hname : s.get? e.name = none := get?_eq_none_iff.2 fun e' he' =>
      (List.nodup_append.1 hnames).2.2 _ (List.mem_map_of_mem he') _ (List.mem_map_of_mem he)
    rw [isNew, hid, hname]
    rfl
  rw [entries_extend s ht, ← hrest, List.filter_append, hold, hnew, List.nil_append]

/-- Merging a set into one that it has grown from gives its misses. -/
theorem misses_extend_of_grows (ht : t.Coherent) (hst : s.Grows t) :
    (s.extend t).set.misses = t.misses := by
  obtain ⟨rest, hrest⟩ := hst.misses
  have hunits := ht.nodup_misses
  rw [← hrest, List.map_append] at hunits
  have hold : s.misses.filter s.isNewMiss = [] := by
    rw [List.filter_eq_nil_iff]
    intro m hm hnew
    rw [isNewMiss, List.any_eq_true.2 ⟨m, hm, decide_eq_true rfl⟩] at hnew
    exact Bool.false_ne_true hnew
  have hnew : rest.filter s.isNewMiss = rest := by
    rw [List.filter_eq_self]
    intro m hm
    rw [isNewMiss, Bool.not_eq_true', Bool.eq_false_iff]
    intro h
    obtain ⟨m', hm', hmm⟩ := List.any_eq_true.1 h
    exact (List.nodup_append.1 hunits).2.2 _ (List.mem_map_of_mem hm') _
      (List.mem_map_of_mem hm) (of_decide_eq_true hmm)
  rw [misses_extend s ht, ← hrest, List.filter_append, hold, hnew, List.nil_append]

/-! ## What merging does -/

/-- **What merging does**, for sets that the operations build: the entries whose name and whose
identity are both not in the first set are appended in their order and counted, and the misses of
units that it does not miss are appended behind its own. Merging the same set again, or a set into
itself or into what has become of it, changes nothing and counts nothing. -/
theorem extend_appends (hs : s.Built) (ht : t.Built) :
    let new := t.entries.filter fun e =>
      ∀ e' ∈ s.entries, e'.name ≠ e.name ∧ e'.identity ≠ e.identity
    let missed := t.misses.filter fun m => ∀ m' ∈ s.misses, m'.unit ≠ m.unit
    (s.extend t).set.entries = s.entries ++ new ∧
    (s.extend t).set.misses = s.misses ++ missed ∧
    (s.extend t).added = new.length ∧
    ((s.extend t).set.extend t).set = (s.extend t).set ∧
    ((s.extend t).set.extend t).added = 0 ∧
    s.extend s = { set := s } ∧
    (s.extend t).set.extend s = { set := (s.extend t).set } := by
  intro new missed
  have hnew : t.entries.filter s.isNew = new := List.filter_congr fun e _ => by
    rw [Bool.eq_iff_iff, isNew_iff hs.coherent, decide_eq_true_eq]
  have hmissed : t.misses.filter s.isNewMiss = missed := List.filter_congr fun m _ => by
    rw [Bool.eq_iff_iff, isNewMiss_iff, decide_eq_true_eq]
  have hentries : (s.extend t).set.entries = s.entries ++ new := by
    rw [entries_extend s ht.coherent, hnew]
  have hmisses : (s.extend t).set.misses = s.misses ++ missed := by
    rw [misses_extend s ht.coherent, hmissed]
  have hadded : (s.extend t).added = new.length := by
    have hsize := size_extend s t
    rw [size, hentries, List.length_append, size] at hsize
    exact (Nat.add_left_cancel hsize).symm
  have hagain := extend_of_not_isNew (s := (s.extend t).set) (t := t)
    (fun e he => isNew_extend hs.coherent ht.coherent he)
    fun m hm => exists_miss_of_mem s ht.coherent hm
  exact ⟨hentries, hmisses, hadded, hagain.1, hagain.2, extend_of_grows hs.coherent (.refl s),
    extend_of_grows (hs.coherent.extend t) (.extend s t)⟩

/-- A set with one file and one miss. -/
def firstOfTwo : ReferenceSet :=
  ((∅ : ReferenceSet).insert ⟨"lib", "/a/lib.wasm", .file "/a/lib.wasm"⟩).1.recordMiss
    ⟨"gone", "not found"⟩

/-- A set with another file of the same name, the same file under another name, something new, and
two misses. -/
def secondOfTwo : ReferenceSet :=
  ((((((∅ : ReferenceSet).insert ⟨"lib", "/b/lib.wasm", .file "/b/lib.wasm"⟩).1.insert
    ⟨"copy", "/a/lib.wasm", .file "/a/lib.wasm"⟩).1.insert (.ofHost "env")).1.recordMiss
    ⟨"gone", "gone for good"⟩).recordMiss ⟨"away", "not found"⟩)

/-- Of the second set, the host's module and the second miss are appended, and one entry counts. -/
theorem extend_appends_two :
    firstOfTwo.Built ∧ secondOfTwo.Built ∧
      (firstOfTwo.extend secondOfTwo).set.names = ["lib", "env"] ∧
      (firstOfTwo.extend secondOfTwo).set.misses = [⟨"gone", "not found"⟩, ⟨"away", "not found"⟩] ∧
      (firstOfTwo.extend secondOfTwo).added = 1 := by
  have hfirst : firstOfTwo.Built := .recordMiss _ (.insert _ .empty)
  have hsecond : secondOfTwo.Built :=
    .recordMiss _ (.recordMiss _ (.insert _ (.insert _ (.insert _ .empty))))
  obtain ⟨hentries, hmisses, hadded, -⟩ := extend_appends hfirst hsecond
  have hlib : firstOfTwo.entries = [⟨"lib", "/a/lib.wasm", .file "/a/lib.wasm"⟩] ∧
      firstOfTwo.misses = [⟨"gone", "not found"⟩] := by
    simp [firstOfTwo, insert, containsIdentity, get?, recordMiss, EmptyCollection.emptyCollection]
  have hother : secondOfTwo.entries = [⟨"lib", "/b/lib.wasm", .file "/b/lib.wasm"⟩,
        ⟨"copy", "/a/lib.wasm", .file "/a/lib.wasm"⟩, .ofHost "env"] ∧
      secondOfTwo.misses = [⟨"gone", "gone for good"⟩, ⟨"away", "not found"⟩] := by
    simp [secondOfTwo, insert, containsIdentity, get?, recordMiss, Reference.ofHost,
      EmptyCollection.emptyCollection]
  rw [hlib.1, hother.1] at hentries hadded
  rw [hlib.2, hother.2] at hmisses
  refine ⟨hfirst, hsecond, ?_, hmisses.trans (by decide), hadded.trans (by decide)⟩
  rw [names, hentries]
  decide

end UnitFoundry.ReferenceSet
