import UnitFoundry.Files.Search
import UnitFoundry.Proofs.Files.Children
import UnitFoundry.Proofs.Lists

/-! # Well-formed file trees

In a well-formed file tree every location is listed once and is made of names. The entries of a
directory that can be read are then exactly what stands below it.

* **`Files.WellFormed.mem_entries_iff`**: the entries that a directory shows and what can be looked
  up below it are the same.
* **`Files.WellFormed.write`**, **`Files.WellFormed.place`**, **`Files.WellFormed.makeWay`**: file
  trees stay well-formed under all changes; the empty one is well-formed. -/

namespace UnitFoundry.Files

variable {files files' : Files} {mayBeNew : Bool} {n : Nat} {l m : Location} {node : Node}
  {path : String}

/-- A location below the root that is made of names. -/
structure IsBelowRoot (l : Location) : Prop where
  /-- It is not the root. -/
  ne_root : l ≠ []
  /-- It is made of names. -/
  names : ∀ s ∈ l, Path.IsName s

/-- Every location is listed once and made of names, and the root is not listed. -/
structure WellFormed (files : Files) : Prop where
  /-- No location is listed twice. -/
  distinct : (files.nodes.map (·.1)).Nodup
  /-- The locations lie below the root. -/
  belowRoot : ∀ l ∈ files.nodes.map (·.1), IsBelowRoot l

instance (l : Location) : Decidable (IsBelowRoot l) :=
  decidable_of_iff (l ≠ [] ∧ ∀ s ∈ l, Path.IsName s)
    ⟨fun h => ⟨h.1, h.2⟩, fun h => ⟨h.ne_root, h.names⟩⟩

instance (files : Files) : Decidable files.WellFormed :=
  decidable_of_iff
    ((files.nodes.map (·.1)).Nodup ∧ ∀ l ∈ files.nodes.map (·.1), IsBelowRoot l)
    ⟨fun h => ⟨h.1, h.2⟩, fun h => ⟨h.distinct, h.belowRoot⟩⟩

/-! ## Entries and what is looked up -/

namespace WellFormed

/-- What is listed at a location is what is looked up there. -/
theorem node?_of_mem (h : files.WellFormed) (hmem : (l, node) ∈ files.nodes) :
    files.node? l = some node := by
  have hbelow := h.belowRoot l (List.mem_map_of_mem hmem)
  rw [node?, if_neg hbelow.ne_root]
  exact lookup_of_nodup h.distinct hmem

/-- **The entries that a directory shows are what stands below it**, if it can be read. -/
theorem mem_entries_iff (h : files.WellFormed) {e : String × Node} :
    e ∈ files.entries l ↔ l ∉ files.unreadable ∧ files.node? (l ++ [e.1]) = some e.2 := by
  constructor
  · intro he
    refine ⟨fun hl => ?_, h.node?_of_mem (mem_nodes_of_mem_entries he)⟩
    rw [entries, if_pos hl] at he
    exact absurd he List.not_mem_nil
  · rintro ⟨hl, hnode⟩
    rw [entries, if_neg hl]
    rcases mem_of_node?_eq_some hnode with hroot | hmem
    · exact absurd hroot (by simp)
    · simp only [List.mem_mergeSort, List.mem_filterMap]
      exact ⟨_, hmem, by simp⟩

/-- Entries have names. -/
theorem isName_of_mem_entries (h : files.WellFormed) {e : String × Node}
    (he : e ∈ files.entries l) : Path.IsName e.1 := by
  have hmem := List.mem_map_of_mem (f := (·.1)) (mem_nodes_of_mem_entries he)
  exact (h.belowRoot _ hmem).names _ (by simp)

end WellFormed

/-- Entries stand in the order of their names. -/
theorem sorted_entries (files : Files) (l : Location) :
    (files.entries l).Pairwise fun a b => a.1 ≤ b.1 := by
  have htrans : ∀ a b c : String × Node, decide (a.1 ≤ b.1) = true → decide (b.1 ≤ c.1) = true →
      decide (a.1 ≤ c.1) = true := by
    simp only [decide_eq_true_eq]
    exact fun _ _ _ => String.le_trans
  have htotal : ∀ a b : String × Node, (decide (a.1 ≤ b.1) || decide (b.1 ≤ a.1)) = true := by
    simp only [Bool.or_eq_true, decide_eq_true_eq]
    exact fun a b => String.le_total a.1 b.1
  have hsorted := List.pairwise_mergeSort htrans htotal
  rw [entries]
  split
  · exact .nil
  · simpa only [decide_eq_true_eq] using hsorted _

/-! ## Changes -/

/-- Segments lead from names to names. -/
theorem Leads.names {ss : List String} (h : files.Leads mayBeNew n l ss m)
    (hl : ∀ s ∈ l, Path.IsName s) (hss : ∀ s ∈ ss, '/' ∉ s.toList) : ∀ s ∈ m, Path.IsName s := by
  induction h with
  | done => exact hl
  | here _ _ _ ih => exact ih hl (List.forall_mem_cons.1 hss).2
  | up _ _ ih =>
      exact ih (fun t ht => hl t (List.dropLast_subset _ ht)) (List.forall_mem_cons.1 hss).2
  | entry _ hs _ _ _ _ ih =>
      obtain ⟨hslash, hrest⟩ := List.forall_mem_cons.1 hss
      have hname : Path.IsName _ := Path.isName_iff.2 ⟨hs, hslash⟩
      exact ih (List.forall_mem_append.2 ⟨hl, List.forall_mem_singleton.2 hname⟩) hrest
  | link _ _ _ _ _ _ ih =>
      -- the walk goes on from the root or from here, without the link itself
      refine ih ?_ (List.forall_mem_append.2 ⟨fun _ => Path.noSlash_of_mem_segments, ?_⟩)
      · split
        · exact List.forall_mem_nil _
        · exact hl
      · exact (List.forall_mem_cons.1 hss).2
  | new _ _ hs =>
      have hname : Path.IsName _ := Path.isName_iff.2 ⟨hs, (List.forall_mem_cons.1 hss).1⟩
      exact List.forall_mem_append.2 ⟨hl, List.forall_mem_singleton.2 hname⟩

/-- A path leads to a location of names, also where something new would be made. -/
theorem names_of_resolve (h : files.resolve path mayBeNew = .ok l) :
    ∀ s ∈ l, Path.IsName s := by
  obtain ⟨n, hleads⟩ := exists_leads_of_resolve h
  exact hleads.names (by simp) fun _ => Path.noSlash_of_mem_segments

theorem node?_root (files : Files) : files.node? [] = some .directory := by
  rw [node?, if_pos rfl]

namespace WellFormed

theorem empty : WellFormed ∅ :=
  ⟨List.nodup_nil, fun _ h => absurd h List.not_mem_nil⟩

theorem insert (h : files.WellFormed) (hl : IsBelowRoot l) : (files.insert l node).WellFormed := by
  have hothers : ((files.nodes.filter (·.1 ≠ l)).map (·.1)).Sublist (files.nodes.map (·.1)) :=
    List.filter_sublist.map _
  constructor
  · rw [Files.insert, List.map_append, List.map_singleton, List.nodup_append_comm,
      List.singleton_append, List.nodup_cons]
    refine ⟨?_, h.distinct.sublist hothers⟩
    simp
  · intro m hm
    rw [Files.insert, List.map_append, List.map_singleton, List.mem_append,
      List.mem_singleton] at hm
    rcases hm with hm | rfl
    · exact h.belowRoot m (hothers.subset hm)
    · exact hl

/-- A directory is made only where nothing stands, so not at the root. -/
theorem insertNew (h : files.WellFormed) (hl : ∀ s ∈ l, Path.IsName s) :
    (if (files.node? l).isSome then files else files.insert l .directory).WellFormed := by
  split
  · exact h
  · rename_i hnew
    refine h.insert ⟨?_, hl⟩
    rintro rfl
    exact hnew (by rw [node?_root]; rfl)

theorem makeDirectories (h : files.WellFormed) (hl : ∀ s ∈ l, Path.IsName s) :
    (files.makeDirectories l).WellFormed :=
  List.foldlRecOn (motive := WellFormed) _ _ h fun _ hfiles _ _ =>
    hfiles.insertNew fun s hs => hl s (List.mem_of_mem_take hs)

theorem makeWay (h : files.WellFormed) (path : String) : (files.makeWay path).WellFormed := by
  refine List.foldlRecOn (motive := WellFormed) _ _ h fun files hfiles i _ => ?_
  split
  · rename_i l hresolve
    exact hfiles.insertNew (names_of_resolve hresolve)
  · exact hfiles

/-- Nothing is written over the root, which is a directory. -/
theorem write (h : files.WellFormed) (hwrite : files.write path node = .ok files') :
    files'.WellFormed := by
  rw [Files.write] at hwrite
  cases hresolve : files.resolve path true with
  | error e => simp [hresolve, bind, Except.bind] at hwrite
  | ok l =>
      by_cases hdir : files.node? l = some .directory
      · simp [hresolve, hdir, bind, Except.bind, throw, throwThe, MonadExceptOf.throw] at hwrite
      · simp only [hresolve, hdir, bind, Except.bind, pure, Except.pure, if_false,
          Except.ok.injEq] at hwrite
        rw [← hwrite]
        refine h.insert ⟨?_, names_of_resolve hresolve⟩
        rintro rfl
        exact hdir (node?_root files)

/-- What is put at a path lies below directories that are made for it; a link gets a name there. -/
theorem place (h : files.WellFormed) (hplace : files.place path node = .ok files') :
    files'.WellFormed := by
  have hway := h.makeWay ((Path.parent? path).getD "/")
  rw [Files.place.eq_def] at hplace
  split at hplace
  · cases hplace
    exact h.makeWay path
  · dsimp only at hplace
    split at hplace
    · rename_i hname _
      cases hresolve : (files.makeWay ((Path.parent? path).getD "/")).resolve
          ((Path.parent? path).getD "/") with
      | error e => simp [hresolve, bind, Except.bind] at hplace
      | ok l =>
          simp only [hresolve, bind, Except.bind, pure, Except.pure, Except.ok.injEq] at hplace
          rw [← hplace]
          have hlast := List.forall_mem_singleton.2 (Path.isName_of_fileName? hname)
          exact hway.insert
            ⟨by simp, List.forall_mem_append.2 ⟨names_of_resolve hresolve, hlast⟩⟩
    · exact hway.write hplace

end WellFormed

end UnitFoundry.Files
