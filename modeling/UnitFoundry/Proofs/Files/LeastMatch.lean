import UnitFoundry.Proofs.Files.WellFormed
import UnitFoundry.Resolve.Resolver

/-! # The file that a search finds

A search for a file goes down a directory entry by entry. What it finds is described without the
search: among all files of the name that can be reached from the directory along names, it is the
one whose names come first in lexicographic order.

* **`Files.IsMatch`**: a file that can be reached from a path along names, through directories that
  can be read and do not lead back to where they have been reached from.
* **`Files.IsMatch.isFile`**: a match is a file, unless its path is too long.
* **`Files.finds_search?`**: a search in a directory finds the least match below it.
* **`Files.finds_searchAt?`**: a search at a path finds the least match at it or below it.
* **`probe?_least`**: probing finds the least match of the first hint path that has one. -/

namespace UnitFoundry

/-- The path that names lead to from another path. -/
def Path.below (path : String) (names : List String) : String :=
  names.foldl Path.child path

namespace Path

variable {path c : String} {cs : List String}

@[simp] theorem below_nil (path : String) : below path [] = path := rfl

@[simp] theorem below_concat (path : String) (cs : List String) (c : String) :
    below path (cs ++ [c]) = child (below path cs) c :=
  List.foldl_concat ..

theorem below_ne_empty (hpath : path ≠ "") (cs : List String) : below path cs ≠ "" := by
  induction cs using List.reverseRecOn with
  | nil => exact hpath
  | append_singleton cs c ih =>
      rw [below_concat]
      exact child_ne_empty ih

end Path

namespace Files

variable {files : Files} {name hint c : String} {cs ds : List String} {l m : Location}
  {way : List Location} {node : Node}

/-! ## Matches -/

/-- The last name on the way down from a path is that of a symbolic link. -/
def IsLink (files : Files) (hint : String) (cs : List String) : Prop :=
  ∃ ds c above target, cs = ds ++ [c] ∧
    files.find (Path.below hint ds) = .ok (above, .directory) ∧
    files.node? (above ++ [c]) = some (.link target)

/-- Names lead down from a path to a link back to a directory through which they have passed. -/
def LeadsBack (files : Files) (hint : String) (cs : List String) : Prop :=
  files.IsLink hint cs ∧ ∃ ds l, ds <+: cs ∧ ds ≠ cs ∧
    files.find (Path.below hint ds) = .ok (l, .directory) ∧
    files.find (Path.below hint cs) = .ok (l, .directory)

/-- Names lead down from a path to a directory in which a search goes on. -/
structure IsOpen (files : Files) (hint : String) (cs : List String) : Prop where
  /-- The names lead to a directory that can be read. -/
  directory : ∃ l, files.find (Path.below hint cs) = .ok (l, .directory) ∧ l ∉ files.unreadable
  /-- It is not reached by a link back to where the names have passed. -/
  forward : ¬files.LeadsBack hint cs

/-- Names lead down from a path to what is seen as a regular file. The path itself is looked up; the
kind of an entry is what its directory tells, but for links, which are looked up. -/
inductive SeenAsFile (files : Files) (hint : String) : List String → Prop where
  /-- The path itself leads to a regular file. -/
  | path : files.isFile hint = true → SeenAsFile files hint []
  /-- The last name is that of an entry of a directory. -/
  | entry {cs : List String} {c : String} {l : Location} {node : Node} :
    files.find (Path.below hint cs) = .ok (l, .directory) → files.node? (l ++ [c]) = some node →
    files.isFileAt (Path.below hint (cs ++ [c])) node = true → SeenAsFile files hint (cs ++ [c])

/-- Names lead down from a path to a file of the name that is searched for. -/
structure IsMatch (files : Files) (name hint : String) (cs : List String) : Prop where
  /-- The way down is made of names. -/
  names : ∀ c ∈ cs, Path.IsName c
  /-- The path ends in the name that is searched for. -/
  fileName : Path.fileName? (Path.below hint cs) = some name
  /-- The names lead to what is seen as a regular file. -/
  seen : files.SeenAsFile hint cs
  /-- The way passes through directories, and none of them is a link back. -/
  isOpen : ∀ ds, ds <+: cs → ds ≠ cs → files.IsOpen hint ds

/-- The path itself is seen as a file if it leads to one. -/
theorem SeenAsFile.isFile_of_nil (h : files.SeenAsFile hint cs) (hcs : cs = []) :
    files.isFile hint = true := by
  cases h with
  | path hfile => exact hfile
  | entry => exact absurd hcs (by simp)

/-- A path below which there is a match leads somewhere. -/
theorem IsMatch.exists_find (h : files.IsMatch name hint cs) : ∃ p, files.find hint = .ok p := by
  by_cases hcs : cs = []
  · obtain ⟨l, node, hfind, -⟩ := exists_find_of_isFile (h.seen.isFile_of_nil hcs)
    exact ⟨_, hfind⟩
  · obtain ⟨l, hfind, -⟩ := (h.isOpen [] List.nil_prefix (Ne.symm hcs)).directory
    exact ⟨_, hfind⟩

/-- What is seen as a file at an entry is so by its kind. -/
theorem SeenAsFile.exists_node (h : files.SeenAsFile hint (cs ++ [c]))
    (hfind : files.find (Path.below hint cs) = .ok (l, .directory)) :
    ∃ node, files.node? (l ++ [c]) = some node ∧
      files.isFileAt (Path.below hint (cs ++ [c])) node = true := by
  generalize hds : cs ++ [c] = ds at h
  cases h with
  | path => exact absurd hds (by simp)
  | @entry cs' c' l' node hfind' hnode hfile =>
      obtain ⟨rfl, hc⟩ := List.append_inj' hds rfl
      obtain rfl : c = c' := List.head_eq_of_cons_eq hc
      rw [hfind] at hfind'
      cases hfind'
      exact ⟨node, hnode, hfile⟩

/-- A name leads from a directory to its entry, if that is no link. -/
theorem Leads.of_name {n : Nat} (hc : Path.IsName c) (h : files.Leads false n l [c] m) :
    ∃ node, files.node? (l ++ [c]) = some node ∧
      ((∃ target, node = .link target) ∨ m = l ++ [c]) := by
  have hname := (Path.isName_iff.1 hc).1
  cases h with
  | here _ hs => exact absurd hs (by simp_all)
  | up => simp at hname
  | entry _ _ _ hnode _ hdone =>
      cases hdone
      exact ⟨_, hnode, .inr rfl⟩
  | link _ _ _ hnode => exact ⟨_, hnode, .inl ⟨_, rfl⟩⟩
  | new hnew => cases hnew

/-- What is seen as a file is not a directory. -/
theorem SeenAsFile.find_ne (h : files.SeenAsFile hint cs) (hhint : hint ≠ "")
    (hnames : ∀ c ∈ cs, Path.IsName c) : files.find (Path.below hint cs) ≠ .ok (l, .directory) := by
  have hnot : ∀ path, files.isFile path = true → files.find path ≠ .ok (l, .directory) := by
    intro path hfile hfind
    rw [isFile, hfind] at hfile
    cases hfile
  cases h with
  | path hfile => exact hnot hint hfile
  | @entry cs c l' node hdir hnode hfile =>
      intro hfind
      have hc := hnames c (List.mem_append_right _ (List.mem_singleton_self c))
      rw [Path.below_concat] at hfind
      obtain ⟨k, hk, n, -, hleads⟩ := find_of_find_child (Path.below_ne_empty hhint cs) hc hfind
      rw [hdir] at hk
      cases hk
      obtain ⟨node', hnode', hkind⟩ := hleads.of_name hc
      obtain rfl : node = node' := Option.some.inj (hnode.symm.trans hnode')
      obtain ⟨target, rfl⟩ | rfl := hkind
      · rw [Path.below_concat] at hfile
        exact hnot _ hfile hfind
      · obtain rfl := Option.some.inj (hnode.symm.trans (node?_of_find hfind))
        cases hfile

/-- **A match is a file**, unless its path is too long to open it. -/
theorem IsMatch.isFile {file : String} (h : files.IsMatch file hint cs)
    (hzero : '\x00' ∉ (Path.below hint cs).toList) (hname : file.utf8ByteSize ≤ longestName)
    (hlong : (Path.below hint cs).utf8ByteSize ≤ longestPath) :
    files.isFile (Path.below hint cs) = true := by
  have hhint : hint ≠ "" := by
    obtain ⟨⟨l, node⟩, hfind⟩ := h.exists_find
    exact (resolve_eq_ok_iff.1 (find_eq_ok_iff.1 hfind).1).2.1
  have hlast := h.fileName
  have hnames := h.names
  cases h.seen with
  | path hfile => exact hfile
  | @entry cs c l node hfind hnode hfile =>
      have hc := hnames c (List.mem_append_right _ (List.mem_singleton_self c))
      rw [Path.below_concat] at *
      have hbelow := Path.below_ne_empty hhint cs
      rw [Path.fileName?_child hbelow hc] at hlast
      obtain rfl := Option.some.inj hlast
      by_cases hlink : ∃ target, node = .link target
      · obtain ⟨target, rfl⟩ := hlink
        exact hfile
      · have hplain : ∀ target, node ≠ .link target := fun target heq => hlink ⟨target, heq⟩
        rw [Files.isFile, find_child hbelow hc hname hfind hnode hplain hzero hlong]
        cases node with
        | file | program => rfl
        | directory => cases hfile
        | link target => exact absurd rfl (hplain target)

/-! ## Where a search is -/

/-- A search that has come down from a path along names, through the directories on its way. -/
structure Reaches (files : Files) (hint : String) (cs : List String) (way : List Location)
    (l : Location) : Prop where
  /-- It is at the directory to which the names lead. -/
  find : files.find (Path.below hint cs) = .ok (l, .directory)
  /-- It has come along names. -/
  names : ∀ c ∈ cs, Path.IsName c
  /-- It has not come by a link back. -/
  forward : ¬files.LeadsBack hint cs
  /-- It has gone on in each of the directories before. -/
  isOpen : ∀ ds, ds <+: cs → ds ≠ cs → files.IsOpen hint ds
  /-- The way holds the directories through which it has come. -/
  mem_way : ∀ m, m ∈ way ↔ ∃ ds, ds <+: cs ∧ files.find (Path.below hint ds) = .ok (m, .directory)

/-- A path at which a search starts is not a link back to anything. -/
theorem not_leadsBack_nil : ¬files.LeadsBack hint [] := by
  rintro ⟨-, ds, l, hds, hne, -⟩
  exact hne (List.prefix_nil.1 hds)

theorem reaches_start (h : files.find hint = .ok (l, .directory)) :
    files.Reaches hint [] [l] l where
  find := h
  names := by simp
  forward := not_leadsBack_nil
  isOpen ds hds hne := absurd (List.prefix_nil.1 hds) hne
  mem_way m := by
    rw [List.mem_singleton]
    constructor
    · rintro rfl
      exact ⟨[], List.prefix_rfl, h⟩
    · rintro ⟨ds, hds, hfind⟩
      rw [List.prefix_nil.1 hds, Path.below_nil, h] at hfind
      cases hfind
      rfl

namespace Reaches

/-- The directory at which a search is is open if it can be read. -/
theorem isOpen_self (h : files.Reaches hint cs way l) (hl : l ∉ files.unreadable) :
    files.IsOpen hint cs :=
  ⟨⟨l, h.find, hl⟩, h.forward⟩

/-- The names before the last one lead through open directories. -/
theorem isOpen_of_concat (h : files.Reaches hint cs way l) (hl : l ∉ files.unreadable)
    (hds : ds <+: cs ++ [c]) (hne : ds ≠ cs ++ [c]) : files.IsOpen hint ds := by
  by_cases heq : ds = cs
  · exact heq ▸ h.isOpen_self hl
  · exact h.isOpen ds ((List.prefix_concat_iff.1 hds).resolve_left hne) heq

/-- A search that goes on in a directory has come through one more. -/
theorem enter (h : files.Reaches hint cs way l) (hl : l ∉ files.unreadable) (hc : Path.IsName c)
    (hfind : files.find (Path.below hint (cs ++ [c])) = .ok (m, .directory))
    (hforward : ¬files.LeadsBack hint (cs ++ [c])) :
    files.Reaches hint (cs ++ [c]) (m :: way) m where
  find := hfind
  names := List.forall_mem_append.2 ⟨h.names, List.forall_mem_singleton.2 hc⟩
  forward := hforward
  isOpen ds hds hne := h.isOpen_of_concat hl hds hne
  mem_way k := by
    rw [List.mem_cons, h.mem_way]
    constructor
    · rintro (rfl | ⟨ds, hds, hfind'⟩)
      · exact ⟨cs ++ [c], List.prefix_rfl, hfind⟩
      · exact ⟨ds, hds.trans (List.prefix_append _ _), hfind'⟩
    · rintro ⟨ds, hds, hfind'⟩
      rcases List.prefix_concat_iff.1 hds with rfl | hds
      · rw [hfind] at hfind'
        cases hfind'
        exact .inl rfl
      · exact .inr ⟨ds, hds, hfind'⟩

/-- Whatever the path of an entry leads to, the name of the entry leads there from where the search
is. -/
theorem leads (h : files.Reaches hint cs way l) (hhint : hint ≠ "") (hc : Path.IsName c)
    (hfind : files.find (Path.below hint (cs ++ [c])) = .ok (m, node)) :
    ∃ n ≤ linkBudget, files.Leads false n l [c] m := by
  rw [Path.below_concat] at hfind
  obtain ⟨l', hfind', hleads⟩ := find_of_find_child (Path.below_ne_empty hhint cs) hc hfind
  rw [h.find] at hfind'
  cases hfind'
  exact hleads

/-- An entry is a link on the way down if a link stands there. -/
theorem isLink_concat_iff (h : files.Reaches hint cs way l) :
    files.IsLink hint (cs ++ [c]) ↔ ∃ target, files.node? (l ++ [c]) = some (.link target) := by
  constructor
  · rintro ⟨ds, c', above, target, heq, hfind, hnode⟩
    obtain ⟨rfl, hc⟩ := List.append_inj' heq rfl
    obtain rfl : c = c' := List.head_eq_of_cons_eq hc
    rw [h.find] at hfind
    cases hfind
    exact ⟨target, hnode⟩
  · rintro ⟨target, hnode⟩
    exact ⟨cs, c, l, target, rfl, h.find, hnode⟩

/-- A link leads back if it leads to a directory on the way. -/
theorem leadsBack_concat_iff (h : files.Reaches hint cs way l)
    (hfind : files.find (Path.below hint (cs ++ [c])) = .ok (m, .directory)) :
    files.LeadsBack hint (cs ++ [c]) ↔ files.IsLink hint (cs ++ [c]) ∧ m ∈ way := by
  rw [h.mem_way]
  constructor
  · rintro ⟨hlink, ds, k, hds, hne, hfindDs, hfindK⟩
    rw [hfind] at hfindK
    cases hfindK
    exact ⟨hlink, ds, (List.prefix_concat_iff.1 hds).resolve_left hne, hfindDs⟩
  · rintro ⟨hlink, ds, hds, hfindDs⟩
    refine ⟨hlink, ds, m, hds.trans (List.prefix_append _ _), ?_, hfindDs, hfind⟩
    rintro rfl
    have hlen := hds.length_le
    rw [List.length_append, List.length_singleton] at hlen
    omega

end Reaches

/-! ## One step of a search -/

/-- A search takes the first entry that is the file or below which the file is found. -/
theorem search?_eq (files : Files) (name : String) (l : Location) (way : List Location)
    (text : String) :
    files.search? name l way text = (files.entries l).findSome? fun e =>
      if e.1 = name ∧ files.isFileAt (Path.child text e.1) e.2 then some (Path.child text e.1)
      else (files.entered? l way (Path.child text e.1) e).bind fun m =>
        files.search? name m (m :: way) (Path.child text e.1) := by
  rw [search?]
  conv_rhs => rw [← List.attach_map_subtype_val (files.entries l), List.findSome?_map]
  congr 1
  funext p
  obtain ⟨e, he⟩ := p
  simp only [Function.comp_apply]
  split
  · rfl
  · split <;> rename_i hentered <;> rw [hentered] <;> rfl

namespace Reaches

/-- **A search goes on at an entry if its path leads to a directory**, and not by a link back. -/
theorem entered?_eq_some_iff (h : files.Reaches hint cs way l) (hfiles : files.WellFormed)
    (hhint : hint ≠ "") {e : String × Node} (he : e ∈ files.entries l) {k : Location} :
    files.entered? l way (Path.below hint (cs ++ [e.1])) e = some k ↔
      files.find (Path.below hint (cs ++ [e.1])) = .ok (k, .directory) ∧
        ¬files.LeadsBack hint (cs ++ [e.1]) := by
  have hc := hfiles.isName_of_mem_entries he
  obtain ⟨-, hentry⟩ := hfiles.mem_entries_iff.1 he
  -- an entry that is no link is what its path leads to
  have hplain : ∀ {k node}, files.find (Path.below hint (cs ++ [e.1])) = .ok (k, node) →
      (∃ target, e.2 = .link target) ∨ k = l ++ [e.1] ∧ node = e.2 := by
    intro k node hfind
    obtain ⟨n, -, hleads⟩ := h.leads hhint hc hfind
    obtain ⟨kind, hkind, hk⟩ := hleads.of_name hc
    obtain rfl : kind = e.2 := Option.some.inj (hkind.symm.trans hentry)
    refine hk.imp_right fun hk => ⟨hk, ?_⟩
    subst hk
    exact Option.some.inj ((node?_of_find hfind).symm.trans hentry)
  constructor
  · intro hentered
    obtain ⟨hdir, hok, rfl⟩ | ⟨hlink, hfind, hway⟩ := entered?_cases hentered
    · cases hfind : files.find (Path.below hint (cs ++ [e.1])) with
      | error f =>
          rw [hfind] at hok
          cases hok
      | ok p =>
          obtain ⟨k, node⟩ := p
          obtain ⟨target, hlink⟩ | ⟨rfl, rfl⟩ := hplain hfind
          · rw [hdir] at hlink
            cases hlink
          · rw [hdir] at hfind ⊢
            refine ⟨rfl, fun hback => ?_⟩
            obtain ⟨target, htarget⟩ := h.isLink_concat_iff.1 hback.1
            rw [hentry, hdir] at htarget
            cases htarget
    · refine ⟨hfind, fun hback => ?_⟩
      exact hway ((h.leadsBack_concat_iff hfind).1 hback).2
  · rintro ⟨hfind, hforward⟩
    obtain ⟨target, hlink⟩ | ⟨rfl, hdir⟩ := hplain hfind
    · rw [h.leadsBack_concat_iff hfind, h.isLink_concat_iff, hentry] at hforward
      have hway : k ∉ way := fun hk => hforward ⟨⟨target, congrArg some hlink⟩, hk⟩
      have hway' : ¬way.contains k = true := fun hmem => hway (List.contains_iff_mem.1 hmem)
      simp only [entered?, hlink, hfind, if_neg hway']
    · simp only [entered?, ← hdir, hfind]
      rfl

/-- A match at an entry is the entry itself, with the right name and seen as a file. -/
theorem isMatch_concat_iff (h : files.Reaches hint cs way l) (hhint : hint ≠ "")
    (hfiles : files.WellFormed) {e : String × Node} (he : e ∈ files.entries l) :
    files.IsMatch name hint (cs ++ [e.1]) ↔
      e.1 = name ∧ files.isFileAt (Path.below hint (cs ++ [e.1])) e.2 = true := by
  have hc := hfiles.isName_of_mem_entries he
  obtain ⟨hl, hentry⟩ := hfiles.mem_entries_iff.1 he
  have hlast : Path.fileName? (Path.below hint (cs ++ [e.1])) = some e.1 := by
    rw [Path.below_concat]
    exact Path.fileName?_child (Path.below_ne_empty hhint cs) hc
  constructor
  · intro hmatch
    obtain ⟨node, hnode, hfile⟩ := hmatch.seen.exists_node h.find
    obtain rfl : node = e.2 := Option.some.inj (hnode.symm.trans hentry)
    exact ⟨Option.some.inj (hlast.symm.trans hmatch.fileName), hfile⟩
  · rintro ⟨rfl, hfile⟩
    exact ⟨List.forall_mem_append.2 ⟨h.names, List.forall_mem_singleton.2 hc⟩, hlast,
      .entry h.find hentry hfile, fun ds hds hne => h.isOpen_of_concat hl hds hne⟩

/-- Below a directory, a match lies at one of the entries that the directory shows, or below it. -/
theorem exists_mem_entries (h : files.Reaches hint cs way l) (hfiles : files.WellFormed)
    (hhint : hint ≠ "") (hmatch : files.IsMatch name hint (cs ++ ds)) :
    ∃ e ∈ files.entries l, ∃ ds', ds = e.1 :: ds' := by
  cases ds with
  | nil =>
      rw [List.append_nil] at hmatch
      exact absurd h.find (hmatch.seen.find_ne hhint hmatch.names)
  | cons c ds' =>
      have hne : cs ≠ cs ++ c :: ds' := by simp
      obtain ⟨k, hk, hl⟩ := (hmatch.isOpen cs (List.prefix_append _ _) hne).directory
      rw [h.find] at hk
      cases hk
      have hc := hmatch.names c (by simp)
      have hentry : ∃ node, files.node? (l ++ [c]) = some node := by
        cases ds' with
        | nil =>
            obtain ⟨node, hnode, -⟩ := hmatch.seen.exists_node h.find
            exact ⟨node, hnode⟩
        | cons d ds'' =>
            have hprefix : cs ++ [c] <+: cs ++ c :: d :: ds'' := ⟨d :: ds'', by simp⟩
            obtain ⟨m, hfind, -⟩ := (hmatch.isOpen (cs ++ [c]) hprefix (by simp)).directory
            obtain ⟨n, -, hleads⟩ := h.leads hhint hc hfind
            obtain ⟨node, hnode, -⟩ := hleads.of_name hc
            exact ⟨node, hnode⟩
      obtain ⟨node, hnode⟩ := hentry
      exact ⟨(c, node), hfiles.mem_entries_iff.2 ⟨hl, hnode⟩, ds', rfl⟩

end Reaches

/-! ## The whole search -/

/-- What a search gives: the path to the least match below names, or nothing if there is none. -/
def Finds (files : Files) (name hint : String) (cs : List String) : Option String → Prop :=
  FindsLeast (fun ds => files.IsMatch name hint (cs ++ ds)) fun ds => Path.below hint (cs ++ ds)

/-- A search finds the least match at an entry and below it, if it does so wherever it goes on from
there. -/
theorem finds_entry (hfiles : files.WellFormed) (hhint : hint ≠ "") (name : String)
    (h : files.Reaches hint cs way l) {e : String × Node} (he : e ∈ files.entries l)
    {search : Location → Option String}
    (hsearch : ∀ m, files.entered? l way (Path.below hint (cs ++ [e.1])) e = some m →
      files.Reaches hint (cs ++ [e.1]) (m :: way) m →
      files.Finds name hint (cs ++ [e.1]) (search m)) :
    files.Finds name hint (cs ++ [e.1])
      (if e.1 = name ∧ files.isFileAt (Path.below hint (cs ++ [e.1])) e.2 then
        some (Path.below hint (cs ++ [e.1]))
      else (files.entered? l way (Path.below hint (cs ++ [e.1])) e).bind search) := by
  have hc := hfiles.isName_of_mem_entries he
  obtain ⟨hl, -⟩ := hfiles.mem_entries_iff.1 he
  have hiff := fun m => h.entered?_eq_some_iff hfiles hhint he (k := m)
  split
  · rename_i hmatch
    rw [← h.isMatch_concat_iff hhint hfiles he] at hmatch
    refine .some [] ?_ (fun ds _ => nil_le_list ds) ?_
    · rwa [List.append_nil]
    · rw [List.append_nil]
  · rename_i hmatch
    rw [← h.isMatch_concat_iff hhint hfiles he] at hmatch
    cases hentered : files.entered? l way (Path.below hint (cs ++ [e.1])) e with
    | some m =>
        obtain ⟨hfind, hforward⟩ := (hiff m).1 hentered
        exact hsearch m hentered (h.enter hl hc hfind hforward)
    | none =>
        refine .none fun ds hds => ?_
        by_cases hnil : ds = []
        · rw [hnil, List.append_nil] at hds
          exact hmatch hds
        · have hopen := hds.isOpen (cs ++ [e.1]) (List.prefix_append _ _) (by simpa using hnil)
          obtain ⟨m, hfind, -⟩ := hopen.directory
          have hsome := (hiff m).2 ⟨hfind, hopen.forward⟩
          rw [hentered] at hsome
          cases hsome

/-- **A search in a directory finds the least match below it.** -/
theorem finds_search? (hfiles : files.WellFormed) (hhint : hint ≠ "") (name : String)
    (l : Location) (way : List Location) (text : String) (cs : List String)
    (htext : text = Path.below hint cs) (h : files.Reaches hint cs way l) :
    files.Finds name hint cs (files.search? name l way text) := by
  induction l, way, text using search?.induct files generalizing cs with
  | case1 l way text ih =>
      subst htext
      rw [search?_eq]
      refine .findSome? (·.1) (files.sorted_entries l) (fun e he => ?_) fun ds hds =>
        h.exists_mem_entries hfiles hhint hds
      have hentry := finds_entry hfiles hhint name h he fun m hentered hm =>
        ih e he m (by rwa [Path.below_concat] at hentered) (cs ++ [e.1])
          (Path.below_concat ..).symm hm
      simpa only [Finds, Path.below_concat, List.append_assoc, List.singleton_append] using hentry

/-- **A search at a path finds the least match at it or below it.** -/
theorem finds_searchAt? (hfiles : files.WellFormed) (name hint : String) :
    files.Finds name hint [] (files.searchAt? hint name) := by
  rw [searchAt?]
  split
  · rename_i hmatch
    obtain ⟨hname, hfile⟩ := hmatch
    obtain ⟨last, hlast⟩ := exists_fileName?_of_isFile hfile
    rw [hlast, Option.getD_some] at hname
    subst hname
    refine .some [] ⟨by simp, hlast, .path hfile, fun ds hds hne => ?_⟩
      (fun ds _ => nil_le_list ds) rfl
    exact absurd (List.prefix_nil.1 hds) hne
  · rename_i hmatch
    split
    · rename_i l hfind
      have hhint : hint ≠ "" := (resolve_eq_ok_iff.1 (find_eq_ok_iff.1 hfind).1).2.1
      exact finds_search? hfiles hhint name l [l] hint [] rfl (reaches_start hfind)
    · rename_i hdirectory
      refine .none fun ds hds => ?_
      rw [List.nil_append] at hds
      by_cases hnil : ds = []
      · subst hnil
        refine hmatch ⟨?_, ?_⟩
        · have hlast := hds.fileName
          rw [Path.below_nil] at hlast
          rw [hlast, Option.getD_some]
        · exact hds.seen.isFile_of_nil rfl
      · obtain ⟨l, hfind, -⟩ := (hds.isOpen [] List.nil_prefix (Ne.symm hnil)).directory
        exact hdirectory l hfind

end Files

/-- **Probing finds the least match of the first hint path that has one**, and nothing if no hint
path has a match. -/
theorem probe?_least {files : Files} (hfiles : files.WellFormed) (hints : List String)
    (name extension : String) :
    (probe? files hints name extension = none ↔
      ∀ hint ∈ hints, ∀ cs, ¬files.IsMatch (name ++ "." ++ extension) hint cs) ∧
    ∀ found, probe? files hints name extension = some found →
      ∃ before hint after cs, hints = before ++ hint :: after ∧
        (∀ earlier ∈ before, ∀ ds, ¬files.IsMatch (name ++ "." ++ extension) earlier ds) ∧
        files.IsMatch (name ++ "." ++ extension) hint cs ∧ found = Path.below hint cs ∧
        ∀ ds, files.IsMatch (name ++ "." ++ extension) hint ds → cs ≤ ds := by
  have hnone : ∀ hint, files.searchAt? hint (name ++ "." ++ extension) = none ↔
      ∀ cs, ¬files.IsMatch (name ++ "." ++ extension) hint cs := fun hint =>
    (Files.finds_searchAt? hfiles (name ++ "." ++ extension) hint).eq_none_iff
  constructor
  · rw [probe?, List.findSome?_eq_none_iff]
    exact forall₂_congr fun hint _ => hnone hint
  · intro found hfound
    obtain ⟨before, hint, after, rfl, hhint, hbefore⟩ := List.findSome?_eq_some_iff.1 hfound
    have hfinds := Files.finds_searchAt? hfiles (name ++ "." ++ extension) hint
    rw [hhint] at hfinds
    cases hfinds with
    | some cs hcs hleast hresult =>
        have hearlier := fun earlier he => (hnone earlier).1 (hbefore earlier he)
        exact ⟨before, hint, after, cs, rfl, hearlier, hcs, hresult, hleast⟩

/-- A tree in which a directory is found through a link before it is found itself. Of the other
links, one leads back, one leads nowhere and one leads to itself. -/
def linkedFiles : Files :=
  { nodes := [(["hints"], .directory), (["hints", "again"], .link "lib"),
      (["hints", "lib"], .directory), (["hints", "lib", "back"], .link ".."),
      (["hints", "lib", "gone"], .link "nowhere"), (["hints", "lib", "m.wasm"], .file .empty),
      (["hints", "lib", "round"], .link "round"), (["hints", "m.wasm"], .file .empty)] }

theorem wellFormed_linkedFiles : linkedFiles.WellFormed := by
  decide +kernel

theorem isMatch_linkedFiles : linkedFiles.IsMatch "m.wasm" "/hints" ["again", "m.wasm"] := by
  have hstart : linkedFiles.Reaches "/hints" [] [["hints"]] ["hints"] := Files.reaches_start rfl
  have hfind : linkedFiles.find (Path.below "/hints" ([] ++ ["again"])) =
      .ok (["hints", "lib"], .directory) := rfl
  have hforward : ¬linkedFiles.LeadsBack "/hints" ([] ++ ["again"]) := by
    intro hback
    have hway := ((hstart.leadsBack_concat_iff hfind).1 hback).2
    simp at hway
  have hagain := hstart.enter List.not_mem_nil (by decide) hfind hforward
  have hentry : ("m.wasm", .file .empty) ∈ linkedFiles.entries ["hints", "lib"] :=
    wellFormed_linkedFiles.mem_entries_iff.2 ⟨List.not_mem_nil, rfl⟩
  exact (hagain.isMatch_concat_iff (by decide) wellFormed_linkedFiles hentry).2 ⟨rfl, rfl⟩

/-- The first hint path does not exist, and the second one has a match behind a link. What is found
is that match or one before it. -/
theorem probe?_least_linkedFiles :
    linkedFiles.WellFormed ∧ ∃ cs, linkedFiles.IsMatch "m.wasm" "/hints" cs ∧
      cs ≤ ["again", "m.wasm"] ∧
      probe? linkedFiles ["/none", "/hints"] "m" "wasm" = some (Path.below "/hints" cs) := by
  refine ⟨wellFormed_linkedFiles, ?_⟩
  obtain ⟨hnone, hsome⟩ := probe?_least wellFormed_linkedFiles ["/none", "/hints"] "m" "wasm"
  have hmissing : ∀ cs, ¬linkedFiles.IsMatch "m.wasm" "/none" cs := by
    intro cs hcs
    obtain ⟨p, hp⟩ := hcs.exists_find
    cases hp
  cases hprobe : probe? linkedFiles ["/none", "/hints"] "m" "wasm" with
  | none => exact absurd isMatch_linkedFiles (hnone.1 hprobe "/hints" (by simp) _)
  | some found =>
      obtain ⟨before, hint, after, cs, hhints, -, hcs, rfl, hleast⟩ := hsome found hprobe
      have hmem : hint ∈ ["/none", "/hints"] := by simp [hhints]
      obtain rfl : hint = "/hints" := by
        rcases List.mem_cons.1 hmem with rfl | hmem
        · exact absurd hcs (hmissing cs)
        · exact List.mem_singleton.1 hmem
      exact ⟨cs, hcs, hleast _ isMatch_linkedFiles, rfl⟩

end UnitFoundry
