import Mathlib.Data.List.Basic
import UnitFoundry.Files.Search
import UnitFoundry.Proofs.Files.Canonical

/-! # Paths of entries

`Path.child` is the path of an entry of a directory. What it leads to is found in two steps: the
path of the directory leads to the directory, and the name of the entry from there on.

* **`Path.fileName?_child`**: the last part of the path of an entry is the name of the entry.
* **`Files.find_of_find_child`**: when the path of an entry leads somewhere, the path of the
  directory leads to a directory, from which the name of the entry leads to the same place.
* **`Files.find_child`**: the path of an entry leads to the entry.
* **`Files.exists_fileName?_of_isFile`**: a path to a file ends in a name. -/

namespace UnitFoundry

/-! ## Text of a path -/

namespace Path

variable {path c s : String} {xs : List String}

theorem splitSlash_append_slash (as bs : List Char) :
    splitSlash (as ++ '/' :: bs) = splitSlash as ++ splitSlash bs := by
  induction as with
  | nil =>
      rw [List.nil_append, splitSlash_slash]
      rfl
  | cons a as ih =>
      rw [List.cons_append]
      by_cases ha : a = '/'
      · rw [ha, splitSlash_slash, splitSlash_slash, ih, List.cons_append]
      · have hsingle : '/' ∉ [a] := by simpa using Ne.symm ha
        obtain ⟨t, ts, hts⟩ := List.exists_cons_of_ne_nil (splitSlash_ne_nil as)
        rw [hts, List.cons_append] at ih
        have hleft : splitSlash ([a] ++ (as ++ '/' :: bs)) = ([a] ++ t) :: (ts ++ splitSlash bs) :=
          splitSlash_append hsingle ih
        have hright : splitSlash ([a] ++ as) = ([a] ++ t) :: ts := splitSlash_append hsingle hts
        rw [List.singleton_append] at hleft hright
        rw [hleft, hright]
        rfl

theorem segments_append_slash (front back : String) :
    segments (front ++ "/" ++ back) = segments front ++ segments back := by
  have htext : (front ++ "/" ++ back).toList = front.toList ++ '/' :: back.toList := by simp
  rw [segments, htext, splitSlash_append_slash, List.map_append, segments, segments]

theorem segments_of_noSlash (hc : '/' ∉ c.toList) : segments c = [c] := by
  have hsplit : splitSlash (c.toList ++ []) = [c.toList ++ []] := splitSlash_append hc rfl
  rw [List.append_nil] at hsplit
  rw [segments, hsplit, List.map_singleton, String.ofList_toList]

theorem segments_ne_nil (path : String) : segments path ≠ [] := by
  simp [segments]

/-- The path of an entry is the path of the directory and the name of the entry, with one slash
in between. -/
theorem exists_child_eq (hpath : path ≠ "") :
    ∃ front, (path = front ∨ path = front ++ "/") ∧ ∀ c, child path c = front ++ "/" ++ c := by
  by_cases hslash : path.toList.getLast? = some '/'
  · obtain ⟨cs, hcs⟩ := List.getLast?_eq_some_iff.1 hslash
    have hfront : path = String.ofList cs ++ "/" := by
      rw [← String.toList_inj, hcs]
      simp
    refine ⟨String.ofList cs, .inr hfront, fun c => ?_⟩
    rw [child, if_pos (by simp [hslash]), ← hfront]
  · refine ⟨path, .inl rfl, fun c => ?_⟩
    rw [child, if_neg (by simp [hslash, hpath])]

/-- The segments of the path of an entry are those of the directory's path and the name of the
entry, where a slash at the end of the directory's path does not count. -/
theorem exists_segments_child (hpath : path ≠ "") (hc : IsName c) :
    ∃ xs, (segments path = xs ∨ segments path = xs ++ [""]) ∧
      segments (child path c) = xs ++ [c] := by
  obtain ⟨front, hfront, hchild⟩ := exists_child_eq hpath
  refine ⟨segments front, ?_, ?_⟩
  · rcases hfront with rfl | rfl
    · exact .inl rfl
    · refine .inr ?_
      have hempty : front ++ "/" = front ++ "/" ++ "" := String.append_empty.symm
      rw [hempty, segments_append_slash]
      rfl
  · rw [hchild, segments_append_slash, segments_of_noSlash hc.noSlash]

theorem child_ne_empty (hpath : path ≠ "") : child path c ≠ "" := by
  obtain ⟨front, -, hchild⟩ := exists_child_eq hpath
  rw [hchild]
  simp

theorem exists_child_eq_append (path c : String) : ∃ back, child path c = path ++ back := by
  rw [child]
  split
  · exact ⟨_, rfl⟩
  · exact ⟨_, String.append_assoc⟩

theorem isAbsolute_child (hpath : path ≠ "") : isAbsolute (child path c) = isAbsolute path := by
  obtain ⟨back, hback⟩ := exists_child_eq_append path c
  rw [isAbsolute, isAbsolute, hback, String.toList_append,
    List.head?_append_of_ne_nil _ (by simpa using hpath)]

/-- What stands in front of a path stands in front of the paths of its entries. -/
theorem child_append (front : String) (hpath : path ≠ "") :
    child (front ++ path) c = front ++ child path c := by
  have hlast : (front ++ path).toList.getLast? = path.toList.getLast? := by
    rw [String.toList_append, List.getLast?_append_of_ne_nil _ (by simpa using hpath)]
  have hempty : (front ++ path).isEmpty = path.isEmpty := by
    rw [Bool.eq_iff_iff]
    simp [hpath]
  rw [child, child, hlast, hempty]
  split
  · rw [String.append_assoc]
  · rw [String.append_assoc, String.append_assoc, String.append_assoc]

theorem join_ne_empty {directory : String} (hdir : directory ≠ "") (hpath : path ≠ "") :
    join directory path ≠ "" := by
  rw [join]
  split
  · exact hpath
  · exact child_ne_empty hdir

theorem join_child {directory : String} (hdir : directory ≠ "") (hpath : path ≠ "") :
    join directory (child path c) = child (join directory path) c := by
  rw [join, join, isAbsolute_child hpath]
  split
  · rfl
  · obtain ⟨front, -, hchild⟩ := exists_child_eq hdir
    rw [hchild, hchild, child_append _ hpath]

/-- A path that starts from a directory has the last segment that it has by itself. -/
theorem exists_segments_join {directory : String} (hdir : directory ≠ "")
    (h : segments path = xs ++ [s]) : ∃ ys, segments (join directory path) = ys ++ [s] := by
  rw [join]
  split
  · exact ⟨xs, h⟩
  · obtain ⟨front, -, hchild⟩ := exists_child_eq hdir
    refine ⟨segments front ++ xs, ?_⟩
    rw [hchild, segments_append_slash, h, List.append_assoc]

/-- A path whose last segment is a name ends in that name. -/
theorem fileName?_of_segments (h : segments path = xs ++ [s]) (hs : IsName s) :
    fileName? path = some s := by
  have hlast : (parts path).getLast? = some (.name s) := by
    rw [parts]
    split
    · simp [h, hs.ne_empty, hs.ne_here, hs.ne_up, List.getLast?_cons]
    · split
      · rename_i rest hrest
        rw [h] at hrest
        obtain ⟨ys, rfl⟩ : ∃ ys, rest = ys ++ [s] := by
          cases xs with
          | nil => exact absurd (List.head_eq_of_cons_eq hrest) hs.ne_here
          | cons x xs => exact ⟨xs, (List.tail_eq_of_cons_eq hrest).symm⟩
        simp [hs.ne_empty, hs.ne_here, hs.ne_up, List.getLast?_cons]
      · simp [h, hs.ne_empty, hs.ne_here, hs.ne_up]
  rw [fileName?, hlast]

/-- What a path ends in is a name. -/
theorem isName_of_fileName? (h : fileName? path = some s) : IsName s := by
  rw [fileName?] at h
  split at h
  · rename_i t hlast
    obtain rfl := Option.some.inj h
    have hmem : Part.name t ∈ parts path := List.mem_of_getLast? hlast
    obtain ⟨hs, hsegment⟩ : t ∉ ["", ".", ".."] ∧ t ∈ segments path := by
      have hnamed : ∀ ss : List String, Part.name t ∈ ss.filterMap (fun s =>
          if s.isEmpty || s = "." then none else if s = ".." then some .up else some (.name s)) →
          t ∉ ["", ".", ".."] ∧ t ∈ ss := by
        intro ss hss
        obtain ⟨s, hs, hpart⟩ := List.mem_filterMap.1 hss
        split at hpart
        · cases hpart
        · split at hpart
          · cases hpart
          · cases hpart
            simp_all
      rw [parts] at hmem
      split at hmem
      · exact hnamed _ (by simpa using hmem)
      · split at hmem
        · rename_i rest hrest
          obtain ⟨hs, hrest'⟩ := hnamed rest (by simpa using hmem)
          exact ⟨hs, hrest ▸ List.mem_cons_of_mem _ hrest'⟩
        · exact hnamed _ hmem
    exact isName_iff.2 ⟨hs, noSlash_of_mem_segments hsegment⟩
  · cases h

/-- **The path of an entry ends in the name of the entry.** -/
theorem fileName?_child (hpath : path ≠ "") (hc : IsName c) :
    fileName? (child path c) = some c := by
  obtain ⟨xs, -, hsegments⟩ := exists_segments_child hpath hc
  exact fileName?_of_segments hsegments hc

end Path

/-! ## What the path of an entry leads to -/

namespace Files

variable {files : Files} {l m : Location} {node : Node} {path c : String}

theorem textOf_ne_empty (l : Location) : textOf l ≠ "" := by
  simp [textOf]

/-- Above a directory that is direct there is a directory. -/
theorem Direct.node?_dropLast (h : files.Direct l) (hdir : files.node? l = some .directory) :
    files.node? l.dropLast = some .directory := by
  cases h with
  | root => exact hdir
  | child _ habove _ _ _ _ =>
      rw [List.dropLast_concat]
      exact habove

/-- The segments of the path of an entry lead through the directory. -/
theorem Leads.exists_of_child {n : Nat} (hpath : path ≠ "") (hc : Path.IsName c)
    (h : files.Leads false n [] (Path.segments (Path.child path c)) m) :
    ∃ l n₁ n₂, n = n₁ + n₂ ∧ files.Leads false n₁ [] (Path.segments path) l ∧
      files.Leads false n₂ l [c] m := by
  obtain ⟨xs, hxs, hsegments⟩ := Path.exists_segments_child hpath hc
  rw [hsegments] at h
  obtain ⟨l, n₁, n₂, hn, hfirst, hlast⟩ := h.split
  refine ⟨l, n₁, n₂, hn, ?_, hlast⟩
  rcases hxs with hxs | hxs
  · rwa [hxs]
  · -- the slash at the end of the directory's path asks for a directory, and there is one
    rw [hxs]
    exact hfirst.append (.here hlast.directory (.inl rfl) .done)

/-- **The path of an entry leads where the name of the entry leads from the directory.** -/
theorem find_of_find_child (hpath : path ≠ "") (hc : Path.IsName c)
    (h : files.find (Path.child path c) = .ok (m, node)) :
    ∃ l, files.find path = .ok (l, .directory) ∧
      ∃ n ≤ linkBudget, files.Leads false n l [c] m := by
  have htext := textOf_ne_empty files.workingDirectory
  obtain ⟨hzero, -, hlen, hwalk⟩ := resolve_eq_ok_iff.1 (find_eq_ok_iff.1 h).1
  rw [Path.join_child htext hpath] at hwalk
  obtain ⟨n, hn, hleads⟩ := walk_eq_ok_iff.1 hwalk
  obtain ⟨l, n₁, n₂, rfl, hfirst, hlast⟩ :=
    hleads.exists_of_child (Path.join_ne_empty htext hpath) hc
  obtain ⟨back, hback⟩ := Path.exists_child_eq_append path c
  rw [hback, String.toList_append] at hzero
  rw [hback, String.utf8ByteSize_append] at hlen
  have hresolve : files.resolve path = .ok l := by
    refine resolve_eq_ok_iff.2 ⟨fun hmem => hzero (List.mem_append_left _ hmem), hpath, ?_, ?_⟩
    · omega
    · exact walk_eq_ok_iff.2 ⟨n₁, by omega, hfirst⟩
  exact ⟨l, find_eq_ok_iff.2 ⟨hresolve, hlast.directory⟩, n₂, by omega, hlast⟩

/-- A slash at the end of a path leads nowhere else. -/
theorem Leads.of_slash {n : Nat} (h : files.Leads false n l [""] m) : m = l ∧ n = 0 := by
  generalize hss : [""] = ss at h
  cases h with
  | done => exact absurd hss (by simp)
  | here _ _ hdone =>
      obtain rfl := List.tail_eq_of_cons_eq hss
      cases hdone
      exact ⟨rfl, rfl⟩
  | up => exact absurd hss (by simp)
  | entry _ hs | link _ hs | new _ _ hs =>
      rw [← List.head_eq_of_cons_eq hss] at hs
      exact absurd hs (by simp)

/-- **The path of an entry that is no link leads to the entry**, unless it is too long. -/
theorem find_child (hpath : path ≠ "") (hc : Path.IsName c) (hlen : c.utf8ByteSize ≤ longestName)
    (hfind : files.find path = .ok (l, .directory)) (hnode : files.node? (l ++ [c]) = some node)
    (hlink : ∀ target, node ≠ .link target) (hzero : '\x00' ∉ (Path.child path c).toList)
    (hlong : (Path.child path c).utf8ByteSize ≤ longestPath) :
    files.find (Path.child path c) = .ok (l ++ [c], node) := by
  have htext := textOf_ne_empty files.workingDirectory
  obtain ⟨-, -, -, hwalk⟩ := resolve_eq_ok_iff.1 (find_eq_ok_iff.1 hfind).1
  obtain ⟨n, hn, hleads⟩ := walk_eq_ok_iff.1 hwalk
  obtain ⟨xs, hxs, hsegments⟩ :=
    Path.exists_segments_child (Path.join_ne_empty htext hpath) hc
  have hdirectory : files.Leads false n [] xs l := by
    obtain hxs | hxs := hxs
    · rwa [hxs] at hleads
    · rw [hxs] at hleads
      obtain ⟨k, n₁, n₂, rfl, hfirst, hslash⟩ := hleads.split
      obtain ⟨rfl, rfl⟩ := hslash.of_slash
      exact hfirst
  have hentry : files.Leads false 0 l [c] (l ++ [c]) :=
    .entry (node?_of_find hfind) (Path.isName_iff.1 hc).1 hlen hnode hlink .done
  refine find_eq_ok_iff.2 ⟨resolve_eq_ok_iff.2 ⟨hzero, Path.child_ne_empty hpath, hlong, ?_⟩, hnode⟩
  rw [Path.join_child htext hpath, hsegments]
  exact walk_eq_ok_iff.2 ⟨n, hn, hdirectory.append hentry⟩

/-- A segment that is no name leads to a directory. -/
theorem Leads.directory_of_not_isName {n : Nat} {s : String} (hl : files.Direct l)
    (hs : ¬Path.IsName s) (hslash : '/' ∉ s.toList) (h : files.Leads false n l [s] m) :
    files.node? m = some .directory := by
  cases h with
  | here hdir _ hdone =>
      cases hdone
      exact hdir
  | up hdir hdone =>
      cases hdone
      exact hl.node?_dropLast hdir
  | entry _ hnot | link _ hnot | new _ _ hnot =>
      exact absurd (Path.isName_iff.2 ⟨hnot, hslash⟩) hs

theorem exists_find_of_isFile (h : files.isFile path = true) :
    ∃ l node, files.find path = .ok (l, node) ∧ node.isFile = true := by
  rw [Files.isFile] at h
  split at h
  · exact ⟨_, _, ‹_›, h⟩
  · cases h

/-- **A path to a file ends in a name**: other segments lead to directories. -/
theorem exists_fileName?_of_isFile (h : files.isFile path = true) :
    ∃ name, Path.fileName? path = some name := by
  obtain ⟨l, node, hfind, hfile⟩ := exists_find_of_isFile h
  obtain ⟨hresolve, hnode⟩ := find_eq_ok_iff.1 hfind
  obtain ⟨n, hleads⟩ := exists_leads_of_resolve hresolve
  obtain ⟨xs, s, hsegments⟩ :=
    (List.eq_nil_or_concat' (Path.segments path)).resolve_left (Path.segments_ne_nil path)
  by_cases hs : Path.IsName s
  · exact ⟨s, Path.fileName?_of_segments hsegments hs⟩
  · obtain ⟨ys, hjoin⟩ := Path.exists_segments_join (textOf_ne_empty _) hsegments
    have hslash : ∀ t ∈ ys ++ [s], '/' ∉ t.toList := by
      rw [← hjoin]
      exact fun t => Path.noSlash_of_mem_segments
    rw [hjoin] at hleads
    obtain ⟨k, n₁, n₂, -, hfirst, hlast⟩ := hleads.split
    have hdirect : files.Direct k :=
      direct_of_leads .root (fun t ht => hslash t (List.mem_append_left _ ht)) hfirst
    have hdir := hlast.directory_of_not_isName hdirect hs (hslash s (by simp))
    obtain rfl := Option.some.inj (hnode.symm.trans hdir)
    cases hfile

end Files

end UnitFoundry
