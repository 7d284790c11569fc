import UnitFoundry.Counting
import UnitFoundry.Files.Basic

/-! # Searching a directory tree for a file

`Files.search?` looks through a directory and everything below it, entries in the order of their
names and each subdirectory in its place among them. What kind of node an entry is, the directory
tells; only links are looked up, and they are followed, except a link back to a directory that the
search has passed through on its way. What cannot be read or looked up is passed over. The search
ends because each link leads to a directory that is not yet on the way, and between two links the
way only goes down. -/

namespace UnitFoundry

namespace Files

/-- The locations of all directories. -/
def directories (files : Files) : List Location :=
  [] :: (files.nodes.filter fun (_, n) => n = .directory).map (·.1)

/-- The number of directories that are not on the way. -/
def offWay (files : Files) (way : List Location) : Nat :=
  files.directories.countP fun d => !way.contains d

/-- The length of the longest location. -/
def depth (files : Files) : Nat :=
  (files.nodes.map (·.1.length)).foldr max 0

theorem mem_nodes_of_mem_entries {files : Files} {l : Location} {e : String × Node}
    (h : e ∈ files.entries l) : (l ++ [e.1], e.2) ∈ files.nodes := by
  unfold entries at h
  split at h
  · simp at h
  simp only [List.mem_mergeSort, List.mem_filterMap] at h
  obtain ⟨⟨m, n⟩, hm, he⟩ := h
  cases hl : m.getLast? with
  | none => simp [hl] at he
  | some name =>
    simp only [hl, Option.ite_none_right_eq_some, Option.some.injEq] at he
    obtain ⟨hd, rfl⟩ := he
    have hne : m ≠ [] := by rintro rfl; simp at hl
    have : m = m.dropLast ++ [name] := by
      rw [List.getLast?_eq_some_getLast hne] at hl
      injection hl with hl
      rw [← hl]
      exact (List.dropLast_concat_getLast hne).symm
    rw [hd] at this
    rwa [this] at hm

theorem length_le_depth {files : Files} {l : Location} {n : Node} (h : (l, n) ∈ files.nodes) :
    l.length ≤ files.depth := by
  unfold depth
  revert h
  generalize files.nodes = ns
  intro h
  induction ns with
  | nil => simp at h
  | cons e es ih =>
    rcases List.mem_cons.1 h with rfl | h
    · simp only [List.map_cons, List.foldr_cons]; omega
    · have := ih h
      simp only [List.map_cons, List.foldr_cons]; omega

theorem mem_directories_of_mem {files : Files} {l : Location}
    (h : (l, Node.directory) ∈ files.nodes) : l ∈ files.directories := by
  simp only [directories, List.mem_cons, List.mem_map, List.mem_filter]
  exact Or.inr ⟨_, ⟨h, by simp⟩, rfl⟩

theorem mem_of_node?_eq_some {files : Files} {l : Location} {n : Node}
    (h : files.node? l = some n) : l = [] ∨ (l, n) ∈ files.nodes := by
  unfold node? at h
  split at h
  · exact Or.inl ‹_›
  · right
    revert h
    generalize files.nodes = ns
    intro h
    induction ns with
    | nil => simp at h
    | cons e es ih =>
      obtain ⟨m, n'⟩ := e
      rw [List.lookup_cons] at h
      split at h
      · rename_i heq
        simp only [beq_iff_eq] at heq
        simp_all
      · exact List.mem_cons_of_mem _ (ih h)

theorem mem_directories_of_node? {files : Files} {l : Location}
    (h : files.node? l = some .directory) : l ∈ files.directories := by
  rcases mem_of_node?_eq_some h with rfl | h
  · exact List.mem_cons_self
  · exact mem_directories_of_mem h

theorem offWay_cons_le (files : Files) (way : List Location) (d : Location) :
    files.offWay (d :: way) ≤ files.offWay way := by
  refine List.countP_mono_left fun e _ h => ?_
  simp only [List.contains_cons, Bool.not_or, Bool.and_eq_true] at h
  exact h.2

theorem offWay_cons_lt {files : Files} {way : List Location} {d : Location}
    (h : d ∈ files.directories) (hw : d ∉ way) : files.offWay (d :: way) < files.offWay way := by
  refine countP_lt_of_excludes (fun e _ he => ?_) h (by simp) (by simpa using hw)
  simp only [List.contains_cons, Bool.not_or, Bool.and_eq_true] at he
  exact he.2

theorem node?_of_find {files : Files} {path : String} {l : Location} {n : Node}
    (h : files.find path = .ok (l, n)) : files.node? l = some n := by
  unfold find at h
  simp only [bind, Except.bind] at h
  split at h
  · simp at h
  · split at h
    · rename_i hn
      simp only [pure, Except.pure, Except.ok.injEq, Prod.mk.injEq] at h
      obtain ⟨rfl, rfl⟩ := h
      exact hn
    · simp [throw, throwThe, MonadExceptOf.throw] at h

/-- Whether an entry of a directory, with its path, is a regular file. -/
def isFileAt (files : Files) (path : String) : Node → Bool
  | .link _ => files.isFile path
  | node => node.isFile

/-- The directory in which a search goes on at an entry, given the path of the entry. A directory is
opened under its path, which may be too long for that. -/
def entered? (files : Files) (l : Location) (way : List Location) (path : String)
    (e : String × Node) : Option Location :=
  match e.2 with
  | .directory => if (files.find path).isOk then some (l ++ [e.1]) else none
  | .link _ =>
    match files.find path with
    | .ok (m, .directory) => if way.contains m then none else some m
    | _ => none
  | _ => none

theorem entered?_cases {files : Files} {l m : Location} {way : List Location} {path : String}
    {e : String × Node} (h : files.entered? l way path e = some m) :
    (e.2 = .directory ∧ (files.find path).isOk = true ∧ m = l ++ [e.1]) ∨
      ((∃ target, e.2 = .link target) ∧ files.find path = .ok (m, .directory) ∧ m ∉ way) := by
  unfold entered? at h
  split at h
  · rename_i hdir
    split at h
    · rename_i hok
      exact Or.inl ⟨hdir, hok, (Option.some.inj h).symm⟩
    · simp at h
  · rename_i target hlink
    split at h
    · rename_i k hfind
      split at h
      · simp at h
      · rename_i hway
        obtain rfl := Option.some.inj h
        exact Or.inr ⟨⟨target, hlink⟩, hfind, fun hmem => hway (List.contains_iff_mem.2 hmem)⟩
    · simp at h
  · simp at h

/-- Where a search goes on, the way is longer or the place lies deeper. -/
theorem entered?_progress {files : Files} {l m : Location} {way : List Location} {path : String}
    {e : String × Node} (he : e ∈ files.entries l) (h : files.entered? l way path e = some m) :
    Prod.Lex (· < ·) (· < ·) (files.offWay (m :: way), files.depth - m.length)
      (files.offWay way, files.depth - l.length) := by
  rcases entered?_cases h with ⟨hdir, -, rfl⟩ | ⟨-, hfind, hway⟩
  · -- a subdirectory is new on the way, or at least lies deeper
    have hmem := mem_nodes_of_mem_entries he
    rw [hdir] at hmem
    have hlen := length_le_depth hmem
    have hdirectory := mem_directories_of_mem hmem
    by_cases hw : l ++ [e.1] ∈ way
    · have hle := offWay_cons_le files way (l ++ [e.1])
      rcases Nat.lt_or_eq_of_le hle with h | h
      · exact Prod.Lex.left _ _ h
      · rw [h]
        apply Prod.Lex.right
        simp only [List.length_append, List.length_singleton] at hlen ⊢
        omega
    · exact Prod.Lex.left _ _ (offWay_cons_lt hdirectory hw)
  · -- a link that is followed leads to a directory that is new on the way
    exact Prod.Lex.left _ _ (offWay_cons_lt (mem_directories_of_node? (node?_of_find hfind)) hway)

set_option linter.unusedVariables false in
/-- The first file of a name in a directory or below it, as a path that starts with `text`. The
locations that the search has come through are `way`, that of the directory itself included. -/
def search? (files : Files) (name : String) (l : Location) (way : List Location) (text : String) :
    Option String :=
  (files.entries l).attach.findSome? fun ⟨e, he⟩ =>
    let path := Path.child text e.1
    if e.1 = name ∧ files.isFileAt path e.2 then some path
    else
      match h : files.entered? l way path e with
      | some m => files.search? name m (m :: way) path
      | none => none
termination_by (files.offWay way, files.depth - l.length)
decreasing_by exact entered?_progress he h

/-- The first file of a name at a path or below it. -/
def searchAt? (files : Files) (path name : String) : Option String :=
  if (Path.fileName? path).getD path = name ∧ files.isFile path then some path
  else
    match files.find path with
    | .ok (l, .directory) => files.search? name l [l] path
    | _ => none

end Files

end UnitFoundry
