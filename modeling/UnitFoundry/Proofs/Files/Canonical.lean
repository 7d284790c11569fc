import Mathlib.Data.List.Induction
import UnitFoundry.Proofs.Files.Leads
import UnitFoundry.Resolve.Closure

/-! # Canonical paths

A location is *direct* when directories lead to it from the root, name by name, and no link stands
on the way. Whatever a path leads to is direct, so the text of its location, taken as a path, can
lead nowhere else.

* **`Path.segments_textOf`**: the text of a location splits into the names of the location.
* **`Files.direct_of_leads`**: segments lead from a direct location to a direct location.
* **`Files.find_textOf`**: a path and its canonical form lead to the same node. -/

namespace UnitFoundry

/-! ## Segments -/

namespace Path

/-- A segment that names an entry of a directory. -/
structure IsName (s : String) : Prop where
  /-- It is not empty. -/
  ne_empty : s ≠ ""
  /-- It is not the directory itself. -/
  ne_here : s ≠ "."
  /-- It is not the directory above. -/
  ne_up : s ≠ ".."
  /-- It is one segment only. -/
  noSlash : '/' ∉ s.toList

/-- A name is any segment that stands for no other place. -/
theorem isName_iff {s : String} : IsName s ↔ s ∉ ["", ".", ".."] ∧ '/' ∉ s.toList := by
  constructor
  · intro h
    simp [h.ne_empty, h.ne_here, h.ne_up, h.noSlash]
  · rintro ⟨hs, hslash⟩
    simp only [List.mem_cons, List.not_mem_nil, or_false, not_or] at hs
    exact ⟨hs.1, hs.2.1, hs.2.2, hslash⟩

instance (s : String) : Decidable (IsName s) :=
  decidable_of_iff _ isName_iff.symm

@[simp] theorem splitSlash_ne_nil (cs : List Char) : splitSlash cs ≠ [] := by
  cases cs with
  | nil => exact List.cons_ne_nil _ _
  | cons c cs =>
      rw [splitSlash]
      split
      · exact List.cons_ne_nil _ _
      · split <;> exact List.cons_ne_nil _ _

theorem splitSlash_slash (cs : List Char) : splitSlash ('/' :: cs) = [] :: splitSlash cs := by
  rw [splitSlash]
  split
  · rename_i h
    exact absurd h (splitSlash_ne_nil cs)
  · rename_i s ss h
    rw [if_pos rfl, h]

/-- A text without slashes goes in front of the first segment. -/
theorem splitSlash_append {as cs s : List Char} {ss : List (List Char)} (has : '/' ∉ as)
    (h : splitSlash cs = s :: ss) : splitSlash (as ++ cs) = (as ++ s) :: ss := by
  induction as with
  | nil => exact h
  | cons a as ih =>
      have ha : a ≠ '/' := fun h => has (h ▸ List.mem_cons_self)
      have hih := ih fun h => has (List.mem_cons_of_mem _ h)
      rw [List.cons_append, splitSlash, hih]
      simp only [if_neg ha, List.cons_append]

/-- Splitting at slashes undoes joining with slashes. -/
theorem splitSlash_intercalate {l : List Char} {ls : List (List Char)}
    (h : ∀ s ∈ l :: ls, '/' ∉ s) : splitSlash (['/'].intercalate (l :: ls)) = l :: ls := by
  induction ls generalizing l with
  | nil =>
      have hl : splitSlash (l ++ []) = (l ++ []) :: [] :=
        splitSlash_append (h l List.mem_cons_self) rfl
      simpa using hl
  | cons l' ls ih =>
      have htail := ih fun s hs => h s (List.mem_cons_of_mem _ hs)
      have hslash := splitSlash_slash (['/'].intercalate (l' :: ls))
      rw [htail] at hslash
      rw [List.intercalate_cons_cons, List.append_assoc, List.singleton_append,
        splitSlash_append (h l List.mem_cons_self) hslash, List.append_nil]

theorem noSlash_of_mem_splitSlash {cs s : List Char} (h : s ∈ splitSlash cs) : '/' ∉ s := by
  induction cs generalizing s with
  | nil =>
      rw [splitSlash, List.mem_singleton] at h
      rw [h]
      exact List.not_mem_nil
  | cons c cs ih =>
      by_cases hc : c = '/'
      · rw [hc, splitSlash_slash] at h
        rcases List.mem_cons.1 h with rfl | h
        · exact List.not_mem_nil
        · exact ih h
      · cases hs : splitSlash cs with
        | nil => exact absurd hs (splitSlash_ne_nil cs)
        | cons t ts =>
            have hcs : splitSlash ([c] ++ cs) = ([c] ++ t) :: ts :=
              splitSlash_append (by simpa using Ne.symm hc) hs
            rw [List.singleton_append] at hcs
            rw [hs] at ih
            rw [hcs] at h
            rcases List.mem_cons.1 h with rfl | h
            · have ht : '/' ∉ t := ih List.mem_cons_self
              simpa [Ne.symm hc] using ht
            · exact ih (List.mem_cons_of_mem _ h)

theorem noSlash_of_mem_segments {path s : String} (h : s ∈ segments path) : '/' ∉ s.toList := by
  obtain ⟨cs, hcs, rfl⟩ := List.mem_map.1 h
  rw [String.toList_ofList]
  exact noSlash_of_mem_splitSlash hcs

/-- **The text of a location splits into the names of the location**, behind the empty segment in
front of the first slash. -/
theorem segments_textOf {s : String} {l : Location} (h : ∀ t ∈ s :: l, '/' ∉ t.toList) :
    segments (Files.textOf (s :: l)) = "" :: s :: l := by
  have hchars : ∀ cs ∈ s.toList :: l.map String.toList, '/' ∉ cs := by
    intro cs hcs
    rw [← List.map_cons (f := String.toList)] at hcs
    obtain ⟨t, ht, rfl⟩ := List.mem_map.1 hcs
    exact h t ht
  have htext : (Files.textOf (s :: l)).toList =
      '/' :: ['/'].intercalate (s.toList :: l.map String.toList) := by
    rw [Files.textOf, String.toList_append, String.toList_intercalate]
    rfl
  rw [segments, htext, splitSlash_slash, splitSlash_intercalate hchars]
  simp [Function.comp_def]

theorem isAbsolute_textOf (l : Location) : isAbsolute (Files.textOf l) = true := by
  rw [isAbsolute, Files.textOf, String.toList_append]
  rfl

end Path

/-! ## Direct locations -/

namespace Files

variable {files : Files} {l l' : Location} {s : String}

/-- Directories lead to the location from the root, and no link stands on the way. -/
inductive Direct (files : Files) : Location → Prop where
  /-- The root. -/
  | root : Direct files []
  /-- What stands in a directory and is no link. -/
  | child {l : Location} {s : String} {n : Node} : Direct files l →
    files.node? l = some .directory → Path.IsName s → s.utf8ByteSize ≤ longestName →
    files.node? (l ++ [s]) = some n → (∀ target, n ≠ .link target) → Direct files (l ++ [s])

namespace Direct

theorem dropLast (h : files.Direct l) : files.Direct l.dropLast := by
  cases h with
  | root => exact .root
  | child hl _ _ _ _ _ =>
      rw [List.dropLast_concat]
      exact hl

/-- What a direct location says about its last name. -/
theorem last (h : files.Direct (l ++ [s])) :
    files.node? l = some .directory ∧ Path.IsName s ∧ s.utf8ByteSize ≤ longestName ∧
      ∃ n, files.node? (l ++ [s]) = some n ∧ ∀ target, n ≠ .link target := by
  generalize hm : l ++ [s] = m at h
  cases h with
  | root => exact absurd hm (by simp)
  | child _ hdir hname hlen hnode hlink =>
      obtain ⟨rfl, hs⟩ := List.append_inj' hm rfl
      obtain rfl : s = _ := List.head_eq_of_cons_eq hs
      exact ⟨hdir, hname, hlen, _, hnode, hlink⟩

/-- Every place on the way to a direct location is direct. -/
theorem of_append {rest : Location} (h : files.Direct (l ++ rest)) : files.Direct l := by
  induction rest using List.reverseRecOn with
  | nil => rwa [List.append_nil] at h
  | append_singleton rest s ih =>
      rw [← List.append_assoc] at h
      have hdrop := h.dropLast
      rw [List.dropLast_concat] at hdrop
      exact ih hdrop

theorem noSlash (h : files.Direct l) : ∀ s ∈ l, '/' ∉ s.toList := by
  induction h with
  | root => exact fun s hs => absurd hs List.not_mem_nil
  | child _ _ hname _ _ _ ih =>
      intro t ht
      rcases List.mem_append.1 ht with ht | ht
      · exact ih t ht
      · rw [List.mem_singleton.1 ht]
        exact hname.noSlash

end Direct

/-- **Segments lead from a direct location to a direct location.** -/
theorem direct_of_leads {n : Nat} {ss : List String} (hl : files.Direct l)
    (hss : ∀ s ∈ ss, '/' ∉ s.toList) (h : files.Leads false n l ss l') : files.Direct l' := by
  induction h with
  | done => exact hl
  | here _ _ _ ih => exact ih hl (List.forall_mem_cons.1 hss).2
  | up _ _ ih => exact ih hl.dropLast (List.forall_mem_cons.1 hss).2
  | entry hdir hs hlen hnode hlink _ ih =>
      have hname : Path.IsName _ := Path.isName_iff.2 ⟨hs, hss _ List.mem_cons_self⟩
      exact ih (.child hl hdir hname hlen hnode hlink) (List.forall_mem_cons.1 hss).2
  | link _ _ _ _ _ _ ih =>
      -- the walk goes on from the root or from here, without the link itself
      refine ih ?_ (List.forall_mem_append.2 ⟨fun _ => Path.noSlash_of_mem_segments, ?_⟩)
      · split
        · exact .root
        · exact hl
      · exact (List.forall_mem_cons.1 hss).2
  | new hnew => cases hnew

/-- An empty segment stays where it is. -/
theorem walk_empty {rest : List String} (budget : Nat) (hdir : files.node? l = some .directory) :
    files.walk false budget l ("" :: rest) = files.walk false budget l rest := by
  rw [walk_congr fun _ => walkUntil_here hdir (.inl rfl)]

/-- The names of a direct location lead there without a link. -/
theorem Direct.leads {rest : List String} (h : files.Direct (l ++ rest)) :
    files.Leads false 0 l rest (l ++ rest) := by
  induction rest generalizing l with
  | nil =>
      rw [List.append_nil]
      exact .done
  | cons s rest ih =>
      have hassoc : l ++ s :: rest = (l ++ [s]) ++ rest := by
        rw [List.append_assoc, List.singleton_append]
      rw [hassoc] at h ⊢
      obtain ⟨hdir, hname, hlen, n, hnode, hlink⟩ := h.of_append.last
      exact .entry hdir (Path.isName_iff.1 hname).1 hlen hnode hlink (ih h)

/-- A walk along the names of a direct location ends there. -/
theorem walk_of_direct {rest : List String} (budget : Nat) (h : files.Direct (l ++ rest)) :
    files.walk false budget l rest = .ok (l ++ rest) :=
  walk_eq_ok_iff.2 ⟨0, Nat.zero_le _, h.leads⟩

/-! ## What a canonical path leads to -/

/-- A path that can be asked for is walked from the root, a relative one along the working
directory. -/
theorem resolve_eq_ok_iff {path : String} {mayBeNew : Bool} :
    files.resolve path mayBeNew = .ok l ↔
      '\x00' ∉ path.toList ∧ path ≠ "" ∧ path.utf8ByteSize ≤ longestPath ∧
        files.walk mayBeNew linkBudget []
          (Path.segments (Path.join (textOf files.workingDirectory) path)) = .ok l := by
  rw [resolve]
  by_cases hzero : '\x00' ∈ path.toList
  · simp [hzero]
  by_cases hempty : path = ""
  · simp [hempty]
  by_cases hlen : path.utf8ByteSize ≤ longestPath
  · simp [hzero, hempty, hlen, Nat.not_lt_of_le hlen]
  · simp [hzero, hempty, hlen, Nat.lt_of_not_le hlen]

theorem exists_leads_of_resolve {path : String} {mayBeNew : Bool}
    (h : files.resolve path mayBeNew = .ok l) :
    ∃ n, files.Leads mayBeNew n []
      (Path.segments (Path.join (textOf files.workingDirectory) path)) l := by
  obtain ⟨-, -, -, hwalk⟩ := resolve_eq_ok_iff.1 h
  obtain ⟨n, -, hleads⟩ := walk_eq_ok_iff.1 hwalk
  exact ⟨n, hleads⟩

/-- **Whatever a path leads to is direct.** -/
theorem direct_of_resolve {path : String} (h : files.resolve path = .ok l) : files.Direct l := by
  obtain ⟨n, hleads⟩ := exists_leads_of_resolve h
  exact direct_of_leads .root (fun _ => Path.noSlash_of_mem_segments) hleads

theorem find_eq_ok_iff {path : String} {n : Node} :
    files.find path = .ok (l, n) ↔ files.resolve path = .ok l ∧ files.node? l = some n := by
  rw [find]
  cases hr : files.resolve path with
  | error e => simp [bind, Except.bind]
  | ok m =>
      simp only [bind, Except.bind, Except.ok.injEq]
      constructor
      · intro h
        split at h
        · rename_i n' hn
          simp only [pure, Except.pure, Except.ok.injEq, Prod.mk.injEq] at h
          exact ⟨h.1, h.1 ▸ h.2 ▸ hn⟩
        · exact absurd h (by simp [throw, throwThe, MonadExceptOf.throw])
      · rintro ⟨rfl, hn⟩
        rw [hn]
        rfl

/-- **A path and its canonical form lead to the same node**, if the canonical form leads
anywhere. -/
theorem find_textOf {path : String} {n n' : Node}
    (h : files.find path = .ok (l, n)) (h' : files.find (textOf l) = .ok (l', n')) :
    l' = l ∧ n' = n := by
  obtain ⟨hr, hn⟩ := find_eq_ok_iff.1 h
  obtain ⟨hr', hn'⟩ := find_eq_ok_iff.1 h'
  have hdirect : files.Direct l := direct_of_resolve hr
  have heq : l' = l := by
    obtain ⟨-, -, -, hwalk⟩ := resolve_eq_ok_iff.1 hr'
    rw [Path.join, if_pos (Path.isAbsolute_textOf l)] at hwalk
    have hroot : files.node? [] = some .directory := by rw [node?, if_pos rfl]
    cases l with
    | nil =>
        -- the text of the root has two empty segments
        have hsegments : Path.segments (textOf []) = ["", ""] := by decide
        have hnames : files.walk false linkBudget [] [] = .ok [] :=
          walk_of_direct linkBudget hdirect
        rw [hsegments, walk_empty _ hroot, walk_empty _ hroot, hnames, Except.ok.injEq] at hwalk
        exact hwalk.symm
    | cons s l =>
        have hnames : files.walk false linkBudget [] (s :: l) = .ok (s :: l) :=
          walk_of_direct linkBudget hdirect
        rw [Path.segments_textOf hdirect.noSlash, walk_empty _ hroot, hnames,
          Except.ok.injEq] at hwalk
        exact hwalk.symm
  subst heq
  rw [hn] at hn'
  exact ⟨rfl, (Option.some.inj hn').symm⟩

theorem exists_find_of_canonicalize {path p : String} (h : files.canonicalize path = .ok p) :
    ∃ l n, files.find path = .ok (l, n) ∧ p = textOf l := by
  rw [canonicalize] at h
  cases hf : files.find path with
  | error e => simp [hf, bind, Except.bind] at h
  | ok ln =>
      obtain ⟨l, n⟩ := ln
      simp only [hf, bind, Except.bind, pure, Except.pure, Except.ok.injEq] at h
      exact ⟨l, n, rfl, h.symm⟩

/-- Direct locations with the same text are the same. -/
theorem Direct.textOf_inj (hl : files.Direct l) (hl' : files.Direct l')
    (h : textOf l = textOf l') : l = l' := by
  have hroot : Path.segments (textOf []) = ["", ""] := by decide
  -- no name is empty, so the text of the root is that of no other location
  have hnamed : ∀ {s : String} {l : Location}, files.Direct (s :: l) →
      textOf (s :: l) ≠ textOf [] := by
    intro s l hdirect heq
    have hsegments := congrArg Path.segments heq
    rw [Path.segments_textOf hdirect.noSlash, hroot] at hsegments
    have hsplit : files.Direct ([s] ++ l) := hdirect
    have hfirst : files.Direct ([] ++ [s]) := hsplit.of_append
    exact hfirst.last.2.1.ne_empty (List.cons_eq_cons.1 (List.cons_eq_cons.1 hsegments).2).1
  cases l with
  | nil =>
      cases l' with
      | nil => rfl
      | cons s' l' => exact absurd h.symm (hnamed hl')
  | cons s l =>
      cases l' with
      | nil => exact absurd h (hnamed hl)
      | cons s' l' =>
          have hsegments := congrArg Path.segments h
          rw [Path.segments_textOf hl.noSlash, Path.segments_textOf hl'.noSlash] at hsegments
          exact (List.cons_eq_cons.1 hsegments).2

/-- **Paths with the same canonical form lead to the same node.** -/
theorem find_congr {path path' p : String} (h : files.canonicalize path = .ok p)
    (h' : files.canonicalize path' = .ok p) : files.find path = files.find path' := by
  obtain ⟨l, n, hfind, rfl⟩ := exists_find_of_canonicalize h
  obtain ⟨l', n', hfind', htext⟩ := exists_find_of_canonicalize h'
  obtain ⟨hr, hn⟩ := find_eq_ok_iff.1 hfind
  obtain ⟨hr', hn'⟩ := find_eq_ok_iff.1 hfind'
  obtain rfl := (direct_of_resolve hr).textOf_inj (direct_of_resolve hr') htext
  obtain rfl := Option.some.inj (hn.symm.trans hn')
  rw [hfind, hfind']

/-- **A canonical path that leads to a file is canonical for itself.** -/
theorem canonicalize_of_isFile_canonical {path p : String} (hc : files.canonicalize path = .ok p)
    (hp : files.isFile p = true) : files.canonicalize p = .ok p ∧ files.isFile path = true := by
  obtain ⟨l, n, hfind, rfl⟩ := exists_find_of_canonicalize hc
  rw [isFile] at hp ⊢
  cases hf : files.find (textOf l) with
  | error e =>
      rw [hf] at hp
      exact absurd hp Bool.false_ne_true
  | ok ln =>
      obtain ⟨l', n'⟩ := ln
      obtain ⟨rfl, rfl⟩ := find_textOf hfind hf
      rw [hf] at hp
      rw [hfind]
      exact ⟨by rw [canonicalize, hf]; rfl, hp⟩

end Files

end UnitFoundry
