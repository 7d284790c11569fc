import Mathlib.Data.List.Lex
import Mathlib.Data.Prod.Lex
import Mathlib.Data.String.Basic
import UnitFoundry.Compile.Rustc
import UnitFoundry.Proofs.Files.WellFormed
import UnitFoundry.Proofs.Lists

/-! # Search directories

The directories of references are kept in order, part by part, and each once. So their list does
not tell in which order the references came, as long as no two of them are different texts for one
directory. The directories of canonical paths never are.

* **`Path.partsLe_iff`**: the order on paths is a lexicographic one.
* **`Path.parent?_textOf`**: what stands above the text of a location is the text of the location
  above.
* **`RustcCompiler.searchDirectories_perm`**: references in another order lie in the same list of
  directories. -/

namespace UnitFoundry

namespace Path

/-! ## The order of paths -/

/-- Where a part stands in the order: first what kind it is of, then its name. -/
def Part.rank : Part → ℕ ×ₗ String
  | .root => toLex (0, "")
  | .here => toLex (1, "")
  | .up => toLex (2, "")
  | .name s => toLex (3, s)

theorem Part.rank_injective : Function.Injective Part.rank := by
  intro a b h
  cases a <;> cases b <;> simp_all [rank]

theorem Part.lt_iff (a b : Part) : a.lt b = true ↔ a.rank < b.rank := by
  cases a <;> cases b <;> simp [lt, rank, Prod.Lex.toLex_lt_toLex]

/-- Where a path stands in the order. -/
def rank (path : String) : List (ℕ ×ₗ String) :=
  (parts path).map Part.rank

theorem rank_eq_iff {p q : String} : rank p = rank q ↔ parts p = parts q :=
  Part.rank_injective.list_map.eq_iff

/-- **One path stands before another, part by part, or is its beginning.** -/
theorem partsLe_iff (as bs : List Part) :
    partsLe as bs = true ↔ as.map Part.rank ≤ bs.map Part.rank := by
  induction as generalizing bs with
  | nil => exact iff_of_true rfl (nil_le_list _)
  | cons a as ih =>
      cases bs with
      | nil =>
          refine iff_of_false Bool.false_ne_true fun h => ?_
          exact List.cons_ne_nil _ _ (le_antisymm h (nil_le_list _))
      | cons b bs =>
          rw [partsLe, List.map_cons, List.map_cons, cons_le_cons_iff]
          by_cases hab : a = b
          · rw [if_pos hab, ih, hab]
            exact ⟨fun h => Or.inr ⟨rfl, h⟩, fun h => h.elim (fun hlt => absurd hlt (lt_irrefl _))
              And.right⟩
          · have hrank : a.rank ≠ b.rank := fun h => hab (Part.rank_injective h)
            rw [if_neg hab, Part.lt_iff]
            exact ⟨Or.inl, fun h => h.resolve_right fun hboth => hrank hboth.1⟩

/-! ## Texts of locations -/

/-- Names are all kept when the end of a path is dropped that stands for no part. -/
theorem dropTrailingLater_of_names {ss : List String} (h : ∀ s ∈ ss, IsName s) :
    dropTrailing.dropTrailingLater ss = ss := by
  induction ss with
  | nil => rfl
  | cons s ss ih =>
      obtain ⟨hs, hss⟩ := List.forall_mem_cons.1 h
      have hpart : (s :: ss).any (isPart false) = true := by
        simp [isPart, hs.ne_empty, hs.ne_here]
      rw [dropTrailing.dropTrailingLater, if_pos hpart, ih hss]

theorem dropTrailing_of_names {ss : List String} (hne : ss ≠ []) (h : ∀ s ∈ ss, IsName s) :
    dropTrailing ("" :: ss) = "" :: ss := by
  obtain ⟨s, rest, rfl⟩ := List.exists_cons_of_ne_nil hne
  have hs := h s List.mem_cons_self
  have hkept : ((s :: rest).filter (isPart false)).isEmpty = false := by
    simp [isPart, hs.ne_empty, hs.ne_here]
  rw [dropTrailing, hkept, if_neg Bool.false_ne_true, dropTrailingLater_of_names h]

variable {l : Location}

/-- **The parts of the text of a location are the root and the names of the location.** -/
theorem parts_textOf (h : ∀ s ∈ l, IsName s) :
    parts (Files.textOf l) = .root :: l.map .name := by
  cases l with
  | nil => decide
  | cons s l =>
      rw [parts, if_pos (isAbsolute_textOf _), segments_textOf fun t ht => (h t ht).noSlash]
      have hnames : ∀ ss : List String, (∀ t ∈ ss, IsName t) →
          (ss.filterMap fun t => if (t.isEmpty || t = ".") = true then none
            else if t = ".." then some Part.up else some (.name t)) = ss.map .name := by
        intro ss hss
        rw [← List.filterMap_eq_map]
        refine List.filterMap_congr fun t ht => ?_
        simp [(hss t ht).ne_empty, (hss t ht).ne_here, (hss t ht).ne_up]
      rw [List.filterMap_cons_none (by rfl), hnames _ h]

/-- Locations whose texts have the same parts are the same. -/
theorem eq_of_parts_textOf {l' : Location} (h : ∀ s ∈ l, IsName s) (h' : ∀ s ∈ l', IsName s)
    (hparts : parts (Files.textOf l) = parts (Files.textOf l')) : l = l' := by
  rw [parts_textOf h, parts_textOf h', List.cons_inj_right] at hparts
  exact List.map_injective_iff.2 (fun _ _ => Part.name.inj) hparts

/-- **What stands above the text of a location is the text of the location above.** -/
theorem parent?_textOf {d : String} (h : ∀ s ∈ l, IsName s)
    (hd : parent? (Files.textOf l) = some d) : d = Files.textOf l.dropLast := by
  cases l with
  | nil =>
      have hroot : parent? (Files.textOf []) = none := by decide
      exact absurd (hroot.symm.trans hd) (by simp)
  | cons s l =>
      have habove : ∀ t ∈ (s :: l).dropLast, IsName t := fun t ht => h t (List.dropLast_subset _ ht)
      rw [parent?, parts_textOf h, segments_textOf fun t ht => (h t ht).noSlash,
        dropTrailing_of_names (List.cons_ne_nil _ _) h, List.dropLast_cons_of_ne_nil (by simp),
        isAbsolute_textOf] at hd
      by_cases hroot : (s :: l).dropLast = []
      · rw [hroot] at hd ⊢
        exact (Option.some.inj hd).symm
      · rw [dropTrailing_of_names hroot habove] at hd
        obtain ⟨t, rest, hcons⟩ := List.exists_cons_of_ne_nil hroot
        rw [hcons] at hd ⊢
        have htext := Option.some.inj hd
        rw [← htext, Files.textOf, String.intercalate_cons_cons]
        rfl

end Path

namespace RustcCompiler

/-! ## Adding directories -/

variable {d e : String} {ds : List String}

theorem insertDirectory_of_eq (h : Path.rank d = Path.rank e) :
    insertDirectory d (e :: ds) = d :: ds := by
  rw [insertDirectory, if_pos (Path.rank_eq_iff.1 h)]

theorem insertDirectory_of_lt (h : Path.rank d < Path.rank e) :
    insertDirectory d (e :: ds) = d :: e :: ds := by
  rw [insertDirectory, if_neg fun heq => h.ne (Path.rank_eq_iff.2 heq),
    if_pos ((Path.partsLe_iff _ _).2 h.le)]

theorem insertDirectory_of_gt (h : Path.rank e < Path.rank d) :
    insertDirectory d (e :: ds) = e :: insertDirectory d ds := by
  rw [insertDirectory, if_neg fun heq => h.ne' (Path.rank_eq_iff.2 heq),
    if_neg fun hle => h.not_ge ((Path.partsLe_iff _ _).1 hle)]

/-- Directories that stand in different places can be added in either order. -/
theorem insertDirectory_comm_of_lt (h : Path.rank d < Path.rank e) (ds : List String) :
    insertDirectory d (insertDirectory e ds) = insertDirectory e (insertDirectory d ds) := by
  induction ds with
  | nil =>
      show insertDirectory d [e] = insertDirectory e [d]
      rw [insertDirectory_of_lt h, insertDirectory_of_gt h]
      rfl
  | cons f ds ih =>
      obtain hef | hef | hfe := lt_trichotomy (Path.rank e) (Path.rank f)
      · rw [insertDirectory_of_lt hef, insertDirectory_of_lt h, insertDirectory_of_lt (h.trans hef),
          insertDirectory_of_gt h, insertDirectory_of_lt hef]
      · rw [insertDirectory_of_eq hef, insertDirectory_of_lt h, insertDirectory_of_lt (hef ▸ h),
          insertDirectory_of_gt h, insertDirectory_of_eq hef]
      · rw [insertDirectory_of_gt hfe]
        obtain hdf | hdf | hfd := lt_trichotomy (Path.rank d) (Path.rank f)
        · rw [insertDirectory_of_lt hdf, insertDirectory_of_lt hdf, insertDirectory_of_gt h,
            insertDirectory_of_gt hfe]
        · rw [insertDirectory_of_eq hdf, insertDirectory_of_eq hdf, insertDirectory_of_gt h]
        · rw [insertDirectory_of_gt hfd, insertDirectory_of_gt hfd, insertDirectory_of_gt hfe, ih]

/-- **Directories can be added in either order**, if they are not different texts for one
directory. -/
theorem insertDirectory_comm (h : Path.parts d = Path.parts e → d = e) (ds : List String) :
    insertDirectory d (insertDirectory e ds) = insertDirectory e (insertDirectory d ds) := by
  obtain hlt | heq | hgt := lt_trichotomy (Path.rank d) (Path.rank e)
  · exact insertDirectory_comm_of_lt hlt ds
  · rw [h (Path.rank_eq_iff.1 heq)]
  · exact (insertDirectory_comm_of_lt hgt ds).symm

/-! ## The directories of references -/

/-- The reference is to no file, or to a file by its canonical path. -/
def IsCanonical (r : Reference) : Prop :=
  ∀ p, r.path? = some p → ∃ l : Location, (∀ s ∈ l, Path.IsName s) ∧ p = Files.textOf l

/-- **References in another order lie in the same list of directories**, if they have canonical
paths. -/
theorem searchDirectories_perm {rs rs' : List Reference} (hperm : rs.Perm rs')
    (hrs : ∀ r ∈ rs, IsCanonical r) : searchDirectories rs = searchDirectories rs' := by
  have hdirectory : ∀ d ∈ rs.filterMap (fun r => r.path?.bind Path.parent?),
      ∃ l : Location, (∀ s ∈ l, Path.IsName s) ∧ d = Files.textOf l := by
    intro d hd
    obtain ⟨r, hr, hparent⟩ := List.mem_filterMap.1 hd
    obtain ⟨p, hp, hparent⟩ := Option.bind_eq_some_iff.1 hparent
    obtain ⟨l, hl, rfl⟩ := hrs r hr p hp
    exact ⟨l.dropLast, fun s hs => hl s (List.dropLast_subset _ hs), Path.parent?_textOf hl hparent⟩
  refine (hperm.filterMap _).foldl_eq' (fun d hd e he ds => insertDirectory_comm ?_ ds) []
  intro hparts
  obtain ⟨l, hl, rfl⟩ := hdirectory d hd
  obtain ⟨l', hl', rfl⟩ := hdirectory e he
  rw [Path.eq_of_parts_textOf hl' hl hparts]

end RustcCompiler

end UnitFoundry
