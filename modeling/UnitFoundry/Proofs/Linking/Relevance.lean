import Mathlib.Data.List.Find
import UnitFoundry.Proofs.Linking.Soundness

/-! # What linking depends on

Linking for a module only looks up module names to which the imports of the module lead. So two
lists of references that have the same origin for each of these names are linked alike, whatever
else they hold and in whichever order.

* **`Linking.AgreeFor`**: two lists of references have the same origins where it matters.
* **`Linking.AgreeFor.symm`**: it does not matter along whose files the names are reached.
* **`Linking.linkFor_congr`**: linking does the same for both lists. -/

namespace UnitFoundry.Linking

/-- Where the unit of a module name comes from: the origin of the first reference of that name. -/
def origin? (references : List Reference) (name : String) : Option Origin :=
  (references.find? (·.name = name)).map (·.origin)

/-- Whether two lists of references have the same origin, or none, for each module name to which
the imports of a module lead. -/
def AgreeFor {E : Engine} (files : Files) (m : E.Module) (rs rs' : List Reference) : Prop :=
  ∀ name, Reaches files rs m name → origin? rs name = origin? rs' name

variable {E : Engine} {files : Files} {references rs rs' : List Reference} {m : E.Module}
  {name path : String} {os : List (Opened E)}

/-! ## Origins -/

/-- With distinct names, the origin of a name is that of any reference with the name. -/
theorem origin?_eq_some_iff (hnodup : (references.map (·.name)).Nodup) {o : Origin} :
    origin? references name = some o ↔ ∃ r ∈ references, r.name = name ∧ r.origin = o := by
  rw [origin?, Option.map_eq_some_iff]
  constructor
  · rintro ⟨r, hr, ho⟩
    exact ⟨r, List.mem_of_find?_eq_some hr, Reference.name_of_find?_eq_some hr, ho⟩
  · rintro ⟨r, hr, rfl, ho⟩
    cases hfind : references.find? (·.name = r.name) with
    | none => exact absurd (decide_eq_true rfl) (List.find?_eq_none.1 hfind r hr)
    | some r' =>
        have heq := List.inj_on_of_nodup_map hnodup (List.mem_of_find?_eq_some hfind) hr
          (Reference.name_of_find?_eq_some hfind)
        exact ⟨r', rfl, heq ▸ ho⟩

theorem isFileAt_iff_origin? (hnodup : (references.map (·.name)).Nodup) :
    IsFileAt references name path ↔ origin? references name = some (.file path) := by
  rw [origin?_eq_some_iff hnodup, IsFileAt]
  refine exists_congr fun r => and_congr_right fun _ => and_congr_right fun _ => ?_
  rw [Reference.path?]
  cases r.origin with
  | file p => simp
  | host => simp

theorem isHosted_iff_origin? (hnodup : (references.map (·.name)).Nodup) :
    isHosted references name = true ↔ origin? references name = some .host := by
  rw [origin?_eq_some_iff hnodup, isHosted, List.any_eq_true]
  refine exists_congr fun r => and_congr_right fun _ => ?_
  rw [Bool.and_eq_true, decide_eq_true_eq, Reference.isHost, decide_eq_true_eq, and_comm]

theorem file?_congr (hrs : (rs.map (·.name)).Nodup) (hrs' : (rs'.map (·.name)).Nodup)
    (h : origin? rs name = origin? rs' name) : file? rs name = file? rs' name :=
  Option.ext fun path => by
    rw [file?_eq_some_iff hrs, file?_eq_some_iff hrs', isFileAt_iff_origin? hrs,
      isFileAt_iff_origin? hrs', h]

theorem isHosted_congr (hrs : (rs.map (·.name)).Nodup) (hrs' : (rs'.map (·.name)).Nodup)
    (h : origin? rs name = origin? rs' name) : isHosted rs name = isHosted rs' name := by
  rw [Bool.eq_iff_iff, isHosted_iff_origin? hrs, isHosted_iff_origin? hrs', h]

theorem imports_congr (hrs : (rs.map (·.name)).Nodup) (hrs' : (rs'.map (·.name)).Nodup)
    (h : origin? rs name = origin? rs' name) {target : String} :
    Imports E files rs name target ↔ Imports E files rs' name target := by
  rw [Imports, Imports]
  refine exists_congr fun path => exists_congr fun d => and_congr_left fun _ => ?_
  rw [isFileAt_iff_origin? hrs, isFileAt_iff_origin? hrs', h]

/-! ## Where two lists agree -/

namespace AgreeFor

/-- The same names are reached. -/
theorem reaches_iff (hrs : (rs.map (·.name)).Nodup) (hrs' : (rs'.map (·.name)).Nodup)
    (h : AgreeFor files m rs rs') : Reaches files rs m name ↔ Reaches files rs' m name := by
  constructor
  · intro hreach
    induction hreach with
    | direct hmem => exact .direct hmem
    | next hfrom himports ih => exact ih.next ((imports_congr hrs hrs' (h _ hfrom)).1 himports)
  · -- a name that the second list reaches has been reached by the first, so there they agree
    intro hreach
    induction hreach with
    | direct hmem => exact .direct hmem
    | next _ himports ih => exact ih.next ((imports_congr hrs hrs' (h _ ih)).2 himports)

/-- **It does not matter along whose files the names are reached.** -/
theorem symm (hrs : (rs.map (·.name)).Nodup) (hrs' : (rs'.map (·.name)).Nodup)
    (h : AgreeFor files m rs rs') : AgreeFor files m rs' rs :=
  fun name hreach => (h name ((h.reaches_iff hrs hrs').2 hreach)).symm

/-- The order of the references does not matter. -/
theorem of_perm (hrs : (rs.map (·.name)).Nodup) (hperm : rs.Perm rs') :
    AgreeFor files m rs rs' := by
  intro name _
  have hrs' : (rs'.map (·.name)).Nodup := (hperm.map _).nodup_iff.1 hrs
  refine Option.ext fun o => ?_
  rw [origin?_eq_some_iff hrs, origin?_eq_some_iff hrs']
  exact exists_congr fun r => and_congr_left fun _ => hperm.mem_iff

/-- References whose names are not reached do not matter. -/
theorem of_subset (hrs : (rs.map (·.name)).Nodup) (hrs' : (rs'.map (·.name)).Nodup)
    (hsub : ∀ r ∈ rs, r ∈ rs') (hnew : ∀ r ∈ rs', r ∉ rs → ¬Reaches files rs m r.name) :
    AgreeFor files m rs rs' := by
  intro name hreach
  refine Option.ext fun o => ?_
  rw [origin?_eq_some_iff hrs, origin?_eq_some_iff hrs']
  refine exists_congr fun r => ⟨fun ⟨hr, h⟩ => ⟨hsub r hr, h⟩, fun ⟨hr, hname, ho⟩ => ?_⟩
  by_cases hold : r ∈ rs
  · exact ⟨hold, hname, ho⟩
  · exact absurd (hname ▸ hreach) (hnew r hr hold)

end AgreeFor

/-! ## Opening -/

/-- The loop fails on the first file that cannot be opened. -/
theorem gather_of_unreadable {rest : List String} {f : OpenFault}
    (hfile : file? references name = some path) (hnew : os.any (·.name = name) = false)
    (hopen : E.ofFile files path = .error f) :
    gather files references (name :: rest) os = .error (.unreadable name path f) := by
  rw [gather]
  split
  · rename_i hnone
    rw [hfile] at hnone
    exact absurd hnone (by simp)
  · rename_i path' hpath'
    rw [hfile] at hpath'
    obtain rfl := Option.some.inj hpath'
    rw [dif_neg (by rw [hnew]; exact Bool.false_ne_true)]
    simp only [hopen]

/-- **What is opened only depends on the names that are reached.** -/
theorem gather_congr (hrs : (rs.map (·.name)).Nodup) (hrs' : (rs'.map (·.name)).Nodup)
    (h : AgreeFor files m rs rs') {names : List String}
    (hreach : ∀ n ∈ names, Reaches files rs m n) :
    gather files rs names os = gather files rs' names os := by
  have hsame : ∀ {n ns}, (∀ n' ∈ n :: ns, Reaches files rs m n') → file? rs n = file? rs' n :=
    fun hall => file?_congr hrs hrs' (h _ (hall _ List.mem_cons_self))
  induction names, os using gather.induct files rs with
  | case1 os => rw [gather, gather]
  | case2 os name rest hfile ih =>
      have hskip : ∀ {rs : List Reference}, file? rs name = none →
          gather files rs (name :: rest) os = gather files rs rest os :=
        fun hnone => gather_of_step (.unknown hnone)
      rw [hskip hfile, hskip ((hsame hreach).symm.trans hfile)]
      exact ih fun n hn => hreach n (List.mem_cons_of_mem _ hn)
  | case3 os name rest path hfile hmem ih =>
      have hskip : ∀ rs : List Reference,
          gather files rs (name :: rest) os = gather files rs rest os :=
        fun _ => gather_of_step (.again hmem)
      rw [hskip rs, hskip rs']
      exact ih fun n hn => hreach n (List.mem_cons_of_mem _ hn)
  | case4 os name rest path hfile hnew f hopen =>
      have hfile' := (hsame hreach).symm.trans hfile
      rw [gather_of_unreadable hfile (Bool.eq_false_iff.2 hnew) hopen,
        gather_of_unreadable hfile' (Bool.eq_false_iff.2 hnew) hopen]
  | case5 os name rest path hfile hnew d hopen ih =>
      have hopens : ∀ {rs : List Reference}, file? rs name = some path →
          gather files rs (name :: rest) os =
            gather files rs (rest ++ E.importNames d) (os ++ [⟨name, d⟩]) :=
        fun hpath => gather_of_step (.opens hpath (Bool.eq_false_iff.2 hnew) hopen)
      rw [hopens hfile, hopens ((hsame hreach).symm.trans hfile)]
      refine ih fun n hn => ?_
      -- what the opened file imports is reached as well
      rcases List.mem_append.1 hn with hn | hn
      · exact hreach n (List.mem_cons_of_mem _ hn)
      · exact (hreach name List.mem_cons_self).next ⟨path, d, isFileAt_of_file? hfile, hopen, hn⟩

/-! ## Linking in order -/

theorem eraseP_congr {α : Type} {p q : α → Bool} {xs : List α} (h : ∀ x ∈ xs, p x = q x) :
    xs.eraseP p = xs.eraseP q := by
  induction xs with
  | nil => rfl
  | cons x xs ih =>
      rw [List.eraseP_cons, List.eraseP_cons, h x List.mem_cons_self,
        ih fun y hy => h y (List.mem_cons_of_mem _ hy)]

/-- What is taken only depends on which of the pending references are ready. -/
theorem takeReady_congr {ready ready' : Opened E → Bool} {first : Opened E} {rest : List (Opened E)}
    (h : ∀ o ∈ first :: rest, ready o = ready' o) :
    takeReady ready first rest = takeReady ready' first rest := by
  rw [takeReady, takeReady, List.find?_congr h, eraseP_congr h]

/-- The order of linking only depends on which of the opened references are ready. -/
theorem linkAll_congr {l : Linked E} (h : ∀ l, ∀ o ∈ os, isReady rs l o = isReady rs' l o) :
    linkAll rs l os = linkAll rs' l os := by
  induction l, os using linkAll.induct rs with
  | case1 l => rw [linkAll, linkAll]
  | case2 l first rest next f hlink =>
      simp only [next] at hlink
      rw [linkAll, linkAll, ← takeReady_congr (h l), hlink]
  | case3 l first rest next hlink =>
      simp only [next] at hlink
      rw [linkAll, linkAll, ← takeReady_congr (h l), hlink]
  | case4 l first rest next l₁ hlink ih =>
      simp only [next] at hlink ih
      rw [linkAll, linkAll, ← takeReady_congr (h l), hlink]
      -- what is left was pending before
      exact ih fun l o ho =>
        h l o ((perm_takeReady _ first rest).mem_iff.1 (List.mem_cons_of_mem _ ho))

/-- Whether an opened reference is ready only depends on the names that are reached. -/
theorem isReady_congr (hrs : (rs.map (·.name)).Nodup) (hrs' : (rs'.map (·.name)).Nodup)
    (h : AgreeFor files m rs rs') {l : Linked E} {o : Opened E}
    (hreach : ∀ n ∈ E.importNames o.module, Reaches files rs m n) :
    isReady rs l o = isReady rs' l o := by
  rw [Bool.eq_iff_iff, isReady, isReady, List.all_eq_true, List.all_eq_true]
  refine forall₂_congr fun n hn => ?_
  rw [isAvailable, isAvailable, isHosted_congr hrs hrs' (h n (hreach n hn))]

/-- **What is linked only depends on the names that are reached.** -/
theorem linkFor_congr (hrs : (rs.map (·.name)).Nodup) (hrs' : (rs'.map (·.name)).Nodup)
    (h : AgreeFor files m rs rs') : linkFor files rs m = linkFor files rs' m := by
  rw [linkFor, linkFor, ← gather_congr hrs hrs' h fun n hn => .direct hn]
  cases hgather : gather (E := E) files rs (E.importNames m) [] with
  | error f => rfl
  | ok os =>
      refine linkAll_congr fun l o ho => isReady_congr hrs hrs' h fun n hn => ?_
      -- the imports of what has been opened are reached
      have hg := gathering_of_gather hgather
      obtain ⟨path, hfile, hopen⟩ := hg.opened o ho
      exact (hg.reached o.name (List.mem_map_of_mem ho)).next
        ⟨path, _, isFileAt_of_file? hfile, hopen, hn⟩

end UnitFoundry.Linking
