import Mathlib.Logic.Relation
import UnitFoundry.Proofs.Linking.Graph

/-! # Opening what a module needs

The loop that opens references takes a module name from its frontier in each turn. A turn opens at
most one file, and no name twice, so the loop ends; what it has opened then are the files that the
imports of the module lead to.

* **`Linking.wellFounded_gatherStep`**: the loop cannot go on forever.
* **`Linking.gather_eq_ok_iff`**: the loop gives what its last turn leaves.
* **`Linking.Gathering.step`**: what each turn keeps.
* **`Linking.mem_gather_iff`**: the names of what has been opened. -/

namespace UnitFoundry.Linking

open Relation

/-- A turn of the loop that opens what is needed, from the names on the frontier and the references
opened so far to those after it. -/
inductive GatherStep {E : Engine} (files : Files) (references : List Reference) :
    List String × List (Opened E) → List String × List (Opened E) → Prop where
  /-- The name stands for no file. -/
  | unknown {name : String} {rest : List String} {os : List (Opened E)} :
    file? references name = none → GatherStep files references (name :: rest, os) (rest, os)
  /-- The file has been opened. -/
  | again {name : String} {rest : List String} {os : List (Opened E)} :
    os.any (·.name = name) = true → GatherStep files references (name :: rest, os) (rest, os)
  /-- The file is opened, and what it imports from is put on the frontier. -/
  | opens {name path : String} {rest : List String} {os : List (Opened E)} {m : E.Module} :
    file? references name = some path → os.any (·.name = name) = false →
    E.ofFile files path = .ok m →
    GatherStep files references (name :: rest, os) (rest ++ E.importNames m, os ++ [⟨name, m⟩])

variable {E : Engine} {files : Files} {references : List Reference} {m : E.Module}
  {s t : List String × List (Opened E)} {names : List String} {os os' : List (Opened E)}

/-! ## The loop ends -/

/-- **The loop that opens what is needed cannot go on forever.** -/
theorem wellFounded_gatherStep (E : Engine) (files : Files) (references : List Reference) :
    WellFounded fun t s => GatherStep (E := E) files references s t := by
  refine Subrelation.wf ?_ (InvImage.wf (fun s : List String × List (Opened E) =>
    (unopened references s.2, s.1.length)) (Prod.lex Nat.lt_wfRel Nat.lt_wfRel).wf)
  intro t s hstep
  cases hstep with
  | unknown h => exact Prod.Lex.right _ (Nat.lt_succ_self _)
  | again h => exact Prod.Lex.right _ (Nat.lt_succ_self _)
  | @opens name _ _ os _ hfile hnew hopen =>
      have hnew : ¬os.any (·.name = name) = true := by
        rw [hnew]
        exact Bool.false_ne_true
      exact Prod.Lex.left _ _ (unopened_lt _ hfile hnew)

/-- A turn does not change what the loop gives. -/
theorem gather_of_step (h : GatherStep files references s t) :
    gather files references s.1 s.2 = gather files references t.1 t.2 := by
  cases h with
  | @unknown name rest os h =>
      rw [gather]
      split
      · rfl
      · rename_i path hpath
        rw [h] at hpath
        exact absurd hpath (by simp)
  | @again name rest os h =>
      rw [gather]
      split
      · rfl
      · rw [dif_pos h]
  | @opens name path rest os m hfile hnew hopen =>
      rw [gather]
      split
      · rename_i hnone
        rw [hfile] at hnone
        exact absurd hnone (by simp)
      · rename_i path' hpath'
        rw [hfile] at hpath'
        obtain rfl := Option.some.inj hpath'
        rw [dif_neg (by rw [hnew]; exact Bool.false_ne_true)]
        simp only [hopen]

/-- **The loop gives what its last turn leaves.** -/
theorem gather_eq_ok_iff : gather files references names os = .ok os' ↔
    ReflTransGen (GatherStep files references) (names, os) ([], os') := by
  constructor
  · intro h
    induction names, os using gather.induct files references with
    | case1 os =>
        rw [gather] at h
        rw [Except.ok.inj h]
    | case2 os name rest hfile ih =>
        have hstep : GatherStep files references (name :: rest, os) (rest, os) := .unknown hfile
        rw [gather_of_step hstep] at h
        exact .head hstep (ih h)
    | case3 os name rest path hfile hmem ih =>
        have hstep : GatherStep files references (name :: rest, os) (rest, os) := .again hmem
        rw [gather_of_step hstep] at h
        exact .head hstep (ih h)
    | case4 os name rest path hfile hnew f hopen =>
        rw [gather] at h
        split at h
        · rename_i hnone
          rw [hfile] at hnone
          exact absurd hnone (by simp)
        · rename_i path' hpath'
          rw [hfile] at hpath'
          obtain rfl := Option.some.inj hpath'
          rw [dif_neg hnew] at h
          simp [hopen] at h
    | case5 os name rest path hfile hnew m hopen ih =>
        have hstep : GatherStep files references (name :: rest, os)
            (rest ++ E.importNames m, os ++ [⟨name, m⟩]) :=
          .opens hfile (Bool.eq_false_iff.2 hnew) hopen
        rw [gather_of_step hstep] at h
        exact .head hstep (ih h)
  · intro h
    -- back from the last turn, since no turn changes what the loop gives
    have hall : ∀ s, ReflTransGen (GatherStep files references) s ([], os') →
        gather files references s.1 s.2 = gather files references [] os' := by
      intro s hs
      induction hs using ReflTransGen.head_induction_on with
      | refl => rfl
      | head hstep _ ih => exact (gather_of_step hstep).trans ih
    have hlast : gather files references [] os' = .ok os' := by rw [gather]
    exact (hall _ h).trans hlast

/-! ## What each turn keeps -/

/-- What is known when the loop has come to a frontier and opened some references, starting with
the imports of `m`. -/
structure Gathering {E : Engine} (files : Files) (references : List Reference) (m : E.Module)
    (s : List String × List (Opened E)) : Prop where
  /-- No reference is opened twice. -/
  nodup : (s.2.map (·.name)).Nodup
  /-- What has been opened are the files that the names stand for. -/
  opened : ∀ o ∈ s.2, ∃ path, file? references o.name = some path ∧
    E.ofFile files path = .ok o.module
  /-- The imports of the module lead to each name. -/
  reached : ∀ n ∈ s.1 ++ s.2.map (·.name), Reaches files references m n
  /-- Nothing that the module or an open file imports from is forgotten. -/
  closed : ∀ n, (n ∈ E.importNames m ∨ ∃ o ∈ s.2, n ∈ E.importNames o.module) →
    n ∈ s.1 ∨ file? references n = none ∨ n ∈ s.2.map (·.name)

namespace Gathering

/-- Before the first turn, the imports of the module are on the frontier. -/
theorem start (files : Files) (references : List Reference) (m : E.Module) :
    Gathering files references m (E.importNames m, []) where
  nodup := List.nodup_nil
  opened o ho := absurd ho List.not_mem_nil
  reached n hn := by
    rw [List.map_nil, List.append_nil] at hn
    exact .direct hn
  closed n hn := by
    obtain hn | ⟨o, ho, -⟩ := hn
    · exact Or.inl hn
    · exact absurd ho List.not_mem_nil

/-- A turn that opens nothing takes a name from the frontier that is done with. -/
theorem skip {name : String} {rest : List String}
    (h : Gathering files references m (name :: rest, os))
    (hname : file? references name = none ∨ name ∈ os.map (·.name)) :
    Gathering files references m (rest, os) where
  nodup := h.nodup
  opened := h.opened
  reached n hn := h.reached n (List.mem_cons_of_mem _ hn)
  closed n hn := by
    obtain hmem | hdone := h.closed n hn
    · rcases List.mem_cons.1 hmem with rfl | hmem
      · exact Or.inr hname
      · exact Or.inl hmem
    · exact Or.inr hdone

/-- A turn that opens a file puts its imports on the frontier. -/
theorem opens {name path : String} {rest : List String} {d : E.Module}
    (h : Gathering files references m (name :: rest, os))
    (hfile : file? references name = some path) (hnew : name ∉ os.map (·.name))
    (hopen : E.ofFile files path = .ok d) :
    Gathering files references m (rest ++ E.importNames d, os ++ [⟨name, d⟩]) where
  nodup := by
    rw [List.map_append]
    exact h.nodup.append (List.nodup_singleton name) (List.disjoint_singleton.2 hnew)
  opened o ho := by
    rcases List.mem_append.1 ho with ho | ho
    · exact h.opened o ho
    · rw [List.mem_singleton.1 ho]
      exact ⟨path, hfile, hopen⟩
  reached n hn := by
    have hreached : Reaches files references m name := h.reached name List.mem_cons_self
    rw [List.map_append] at hn
    rcases List.mem_append.1 hn with hn | hn
    · rcases List.mem_append.1 hn with hn | hn
      · exact h.reached n (List.mem_append_left _ (List.mem_cons_of_mem _ hn))
      · exact hreached.next ⟨path, d, isFileAt_of_file? hfile, hopen, hn⟩
    · rcases List.mem_append.1 hn with hn | hn
      · exact h.reached n (List.mem_append_right _ hn)
      · rw [List.mem_singleton.1 hn]
        exact hreached
  closed n hn := by
    show n ∈ rest ++ E.importNames d ∨ file? references n = none ∨
      n ∈ (os ++ [Opened.mk name d]).map (·.name)
    rw [List.map_append, List.mem_append, List.mem_append]
    -- the name was imported before this turn, or it is imported by the file that is opened
    have hold : (n ∈ E.importNames m ∨ ∃ o ∈ os, n ∈ E.importNames o.module) ∨
        n ∈ E.importNames d := by
      obtain hn | ⟨o, ho, hn⟩ := hn
      · exact Or.inl (Or.inl hn)
      · rcases List.mem_append.1 ho with ho | ho
        · exact Or.inl (Or.inr ⟨o, ho, hn⟩)
        · rw [List.mem_singleton.1 ho] at hn
          exact Or.inr hn
    obtain hold | hn := hold
    · obtain hmem | hnone | hmem := h.closed n hold
      · rcases List.mem_cons.1 hmem with rfl | hmem
        · exact Or.inr (Or.inr (Or.inr List.mem_cons_self))
        · exact Or.inl (Or.inl hmem)
      · exact Or.inr (Or.inl hnone)
      · exact Or.inr (Or.inr (Or.inl hmem))
    · exact Or.inl (Or.inr hn)

/-- **Each turn keeps what is known.** -/
theorem step (h : Gathering files references m s) (hstep : GatherStep files references s t) :
    Gathering files references m t := by
  have hany : ∀ {os : List (Opened E)} {name : String},
      os.any (·.name = name) = true ↔ name ∈ os.map (·.name) := by
    intro os name
    rw [List.any_eq_true, List.mem_map]
    exact exists_congr fun o => and_congr_right fun _ => decide_eq_true_iff
  cases hstep with
  | unknown hfile => exact h.skip (Or.inl hfile)
  | again hmem => exact h.skip (Or.inr (hany.1 hmem))
  | opens hfile hnew hopen =>
      refine h.opens hfile (fun hmem => ?_) hopen
      rw [hany.2 hmem] at hnew
      exact Bool.noConfusion hnew

/-- **All turns keep what is known.** -/
theorem run (h : Gathering files references m s)
    (hrun : ReflTransGen (GatherStep files references) s t) :
    Gathering files references m t := by
  induction hrun with
  | refl => exact h
  | tail _ hstep ih => exact ih.step hstep

end Gathering

/-! ## What has been opened -/

theorem gathering_of_gather (h : gather files references (E.importNames m) [] = .ok os) :
    Gathering files references m ([], os) :=
  (Gathering.start files references m).run (gather_eq_ok_iff.1 h)

/-- **What has been opened** are the files of references to which the imports of the module
lead. -/
theorem mem_gather_iff (hnodup : (references.map (·.name)).Nodup)
    (h : gather files references (E.importNames m) [] = .ok os) (name : String) :
    name ∈ os.map (·.name) ↔ Reaches files references m name ∧ IsFile references name := by
  have hg := gathering_of_gather h
  -- with an empty frontier, a name that stands for a file has been opened
  have hclosed : ∀ n, IsFile references n →
      (n ∈ E.importNames m ∨ ∃ o ∈ os, n ∈ E.importNames o.module) → n ∈ os.map (·.name) := by
    intro n ⟨path, hfile⟩ hn
    obtain hmem | hnone | hmem := hg.closed n hn
    · exact absurd hmem List.not_mem_nil
    · rw [(file?_eq_some_iff hnodup).2 hfile] at hnone
      exact absurd hnone (by simp)
    · exact hmem
  constructor
  · intro hmem
    refine ⟨hg.reached name hmem, ?_⟩
    obtain ⟨o, ho, rfl⟩ := List.mem_map.1 hmem
    obtain ⟨path, hfile, -⟩ := hg.opened o ho
    exact ⟨path, isFileAt_of_file? hfile⟩
  · rintro ⟨hreach, hfile⟩
    -- along the path to the name, each file before it has been opened
    induction hreach with
    | direct hmem => exact hclosed _ hfile (Or.inl hmem)
    | next _ himports ih =>
        obtain ⟨path, d, hat, hopen, hmem⟩ := himports
        obtain ⟨o, ho, rfl⟩ := List.mem_map.1 (ih ⟨path, hat⟩)
        obtain ⟨path', hfile', hopen'⟩ := hg.opened o ho
        rw [(file?_eq_some_iff hnodup).2 hat] at hfile'
        obtain rfl := Option.some.inj hfile'
        obtain rfl := Except.ok.inj (hopen.symm.trans hopen')
        exact hclosed _ hfile (Or.inr ⟨o, ho, hmem⟩)

end UnitFoundry.Linking
