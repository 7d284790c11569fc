import Mathlib.Data.Set.Finite.Basic
import Mathlib.Order.WellFounded
import UnitFoundry.Proofs.Linking.Soundness

/-! # Linking is complete

If the imports that a module leads to go round in no cycle and each is met, by a file or by the
host, some order of linking succeeds. The loop that links references finds one: either a reference
is ready, or the first one only imports from what has been linked. The second holds as long as the
modules of the host are among the references where it matters, namely for a file from which another
file imports; otherwise a reference may be linked before a file that it imports from.

* **`Linking.Meets`**: an import is met by a file or by the host.
* **`Linking.Orderly`**: what is known of opened references that can be linked one after another.
* **`Linking.Orderly.mem_names_of_takeReady`**: the reference that is taken only imports from files
  that have been linked.
* **`Linking.load_complete`**: a unit is loaded, unless a module traps.
* **`Linking.load_unlisted`**: a unit that is not loaded, although each import is met. -/

namespace UnitFoundry

/-- Whether a module is not instantiated because it traps. -/
def LinkFault.IsTrap : LinkFault → Prop
  | .trap _ => True
  | .refused _ => False

/-- Whether a unit is not loaded because a module traps when it is instantiated. -/
def LoadFault.IsTrap : LoadFault → Prop
  | .notInstantiated _ f | .unlinked f => f.IsTrap
  | .refused _ | .unreadable .. | .notRegistered .. => False

/-- A module that traps is not instantiated for a reason that says so. -/
theorem LinkFault.exists_of_isTrap {f : LinkFault} (h : f.IsTrap) :
    ∃ reason, f = .trap reason := by
  cases f with
  | trap reason => exact ⟨reason, rfl⟩
  | refused reason => exact h.elim

namespace Linking

open Relation

/-- Whether an import is met: by an export of the file that its module name stands for, or by what
the host provides. -/
def Meets {E : Engine} (files : Files) (references : List Reference) (i : Import E.ExternType) :
    Prop :=
  (∃ path d t, IsFileAt references i.module path ∧ E.ofFile files path = .ok d ∧
    (i.name, t) ∈ E.exports d ∧ E.meets t i.type = true) ∨
  ∃ x, E.find? E.host.1 i.module i.name = some x ∧ E.Provides E.host.2 x i.type

/-- Whether a module is instantiated for a module: it is that module, or the file of a reference to
which the imports lead. -/
def Needs {E : Engine} (files : Files) (references : List Reference) (m d : E.Module) : Prop :=
  d = m ∨ ∃ name path, Reaches files references m name ∧ IsFileAt references name path ∧
    E.ofFile files path = .ok d

variable {E : Engine} {files : Files} {references : List Reference} {m : E.Module}
  {l l' : Linked E} {o first : Opened E} {os rest : List (Opened E)}

/-! ## Opening -/

/-- A turn is possible as long as a name is on the frontier. -/
theorem exists_gatherStep {name : String} {names : List String}
    (hg : Gathering files references m (name :: names, os))
    (hopen : ∀ name path, Reaches files references m name → IsFileAt references name path →
      ∃ d, E.ofFile files path = .ok d) :
    ∃ t, GatherStep files references (name :: names, os) t := by
  cases hfile : file? references name with
  | none => exact ⟨_, .unknown hfile⟩
  | some path =>
      cases hnew : os.any (·.name = name) with
      | true => exact ⟨_, .again hnew⟩
      | false =>
          have hreach := hg.reached name (List.mem_append_left _ List.mem_cons_self)
          obtain ⟨d, hd⟩ := hopen name path hreach (isFileAt_of_file? hfile)
          exact ⟨_, .opens hfile hnew hd⟩

/-- **What is needed is opened**, if each file of it can be opened. -/
theorem exists_gather_eq_ok
    (hopen : ∀ name path, Reaches files references m name → IsFileAt references name path →
      ∃ d, E.ofFile files path = .ok d) :
    ∃ os : List (Opened E), gather files references (E.importNames m) [] = .ok os := by
  -- along the loop, since each turn comes closer to its end
  have hall : ∀ s, Gathering files references m s →
      ∃ os, ReflTransGen (GatherStep files references) s ([], os) := by
    intro s
    induction s using (wellFounded_gatherStep E files references).induction with
    | _ s ih =>
        intro hg
        obtain ⟨_ | ⟨name, names⟩, os⟩ := s
        · exact ⟨os, .refl⟩
        · obtain ⟨t, hstep⟩ := exists_gatherStep hg hopen
          obtain ⟨os', hrun⟩ := ih t hstep (hg.step hstep)
          exact ⟨os', .head hstep hrun⟩
  obtain ⟨os, hrun⟩ := hall _ (.start files references m)
  exact ⟨os, gather_eq_ok_iff.2 hrun⟩

/-! ## What has been linked -/

/-- What is known when some of the opened references have been linked. -/
structure Linked.Supplied (os : List (Opened E)) (l : Linked E) : Prop where
  /-- The linker has only been given what the host provides and what has been linked. -/
  closed : l.Closed
  /-- What the host provides is defined. -/
  host : ∀ {module name x t}, E.find? E.host.1 module name = some x → E.Provides E.host.2 x t →
    E.find? l.linker module name = some x ∧ E.Provides l.store x t
  /-- The exports of what has been linked are defined. -/
  exports : ∀ o ∈ os, o.name ∈ l.names → ∀ e ∈ E.exports o.module,
    ∃ x, E.find? l.linker o.name e.1 = some x ∧ E.Provides l.store x e.2

namespace Linked.Supplied

/-- Nothing has been linked at the start, and the host provides what it has. -/
theorem start (os : List (Opened E)) : (Linked.host : Linked E).Supplied os where
  closed := closed_host
  host hx ht := ⟨hx, ht⟩
  exports _ _ ho := absurd ho List.not_mem_nil

/-- **Linking a reference supplies its exports.** -/
theorem link (hl : l.Supplied os) (hregisters : E.Registers) (hprovides : E.ProvidesExports)
    (hlinks : E.Links) (hnodup : (os.map (·.name)).Nodup) (ho : o ∈ os) (h : l.link o = .ok l') :
    l'.Supplied os := by
  obtain ⟨store, i, hinst, hreg, rfl, hnames⟩ := link_eq_ok h
  -- what was defined before keeps its meaning and what it may stand for
  have hkeep : ∀ {module name x t}, E.find? l.linker module name = some x ∧
      E.Provides l.store x t → E.find? l'.linker module name = some x ∧ E.Provides l'.store x t :=
    fun hx => ⟨hregisters.find?_of_register hreg hx.1, hlinks.keeps hinst hx.2⟩
  refine ⟨hl.closed.link hregisters h, fun hx ht => hkeep (hl.host hx ht),
    fun o' ho' hmem e he => ?_⟩
  rw [hnames, List.mem_append, List.mem_singleton] at hmem
  obtain hmem | hname := hmem
  · obtain ⟨x, hx⟩ := hl.exports o' ho' hmem e he
    exact ⟨x, hkeep hx⟩
  · obtain rfl := List.inj_on_of_nodup_map hnodup ho' ho hname
    obtain ⟨x, hx, hprovided⟩ := hprovides hinst e he
    exact ⟨x, hregisters.defines hreg _ hx, hprovided⟩

end Linked.Supplied

/-! ## Linking a reference -/

/-- An import is defined if it is met and the file that it is from, if any, has been linked. -/
theorem exists_find?_of_meets (hlinks : E.Links) (hnodup : (references.map (·.name)).Nodup)
    (hg : Gathering files references m ([], os)) (hl : l.Supplied os)
    (hsub : ∀ {n}, n ∈ l.names → n ∈ os.map (·.name)) {i : Import E.ExternType}
    (hi : Meets files references i) (hlinked : IsFile references i.module → i.module ∈ l.names) :
    ∃ x, E.find? l.linker i.module i.name = some x ∧ E.Provides l.store x i.type := by
  obtain ⟨path, d, t, hat, hopen, he, hmeets⟩ | ⟨x, hx, hprovides⟩ := hi
  · -- met by a file
    have hmem := hlinked ⟨path, hat⟩
    obtain ⟨o, ho, hon⟩ := List.mem_map.1 (hsub hmem)
    -- what has been opened under the name is the file that meets the import
    obtain ⟨path', hfile, hopen'⟩ := hg.opened o ho
    rw [hon, (file?_eq_some_iff hnodup).2 hat] at hfile
    obtain rfl := Option.some.inj hfile
    obtain rfl := Except.ok.inj (hopen.symm.trans hopen')
    obtain ⟨x, hx, hprovides⟩ := hl.exports o ho (hon ▸ hmem) _ he
    rw [hon] at hx
    exact ⟨x, hx, hprovides.meets hlinks hmeets⟩
  · exact ⟨x, hl.host hx hprovides⟩

/-- **A reference whose imports are defined is linked**, unless it traps. -/
theorem isTrap_of_link (hlinks : E.Links) (hl : l.Supplied os)
    (himports : ∀ i ∈ E.imports o.module,
      ∃ x, E.find? l.linker i.module i.name = some x ∧ E.Provides l.store x i.type)
    (hnew : o.name ∉ l.names) (hhost : ¬E.Predefines o.name) {f : LoadFault}
    (h : l.link o = .error f) : f.IsTrap := by
  -- what the linker knows is enough for an instance
  obtain ⟨store, i, hinst⟩ | ⟨reason, hinst⟩ | hinst := hlinks.instantiates himports
  · -- the name is new to the linker, so the instance is registered
    have hfresh : ∀ x ∈ E.externs i, E.find? l.linker o.name x.1 = none := fun x _ => by
      rw [← Option.not_isSome_iff_eq_none]
      exact fun hfound => (hl.closed _ _ hfound).elim hhost hnew
    obtain ⟨linker, hreg⟩ := hlinks.registers hinst hfresh
    simp [Linked.link, hinst, hreg] at h
  · simp only [Linked.link, hinst] at h
    exact Outcome.error.inj h ▸ trivial
  · simp [Linked.link, hinst] at h

/-! ## The reference that is taken -/

/-- In a list on which a relation has no cycle, something that is related to nothing in the list
can be reached from everything. -/
theorem exists_last_of_acyclic {α : Type} {r : α → α → Prop} {xs : List α}
    (hacyclic : ∀ x ∈ xs, ¬TransGen r x x) {x : α} (hx : x ∈ xs) :
    ∃ y ∈ xs, ReflTransGen r x y ∧ ∀ z ∈ xs, ¬r y z := by
  have : Finite {x // x ∈ xs} := (List.finite_toSet xs).to_subtype
  let below (a b : {x // x ∈ xs}) : Prop := TransGen r b.1 a.1
  have : IsTrans _ below := ⟨fun _ _ _ h h' => h'.trans h⟩
  have : Std.Irrefl below := ⟨fun a h => hacyclic a.1 a.2 h⟩
  have hwf : WellFounded below := Finite.wellFounded_of_trans_of_irrefl below
  obtain ⟨y, hy, hleast⟩ := hwf.has_min {y | ReflTransGen r x y.1} ⟨⟨x, hx⟩, .refl⟩
  exact ⟨y.1, y.2, hy, fun z hz hyz => hleast ⟨z, hz⟩ (hy.tail hyz) (.single hyz)⟩

/-- The imports of a reference that has been opened are those of its file. -/
theorem dependsOn_iff (hnodup : (references.map (·.name)).Nodup)
    (hg : Gathering files references m ([], os)) (ho : o ∈ os) (target : String) :
    DependsOn E files references o.name target ↔
      target ∈ E.importNames o.module ∧ IsFile references target := by
  obtain ⟨path, hfile, hopen⟩ := hg.opened o ho
  refine and_congr_left fun _ => ⟨?_, fun hmem => ⟨path, _, isFileAt_of_file? hfile, hopen, hmem⟩⟩
  rintro ⟨path', d, hat, hopen', hmem⟩
  rw [(file?_eq_some_iff hnodup).2 hat] at hfile
  obtain rfl := Option.some.inj hfile
  obtain rfl := Except.ok.inj (hopen.symm.trans hopen')
  exact hmem

theorem Reaches.of_reflTransGen {name target : String} (h : Reaches files references m name)
    (hpath : ReflTransGen (DependsOn E files references) name target) :
    Reaches files references m target := by
  induction hpath with
  | refl => exact h
  | tail _ hstep ih => exact ih.next hstep.1

/-- A module name that stands for a file is not hosted. -/
theorem isHosted_eq_false (hnodup : (references.map (·.name)).Nodup) {name : String}
    (h : IsFile references name) : isHosted references name = false := by
  obtain ⟨path, hat⟩ := h
  have hfile := (file?_eq_some_iff hnodup).2 hat
  rw [file?] at hfile
  split at hfile
  · exact absurd hfile (by simp)
  · rename_i hhosted
    exact Bool.eq_false_iff.2 hhosted

/-- The modules of the host are listed for each file from which the file of a reference that is
needed imports. -/
def HostListed {E : Engine} (files : Files) (references : List Reference) (m : E.Module) : Prop :=
  ∀ name target module, Reaches files references m name → DependsOn E files references name target →
    Imports E files references target module → E.Predefines module →
      isHosted references module = true

/-- What is known of the opened references if they can be linked one after another: without a
cycle, with each import met, and with the modules of the host listed where they have to be. -/
structure Orderly {E : Engine} (files : Files) (references : List Reference) (m : E.Module)
    (os : List (Opened E)) : Prop where
  /-- No two references share a name. -/
  nodup : (references.map (·.name)).Nodup
  /-- What has been opened is needed. -/
  gathering : Gathering files references m ([], os)
  /-- What is needed has been opened. -/
  gathered : ∀ name, Reaches files references m name → IsFile references name →
    name ∈ os.map (·.name)
  /-- No file imports from itself, not even through other files. -/
  acyclic : ∀ name, Reaches files references m name →
    ¬TransGen (DependsOn E files references) name name
  /-- Each import of a file is met. -/
  meets : ∀ o ∈ os, ∀ i ∈ E.imports o.module, Meets files references i
  /-- Modules of the host are listed where a file has to wait for another. -/
  listed : HostListed files references m

namespace Orderly

variable {pending : List (Opened E)} {target : String}

/-- A reference from which another file imports is ready once all files that it imports from have
been linked. -/
theorem isReady_of_dependsOn (h : Orderly files references m os) (ho : o ∈ os) {name : String}
    (hname : Reaches files references m name) (hdepends : DependsOn E files references name o.name)
    (hlinked : ∀ target, DependsOn E files references o.name target → target ∈ l.names) :
    isReady references l o = true := by
  have hdependsOn := dependsOn_iff h.nodup h.gathering ho
  refine List.all_eq_true.2 fun module hmodule => Bool.or_eq_true_iff.2 ?_
  by_cases hfile : IsFile references module
  · right
    exact List.contains_iff_mem.2 (hlinked module ((hdependsOn module).2 ⟨hmodule, hfile⟩))
  · -- an import that no file meets is one of the host, which is listed
    left
    obtain ⟨i, hi, rfl⟩ := List.mem_map.1 hmodule
    obtain ⟨path, d, t, hat, -⟩ | ⟨x, hx, -⟩ := h.meets o ho i hi
    · exact absurd ⟨path, hat⟩ hfile
    · obtain ⟨path, hpath, hopen⟩ := h.gathering.opened o ho
      have himports : Imports E files references o.name i.module :=
        ⟨path, o.module, isFileAt_of_file? hpath, hopen, hmodule⟩
      exact h.listed name o.name i.module hname hdepends himports
        ⟨i.name, Option.isSome_iff_exists.2 ⟨x, hx⟩⟩

/-- A reference that is ready only imports from files that have been linked. -/
theorem mem_names_of_isReady (h : Orderly files references m os) (ho : o ∈ os)
    (hready : isReady references l o = true)
    (hdepends : DependsOn E files references o.name target) : target ∈ l.names := by
  obtain ⟨hmem, hfile⟩ := (dependsOn_iff h.nodup h.gathering ho target).1 hdepends
  have havailable := List.all_eq_true.1 hready target hmem
  rw [isAvailable, isHosted_eq_false h.nodup hfile, Bool.false_or] at havailable
  exact List.contains_iff_mem.1 havailable

/-- **If a file that is pending imports from one that is pending, some reference is ready.**
Without a cycle, the imports lead to a pending file that imports from no other. -/
theorem exists_isReady (h : Orderly files references m os) (hunder : Underway os l pending)
    (ho : o ∈ pending) (hdepends : DependsOn E files references o.name target)
    (htarget : target ∈ pending.map (·.name)) :
    ∃ o' ∈ pending, isReady references l o' = true := by
  have hreach : ∀ o ∈ pending, Reaches files references m o.name := fun o ho =>
    h.gathering.reached o.name (List.mem_map_of_mem (hunder.opened o ho))
  have hacyclic : ∀ name ∈ pending.map (·.name),
      ¬TransGen (DependsOn E files references) name name := by
    rw [List.forall_mem_map]
    exact fun o ho => h.acyclic o.name (hreach o ho)
  obtain ⟨last, hlast, hpath, hnone⟩ := exists_last_of_acyclic hacyclic htarget
  obtain ⟨o', ho', rfl⟩ := List.mem_map.1 hlast
  obtain ⟨before, hbefore, hbefore'⟩ := TransGen.tail'_iff.1 (TransGen.head' hdepends hpath)
  refine ⟨o', ho', h.isReady_of_dependsOn (hunder.opened o' ho')
    ((hreach o ho).of_reflTransGen hbefore) hbefore' fun t ht => ?_⟩
  -- what it imports from has been opened and is not pending
  have hopened := h.gathered t ((hreach o' ho').next ht.1) ht.2
  exact (hunder.mem_names_or hopened).resolve_right fun hpending => hnone t hpending ht

/-- **The reference that is taken only imports from files that have been linked.** It is ready, or
none is. -/
theorem mem_names_of_takeReady (h : Orderly files references m os)
    (hunder : Underway os l (first :: rest))
    (hdepends : DependsOn E files references
      (takeReady (isReady references l) first rest).1.name target) : target ∈ l.names := by
  rw [takeReady] at hdepends
  cases hfind : (first :: rest).find? (isReady references l) with
  | some o =>
      rw [hfind] at hdepends
      have ho := hunder.opened o (List.mem_of_find?_eq_some hfind)
      exact h.mem_names_of_isReady ho (List.find?_some hfind) hdepends
  | none =>
      rw [hfind] at hdepends
      have hfirst := h.gathering.reached first.name
        (List.mem_map_of_mem (hunder.opened first List.mem_cons_self))
      have hopened := h.gathered target (hfirst.next hdepends.1) hdepends.2
      refine (hunder.mem_names_or hopened).resolve_right fun hpending => ?_
      obtain ⟨o, ho, hready⟩ := h.exists_isReady hunder List.mem_cons_self hdepends hpending
      exact absurd hready (List.find?_eq_none.1 hfind o ho)

end Orderly

/-! ## Loading -/

/-- **The loop that links references comes to its end**, unless a reference traps or runs on
forever. -/
theorem linkAll_supplied (hregisters : E.Registers) (hprovides : E.ProvidesExports)
    (hlinks : E.Links) (h : Orderly files references m os)
    (hhost : ∀ r ∈ references, r.isHost = false → ¬E.Predefines r.name)
    {pending : List (Opened E)} (hunder : Underway os l pending) (hl : l.Supplied os) :
    (∃ l', linkAll references l pending = .ok l' ∧ Underway os l' [] ∧ l'.Supplied os) ∨
      (∃ f, linkAll references l pending = .error f ∧ f.IsTrap) ∨
      linkAll references l pending = .endless := by
  have hg := h.gathering
  -- the reference that is taken can only fail to be linked by a trap
  have htrap : ∀ {l : Linked E} {first : Opened E} {rest : List (Opened E)} {f : LoadFault},
      Underway os l (first :: rest) → l.Supplied os →
        l.link (takeReady (isReady references l) first rest).1 = .error f → f.IsTrap := by
    intro l first rest f hunder hl hlink
    have htaken := (perm_takeReady (isReady references l) first rest).mem_iff.1 List.mem_cons_self
    have ho := hunder.opened _ htaken
    obtain ⟨path, hfile, hopen⟩ := hg.opened _ ho
    obtain ⟨r, hr, hname, hpath⟩ := isFileAt_of_file? hfile
    refine isTrap_of_link hlinks hl (fun i hi => ?_) (hunder.notMem_names hg.nodup htaken)
      (hname ▸ hhost r hr (Reference.isHost_eq_false_of_path? hpath)) hlink
    refine exists_find?_of_meets hlinks h.nodup hg hl hunder.mem_map_of_mem_names
      (h.meets _ ho i hi) fun hfile' => ?_
    exact h.mem_names_of_takeReady hunder
      ((dependsOn_iff h.nodup hg ho _).2 ⟨List.mem_map_of_mem hi, hfile'⟩)
  induction l, pending using linkAll.induct references with
  | case1 l => exact .inl ⟨l, by rw [linkAll], hunder, hl⟩
  | case2 l first rest next f hlink =>
      refine .inr (.inl ⟨f, ?_, htrap hunder hl hlink⟩)
      rw [linkAll]
      simp only [next] at hlink
      simp only [hlink]
  | case3 l first rest next hlink =>
      refine .inr (.inr ?_)
      rw [linkAll]
      simp only [next] at hlink
      simp only [hlink]
  | case4 l first rest next l₁ hlink ih =>
      have hstep : LinkStep references (l, first :: rest) (l₁, next.2) := .link hlink
      rw [linkAll_of_step hstep]
      exact ih (hunder.step hlink)
        (hl.link hregisters hprovides hlinks hg.nodup (hunder.mem_of_takeReady _) hlink)

/-- If linking references ends in a trap, one of them traps. -/
theorem exists_trap_of_linkAll {pending : List (Opened E)} {f : LoadFault}
    (h : linkAll references l pending = .error f) (hf : f.IsTrap) :
    ∃ o ∈ pending, ∃ linker store reason,
      E.instantiate linker store o.module = .error (.trap reason) := by
  induction l, pending using linkAll.induct references with
  | case1 l =>
      rw [linkAll] at h
      exact absurd h (by simp)
  | case2 l first rest next f' hlink =>
      rw [linkAll] at h
      simp only [next] at hlink
      simp only [hlink] at h
      obtain rfl := Outcome.error.inj h
      refine ⟨_, (perm_takeReady (isReady references l) first rest).mem_iff.1 List.mem_cons_self,
        l.linker, l.store, ?_⟩
      rw [Linked.link] at hlink
      split at hlink
      · rename_i g hinst
        obtain rfl := Outcome.error.inj hlink
        obtain ⟨reason, rfl⟩ := LinkFault.exists_of_isTrap hf
        exact ⟨reason, hinst⟩
      · exact absurd hlink (by simp)
      · split at hlink
        · obtain rfl := Outcome.error.inj hlink
          exact hf.elim
        · exact absurd hlink (by simp)
  | case3 l first rest next hlink =>
      rw [linkAll] at h
      simp only [next] at hlink
      simp [hlink] at h
  | case4 l first rest next l₁ hlink ih =>
      have hstep : LinkStep references (l, first :: rest) (l₁, next.2) := .link hlink
      obtain ⟨o, ho, htrap⟩ := ih ((linkAll_of_step hstep).symm.trans h)
      exact ⟨o, (perm_takeReady _ first rest).mem_iff.1 (List.mem_cons_of_mem _ ho), htrap⟩

/-- A file that cannot be opened is no trap. -/
theorem not_isTrap_of_gather {names : List String} {f : LoadFault}
    (h : gather files references names os = .error f) : ¬f.IsTrap := by
  induction names, os using gather.induct files references with
  | case1 os =>
      rw [gather] at h
      exact absurd h (by simp)
  | case2 os name rest hfile ih => exact ih ((gather_of_step (.unknown hfile)).symm.trans h)
  | case3 os name rest path hfile hmem ih => exact ih ((gather_of_step (.again hmem)).symm.trans h)
  | case4 os name rest path hfile hnew g hopen =>
      rw [gather] at h
      split at h
      · rename_i hnone
        rw [hfile] at hnone
        exact absurd hnone (by simp)
      · rename_i path' hpath'
        rw [hfile] at hpath'
        obtain rfl := Option.some.inj hpath'
        rw [dif_neg hnew] at h
        simp only [hopen] at h
        exact Except.error.inj h ▸ id
  | case5 os name rest path hfile hnew d hopen ih =>
      exact ih ((gather_of_step (.opens hfile (Bool.eq_false_iff.2 hnew) hopen)).symm.trans h)

/-- **If loading a unit ends in a trap**, one of the modules that are instantiated for it traps. -/
theorem exists_trap_of_load {unit : String} {image : E.Image} (himage : E.load image = .ok m)
    {f : LoadFault} (h : LoadedUnit.load files unit image references = .error f) (hf : f.IsTrap) :
    ∃ d, Needs files references m d ∧
      ∃ linker store reason, E.instantiate linker store d = .error (.trap reason) := by
  rw [LoadedUnit.load, himage] at h
  cases hgather : gather (E := E) files references (E.importNames m) [] with
  | error g =>
      simp only [linkFor_of_gather_eq_error hgather] at h
      exact absurd hf (Outcome.error.inj h ▸ not_isTrap_of_gather hgather)
  | ok os =>
      simp only [linkFor_of_gather hgather] at h
      cases hlink : linkAll references .host os with
      | endless => simp [hlink] at h
      | error f' =>
          simp only [hlink] at h
          obtain rfl := Outcome.error.inj h
          have hg := gathering_of_gather hgather
          obtain ⟨o, ho, htrap⟩ := exists_trap_of_linkAll hlink hf
          obtain ⟨path, hfile, hopen⟩ := hg.opened o ho
          exact ⟨o.module, .inr ⟨o.name, path, hg.reached _ (List.mem_map_of_mem ho),
            isFileAt_of_file? hfile, hopen⟩, htrap⟩
      | ok l =>
          simp only [hlink] at h
          split at h
          · rename_i g hinst
            obtain rfl := Outcome.error.inj h
            obtain ⟨reason, rfl⟩ := LinkFault.exists_of_isTrap hf
            exact ⟨m, .inl rfl, _, _, reason, hinst⟩
          · exact absurd h (by simp)
          · exact absurd h (by simp)

/-- **A unit is loaded** if its imports and those of the files that it needs go round in no cycle
and each is met, unless a module traps or runs on forever. Modules of the host must be among the
references where a file imports from them from which another file imports. -/
theorem load_complete (E : Engine) (hregisters : E.Registers) (hprovides : E.ProvidesExports)
    (hlinks : E.Links) (files : Files) (references : List Reference) (m : E.Module)
    (unit : String) (image : E.Image) (himage : E.load image = .ok m)
    (hnodup : (references.map (·.name)).Nodup)
    (hhost : ∀ r ∈ references, r.isHost = false → ¬E.Predefines r.name)
    (hacyclic : ∀ name, Reaches files references m name →
      ¬TransGen (DependsOn E files references) name name)
    (hopen : ∀ name path, Reaches files references m name → IsFileAt references name path →
      ∃ d, E.ofFile files path = .ok d)
    (hmeets : ∀ d, Needs files references m d → ∀ i ∈ E.imports d, Meets files references i)
    (hlisted : HostListed files references m)
    (htrap : ∀ f, LoadedUnit.load files unit image references = .error f → ¬f.IsTrap)
    (hends : LoadedUnit.load files unit image references ≠ .endless) :
    ∃ u, LoadedUnit.load files unit image references = .ok u := by
  obtain ⟨os, hgather⟩ := exists_gather_eq_ok hopen
  have hg := gathering_of_gather hgather
  have hopened : ∀ o ∈ os, ∀ i ∈ E.imports o.module, Meets files references i := by
    intro o ho
    obtain ⟨path, hfile, hopen⟩ := hg.opened o ho
    exact hmeets o.module (.inr ⟨o.name, path, hg.reached _ (List.mem_map_of_mem ho),
      isFileAt_of_file? hfile, hopen⟩)
  have horderly : Orderly files references m os :=
    { nodup := hnodup, gathering := hg, acyclic := hacyclic, meets := hopened, listed := hlisted
      gathered := fun name hreach hfile => (mem_gather_iff hnodup hgather name).2 ⟨hreach, hfile⟩ }
  obtain ⟨l, hlink, hunder, hl⟩ | ⟨f, hlink, hf⟩ | hlink :=
    linkAll_supplied hregisters hprovides hlinks horderly hhost (.start os) (.start os) <;>
      rw [← linkFor_of_gather hgather] at hlink
  · -- with everything linked, the unit itself finds its imports
    have himports : ∀ i ∈ E.imports m,
        ∃ x, E.find? l.linker i.module i.name = some x ∧ E.Provides l.store x i.type := by
      intro i hi
      refine exists_find?_of_meets hlinks hnodup hg hl hunder.mem_map_of_mem_names
        (hmeets m (.inl rfl) i hi) fun hfile => ?_
      have hreached := horderly.gathered i.module (.direct (List.mem_map_of_mem hi)) hfile
      exact (hunder.mem_names_or hreached).resolve_right List.not_mem_nil
    obtain ⟨store, inst, hinst⟩ | ⟨reason, hinst⟩ | hinst := hlinks.instantiates himports
    · exact ⟨_, by simp only [LoadedUnit.load, himage, hlink, hinst]; rfl⟩
    · exact absurd trivial (htrap (.unlinked (.trap reason)) (by
        simp only [LoadedUnit.load, himage, hlink, hinst]))
    · exact absurd (by simp only [LoadedUnit.load, himage, hlink, hinst]) hends
  · exact absurd hf (htrap f (load_eq_error himage hlink unit))
  · exact absurd (by simp only [LoadedUnit.load, himage, hlink]) hends

/-! ## Two files and the host -/

/-- A module that imports from the host and exports a constant. -/
def baseModule : Wasm.ValidModule :=
  ⟨{ Wasm.Module.exporting "f" with
    imports := [⟨Wasm.Wasi.moduleName, Wasm.Wasi.exitName, .func ⟨[.num .i32], []⟩⟩] },
    by decide +kernel⟩

/-- A module that imports what passes the constant on. -/
def relayUser : Wasm.ValidModule :=
  ⟨.importing "relay" "f", by decide +kernel⟩

/-- A file that passes the constant on, and the one that it is from. -/
def relayFiles : Files :=
  { nodes := [(["base.wasm"], .file baseModule.module.encode),
      (["relay.wasm"], .file passingModule.module.encode)] }

/-- The references to the two files, after those to modules of the host. -/
def relayReferences (hosts : List String) : List Reference :=
  hosts.map .ofHost ++
    [⟨"relay", "/relay.wasm", .file "/relay.wasm"⟩, ⟨"base", "/base.wasm", .file "/base.wasm"⟩]

variable {hosts : List String} {name path target : String}

theorem isFileAt_relay_iff : IsFileAt (relayReferences hosts) name path ↔
    name = "relay" ∧ path = "/relay.wasm" ∨ name = "base" ∧ path = "/base.wasm" := by
  simp [IsFileAt, relayReferences, Reference.path?, Reference.ofHost, eq_comm, or_and_right,
    exists_or]

theorem ofFile_relay : Wasm.engine.ofFile relayFiles "/relay.wasm" = .ok passingModule ∧
    Wasm.engine.ofFile relayFiles "/base.wasm" = .ok baseModule := by
  decide +kernel

/-- One file imports from the other, which imports from the host. -/
theorem imports_relay (h : Imports Wasm.engine relayFiles (relayReferences hosts) name target) :
    name = "relay" ∧ target = "base" ∨ name = "base" ∧ target = Wasm.Wasi.moduleName := by
  obtain ⟨path, d, hat, hopen, hmem⟩ := h
  obtain ⟨rfl, rfl⟩ | ⟨rfl, rfl⟩ := isFileAt_relay_iff.1 hat
  · obtain rfl := Except.ok.inj (ofFile_relay.1.symm.trans hopen)
    exact .inl ⟨rfl, List.mem_singleton.1 hmem⟩
  · obtain rfl := Except.ok.inj (ofFile_relay.2.symm.trans hopen)
    exact .inr ⟨rfl, List.mem_singleton.1 hmem⟩

theorem not_transGen_relay :
    ¬TransGen (DependsOn Wasm.engine relayFiles (relayReferences hosts)) name name := by
  intro h
  obtain ⟨_, hhead, -⟩ := TransGen.head'_iff.1 h
  obtain ⟨_, -, himports, path, hat⟩ := TransGen.tail'_iff.1 h
  -- only the base is imported from, and it imports from no file
  obtain ⟨rfl, rfl⟩ | ⟨rfl, rfl⟩ := imports_relay hhead.1
  · obtain ⟨-, h⟩ | ⟨-, h⟩ := imports_relay himports <;> exact absurd h (by decide)
  · obtain ⟨path, hat⟩ := hhead.2
    obtain ⟨h, -⟩ | ⟨h, -⟩ := isFileAt_relay_iff.1 hat <;> exact absurd h (by decide)

/-- What is instantiated for a module that imports what is passed on. -/
theorem eq_of_needs_relay {d : Wasm.ValidModule}
    (h : Needs (E := Wasm.engine) relayFiles (relayReferences hosts) relayUser d) :
    d = relayUser ∨ d = passingModule ∨ d = baseModule := by
  obtain rfl | ⟨name, path, -, hat, hopen⟩ := h
  · exact .inl rfl
  · obtain ⟨-, rfl⟩ | ⟨-, rfl⟩ := isFileAt_relay_iff.1 hat
    · exact .inr (.inl (Except.ok.inj (hopen.symm.trans ofFile_relay.1)))
    · exact .inr (.inr (Except.ok.inj (hopen.symm.trans ofFile_relay.2)))

theorem meets_relay {d : Wasm.ValidModule}
    (h : Needs (E := Wasm.engine) relayFiles (relayReferences hosts) relayUser d)
    {i : Wasm.Import} (hi : i ∈ Wasm.engine.imports d) :
    Meets (E := Wasm.engine) relayFiles (relayReferences hosts) i := by
  obtain rfl | rfl | rfl := eq_of_needs_relay h <;> obtain rfl := List.mem_singleton.1 hi
  · exact .inl ⟨_, _, _, isFileAt_relay_iff.2 (.inl ⟨rfl, rfl⟩), ofFile_relay.1,
      List.mem_cons_self, by decide⟩
  · exact .inl ⟨_, _, _, isFileAt_relay_iff.2 (.inr ⟨rfl, rfl⟩), ofFile_relay.2,
      List.mem_cons_self, by decide⟩
  · exact .inr ⟨⟨.func, 38⟩, by decide +kernel, .func ⟨[.num .i32], []⟩, by decide +kernel,
      by decide +kernel⟩

theorem exists_ofFile_relay (h : IsFileAt (relayReferences hosts) name path) :
    ∃ d, Wasm.engine.ofFile relayFiles path = .ok d := by
  obtain ⟨-, rfl⟩ | ⟨-, rfl⟩ := isFileAt_relay_iff.1 h
  · exact ⟨_, ofFile_relay.1⟩
  · exact ⟨_, ofFile_relay.2⟩

/-- The two files, opened. -/
def relayOpened : List (Opened Wasm.engine) :=
  [⟨"relay", passingModule⟩, ⟨"base", baseModule⟩]

/-- Loads the module that imports what is passed on. -/
abbrev loadRelay (hosts : List String) : Outcome LoadFault (LoadedUnit Wasm.engine) :=
  LoadedUnit.load relayFiles "unit" (.module relayUser.module) (relayReferences hosts)

theorem load_image_relay : Wasm.engine.load (.module relayUser.module) = .ok relayUser := by
  decide +kernel

theorem not_predefines_relay :
    ∀ r ∈ relayReferences hosts, r.isHost = false → ¬Wasm.engine.Predefines r.name := by
  intro r hr hfile
  obtain hr | hr := List.mem_append.1 hr
  · obtain ⟨name, -, rfl⟩ := List.mem_map.1 hr
    exact Bool.noConfusion hfile
  · have hnew : ∀ r ∈ relayReferences [], ∀ d ∈ Wasm.Wasi.definitions, d.1.1 ≠ r.name := by
      decide +kernel
    exact Wasm.not_predefines (hnew r hr)

/-- None of the modules has anything to run. -/
theorem not_isTrap_relay {f : LoadFault} (h : loadRelay hosts = .error f) : ¬f.IsTrap := by
  intro hf
  obtain ⟨d, hneeds, linker, store, reason, hinst⟩ := exists_trap_of_load load_image_relay h hf
  obtain rfl | rfl | rfl := eq_of_needs_relay hneeds
  all_goals exact Wasm.engine_instantiate_ne_trap rfl rfl rfl hinst

theorem loadRelay_ne_endless : loadRelay hosts ≠ .endless :=
  load_ne_endless (fun _ _ _ => Wasm.engine_instantiate_ne_endless) _ _

/-- With the module of the host among the references, the unit is loaded. -/
theorem load_relay : ∃ u, loadRelay [Wasm.Wasi.moduleName] = .ok u := by
  refine load_complete Wasm.engine Wasm.engine_registers Wasm.engine_providesExports
    Wasm.engine_links relayFiles (relayReferences [Wasm.Wasi.moduleName]) relayUser "unit"
    (.module relayUser.module) load_image_relay (by decide) not_predefines_relay
    (fun name _ => not_transGen_relay) (fun name path _ => exists_ofFile_relay)
    (fun d hd i => meets_relay hd) ?_ (fun f => not_isTrap_relay) loadRelay_ne_endless
  intro name target module _ _ himports hhost
  obtain ⟨-, rfl⟩ | ⟨-, rfl⟩ := imports_relay himports
  · exact absurd hhost (Wasm.not_predefines (by decide +kernel))
  · decide

/-- Without it, the file that passes the constant on is linked before the one that it imports from,
and the unit is not loaded, although each import is met. -/
theorem load_unlisted :
    ((relayReferences []).map (·.name)).Nodup ∧
    (∀ r ∈ relayReferences [], r.isHost = false → ¬Wasm.engine.Predefines r.name) ∧
    (∀ name, Reaches (E := Wasm.engine) relayFiles (relayReferences []) relayUser name →
      ¬TransGen (DependsOn Wasm.engine relayFiles (relayReferences [])) name name) ∧
    (∀ name path, Reaches (E := Wasm.engine) relayFiles (relayReferences []) relayUser name →
      IsFileAt (relayReferences []) name path →
        ∃ d, Wasm.engine.ofFile relayFiles path = .ok d) ∧
    (∀ d, Needs (E := Wasm.engine) relayFiles (relayReferences []) relayUser d →
      ∀ i ∈ Wasm.engine.imports d,
        Meets (E := Wasm.engine) relayFiles (relayReferences []) i) ∧
    (∀ f, loadRelay [] = .error f → ¬f.IsTrap) ∧ loadRelay [] ≠ .endless ∧
    loadRelay [] = .error (.notInstantiated "relay"
      (.refused "unknown import: base::f has not been defined")) := by
  refine ⟨by decide, not_predefines_relay, fun name _ => not_transGen_relay,
    fun name path _ => exists_ofFile_relay, fun d hd i => meets_relay hd,
    fun f => not_isTrap_relay, loadRelay_ne_endless, ?_⟩
  have hrelay : file? (relayReferences []) "relay" = some "/relay.wasm" := by decide
  have hbase : file? (relayReferences []) "base" = some "/base.wasm" := by decide
  have hgather : gather relayFiles (relayReferences []) (Wasm.engine.importNames relayUser) [] =
      .ok relayOpened :=
    gather_eq_ok_iff.2 (.head (.opens hrelay rfl ofFile_relay.1)
      (.head (.opens hbase (by decide) ofFile_relay.2) (.single (.unknown (by decide)))))
  have hlink : linkAll (relayReferences []) .host relayOpened = .error (.notInstantiated "relay"
      (.refused "unknown import: base::f has not been defined")) := by
    have hfailed : (match linkAll (relayReferences []) .host relayOpened with
        | .error f => some f
        | _ => none) = some (.notInstantiated "relay"
          (.refused "unknown import: base::f has not been defined")) := by
      decide +kernel
    split at hfailed
    · rename_i f hf
      rw [hf, Option.some.inj hfailed]
    · exact absurd hfailed (by simp)
  exact load_eq_error load_image_relay ((linkFor_of_gather hgather).trans hlink) "unit"

end Linking

end UnitFoundry
