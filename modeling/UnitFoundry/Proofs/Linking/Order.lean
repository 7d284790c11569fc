import UnitFoundry.Engine.Laws
import UnitFoundry.Proofs.Linking.Gather

/-! # The order of linking

The loop that links references takes one of them in each turn, which need not be ready. Still a
reference is only linked after everything that it imports from: the linker fails on an import that
is not defined, and it has only been given what the host provides and what has been linked.

* **`Linking.linkAll_eq_ok_iff`**: the loop gives what its last turn leaves.
* **`Linking.linkAll_eq_endless_iff`**: it only goes on forever while instantiating does.
* **`Linking.exists_order_of_linkAll`**: the loop links each reference once, in some order.
* **`Linking.mem_names_of_link`**: what a reference imports from has been linked before it.
* **`Linking.Underway.run`**: what is known after any number of turns. -/

namespace UnitFoundry.Linking

open Relation

/-- A turn of the loop that links references, from what has been linked and what is pending to
those after it. -/
inductive LinkStep {E : Engine} (references : List Reference) :
    Linked E × List (Opened E) → Linked E × List (Opened E) → Prop where
  /-- The reference that is taken can be linked. -/
  | link {l l' : Linked E} {first : Opened E} {rest : List (Opened E)} :
    l.link (takeReady (isReady references l) first rest).1 = .ok l' →
    LinkStep references (l, first :: rest) (l', (takeReady (isReady references l) first rest).2)

variable {E : Engine} {references : List Reference} {l l' : Linked E} {o : Opened E}
  {os : List (Opened E)}

/-! ## The loop ends -/

/-- **The loop that links references cannot go on forever.** -/
theorem wellFounded_linkStep (E : Engine) (references : List Reference) :
    WellFounded fun t s => LinkStep (E := E) references s t := by
  refine Subrelation.wf ?_ (InvImage.wf (fun s : Linked E × List (Opened E) => s.2.length)
    Nat.lt_wfRel.wf)
  intro t s hstep
  cases hstep with
  | @link l l' first rest h =>
      show (takeReady (isReady references l) first rest).2.length < (first :: rest).length
      rw [length_takeReady]
      exact Nat.lt_succ_self _

/-- A turn does not change what the loop gives. -/
theorem linkAll_of_step {s t : Linked E × List (Opened E)} (h : LinkStep references s t) :
    linkAll references s.1 s.2 = linkAll references t.1 t.2 := by
  cases h with
  | link hlink => rw [linkAll, hlink]

/-- Nor do many turns. -/
theorem linkAll_of_steps {s t : Linked E × List (Opened E)}
    (h : ReflTransGen (LinkStep references) s t) :
    linkAll references s.1 s.2 = linkAll references t.1 t.2 := by
  induction h with
  | refl => rfl
  | tail _ hstep ih => exact ih.trans (linkAll_of_step hstep)

/-- **The loop gives what its last turn leaves.** -/
theorem linkAll_eq_ok_iff : linkAll references l os = .ok l' ↔
    ReflTransGen (LinkStep references) (l, os) (l', []) := by
  constructor
  · intro h
    induction l, os using linkAll.induct references with
    | case1 l =>
        rw [linkAll] at h
        rw [Outcome.ok.inj h]
    | case2 l first rest next f hlink =>
        rw [linkAll] at h
        simp only [next] at hlink
        simp [hlink] at h
    | case3 l first rest next hlink =>
        rw [linkAll] at h
        simp only [next] at hlink
        simp [hlink] at h
    | case4 l first rest next l₁ hlink ih =>
        have hstep : LinkStep references (l, first :: rest) (l₁, next.2) := .link hlink
        rw [linkAll_of_step hstep] at h
        exact .head hstep (ih h)
  · intro h
    have hlast : linkAll references l' [] = .ok l' := by rw [linkAll]
    exact (linkAll_of_steps h).trans hlast

/-- Linking a reference only goes on forever while it is instantiated. -/
theorem link_eq_endless_iff :
    l.link o = .endless ↔ E.instantiate l.linker l.store o.module = .endless := by
  rw [Linked.link]
  cases E.instantiate l.linker l.store o.module with
  | error f => simp
  | endless => simp
  | ok p =>
      cases hreg : E.register l.linker o.name p.2 <;> simp [hreg]

/-- **The loop only goes on forever in a turn in which instantiating does.** -/
theorem linkAll_eq_endless_iff : linkAll references l os = .endless ↔ ∃ l' first rest,
    ReflTransGen (LinkStep references) (l, os) (l', first :: rest) ∧
      E.instantiate l'.linker l'.store
        (takeReady (isReady references l') first rest).1.module = .endless := by
  constructor
  · intro h
    induction l, os using linkAll.induct references with
    | case1 l =>
        rw [linkAll] at h
        exact absurd h (by simp)
    | case2 l first rest next f hlink =>
        rw [linkAll] at h
        simp only [next] at hlink
        simp [hlink] at h
    | case3 l first rest next hlink =>
        exact ⟨l, first, rest, .refl, link_eq_endless_iff.1 hlink⟩
    | case4 l first rest next l₁ hlink ih =>
        have hstep : LinkStep references (l, first :: rest) (l₁, next.2) := .link hlink
        rw [linkAll_of_step hstep] at h
        obtain ⟨l', first', rest', hsteps, hendless⟩ := ih h
        exact ⟨l', first', rest', .head hstep hsteps, hendless⟩
  · rintro ⟨l', first, rest, hsteps, hendless⟩
    refine (linkAll_of_steps hsteps).trans ?_
    rw [linkAll, link_eq_endless_iff.2 hendless]

/-- Whether the loop comes to instantiate a reference, on top of what has been linked by then. -/
def Takes (references : List Reference) (os : List (Opened E)) (l : Linked E) (o : Opened E) :
    Prop :=
  ∃ first rest, ReflTransGen (LinkStep references) (.host, os) (l, first :: rest) ∧
    o = (takeReady (isReady references l) first rest).1

/-! ## One order -/

/-- What is taken and what is left are what was pending. -/
theorem perm_takeReady (ready : Opened E → Bool) (first : Opened E) (rest : List (Opened E)) :
    ((takeReady ready first rest).1 :: (takeReady ready first rest).2).Perm (first :: rest) := by
  rw [takeReady]
  cases h : (first :: rest).find? ready with
  | none => exact .refl _
  | some o =>
      -- what is taken is the first that is ready, and just this one is left out
      obtain ⟨hready, l₁, l₂, heq, hbefore⟩ := List.find?_eq_some_iff_append.1 h
      have hbefore' : ∀ a ∈ l₁, ¬ready a = true := by simpa using hbefore
      rw [heq]
      show (o :: (l₁ ++ o :: l₂).eraseP ready).Perm (l₁ ++ o :: l₂)
      rw [List.eraseP_append_right _ hbefore', List.eraseP_cons_of_pos hready]
      exact List.perm_middle.symm

/-- **The loop links each reference once, in some order.** -/
theorem exists_order_of_linkAll (h : linkAll references l os = .ok l') :
    ∃ order : List (Opened E), order.Perm os ∧ order.foldlM Linked.link l = .ok l' := by
  have hall : ∀ s, ReflTransGen (LinkStep references) s (l', []) →
      ∃ order : List (Opened E), order.Perm s.2 ∧ order.foldlM Linked.link s.1 = .ok l' := by
    intro s hs
    induction hs using ReflTransGen.head_induction_on with
    | refl => exact ⟨[], .refl _, rfl⟩
    | head hstep _ ih =>
        cases hstep with
        | @link l l₁ first rest hlink =>
            obtain ⟨order, hperm, hfold⟩ := ih
            refine ⟨(takeReady (isReady references l) first rest).1 :: order, ?_, ?_⟩
            · exact (hperm.cons _).trans (perm_takeReady _ _ _)
            · rw [List.foldlM_cons, hlink]
              exact hfold
  exact hall _ (linkAll_eq_ok_iff.1 h)

/-! ## What linking a reference does -/

/-- A reference is linked by instantiating it and registering the instance under its name. -/
theorem link_eq_ok (h : l.link o = .ok l') : ∃ store i,
    E.instantiate l.linker l.store o.module = .ok (store, i) ∧
      E.register l.linker o.name i = .ok l'.linker ∧ l'.store = store ∧
        l'.names = l.names ++ [o.name] := by
  rw [Linked.link] at h
  split at h
  · exact absurd h (by simp)
  · exact absurd h (by simp)
  · rename_i store i hinst
    split at h
    · exact absurd h (by simp)
    · rename_i linker hreg
      obtain rfl := Outcome.ok.inj h
      exact ⟨store, i, hinst, hreg, rfl, rfl⟩

/-- Whether a linker has only been given what the host provides and what has been linked. -/
def Linked.Closed (l : Linked E) : Prop :=
  ∀ module name, (E.find? l.linker module name).isSome → E.Predefines module ∨ module ∈ l.names

theorem closed_host : (Linked.host : Linked E).Closed :=
  fun _ name h => Or.inl ⟨name, h⟩

theorem Linked.Closed.link (hl : l.Closed) (hregisters : E.Registers) (h : l.link o = .ok l') :
    l'.Closed := by
  obtain ⟨store, i, -, hreg, -, hnames⟩ := link_eq_ok h
  intro module name hfound
  rw [hnames, List.mem_append, List.mem_singleton]
  by_cases hmodule : module = o.name
  · exact Or.inr (Or.inr hmodule)
  · -- under another name, nothing is new
    rw [hregisters.keeps hreg fun heq => absurd heq hmodule] at hfound
    exact (hl module name hfound).imp_right Or.inl

/-- **What a reference imports from has been linked before it**, unless the host provides it. -/
theorem mem_names_of_link (hl : l.Closed) (hneeds : E.NeedsImports) (h : l.link o = .ok l')
    {name : String} (hname : name ∈ E.importNames o.module) :
    E.Predefines name ∨ name ∈ l.names := by
  obtain ⟨store, i, hinst, -⟩ := link_eq_ok h
  obtain ⟨imp, himp, rfl⟩ := List.mem_map.1 hname
  exact hl _ _ (hneeds hinst imp himp)

/-! ## What is pending -/

/-- What is known when the loop that links references has come to what is pending. -/
structure Underway (os : List (Opened E)) (l : Linked E) (pending : List (Opened E)) : Prop where
  /-- Each opened reference has been linked or is pending. -/
  perm : (l.names ++ pending.map (·.name)).Perm (os.map (·.name))
  /-- What is pending has been opened. -/
  opened : ∀ o ∈ pending, o ∈ os

namespace Underway

variable {first : Opened E} {rest pending : List (Opened E)}

theorem start (os : List (Opened E)) : Underway os .host os where
  perm := .refl _
  opened _ ho := ho

theorem mem_map_of_mem_names (h : Underway os l pending) {name : String} (hname : name ∈ l.names) :
    name ∈ os.map (·.name) :=
  h.perm.mem_iff.1 (List.mem_append_left _ hname)

theorem notMem_names (h : Underway os l pending) (hnodup : (os.map (·.name)).Nodup)
    (ho : o ∈ pending) : o.name ∉ l.names := by
  have hsplit := h.perm.nodup_iff.2 hnodup
  exact fun hmem => (List.nodup_append.1 hsplit).2.2 _ hmem _ (List.mem_map_of_mem ho) rfl

theorem mem_names_or (h : Underway os l pending) {name : String} (hname : name ∈ os.map (·.name)) :
    name ∈ l.names ∨ name ∈ pending.map (·.name) :=
  List.mem_append.1 (h.perm.mem_iff.2 hname)

/-- What is taken has been opened. -/
theorem mem_of_takeReady (h : Underway os l (first :: rest)) (ready : Opened E → Bool) :
    (takeReady ready first rest).1 ∈ os :=
  h.opened _ ((perm_takeReady ready first rest).mem_iff.1 List.mem_cons_self)

/-- Linking the reference that is taken leaves the others pending. -/
theorem step (h : Underway os l (first :: rest)) {ready : Opened E → Bool}
    (hlink : l.link (takeReady ready first rest).1 = .ok l') :
    Underway os l' (takeReady ready first rest).2 := by
  have hperm := perm_takeReady ready first rest
  obtain ⟨store, i, -, -, -, hnames⟩ := link_eq_ok hlink
  refine ⟨?_, fun o ho => h.opened o (hperm.mem_iff.1 (List.mem_cons_of_mem _ ho))⟩
  rw [hnames, List.append_assoc, List.singleton_append, ← List.map_cons]
  exact ((hperm.map _).append_left l.names).trans h.perm

/-- **What is known after any number of turns.** -/
theorem run {s t : Linked E × List (Opened E)} (h : Underway os s.1 s.2)
    (hrun : ReflTransGen (LinkStep references) s t) : Underway os t.1 t.2 := by
  induction hrun with
  | refl => exact h
  | tail _ hstep ih =>
      cases hstep with
      | link hlink => exact ih.step hlink

end Underway

/-! ## What linking references in an order does -/

theorem names_of_foldlM (h : os.foldlM Linked.link l = .ok l') :
    l'.names = l.names ++ os.map (·.name) := by
  induction os generalizing l with
  | nil =>
      obtain rfl := Outcome.ok.inj h
      exact (List.append_nil _).symm
  | cons o os ih =>
      rw [List.foldlM_cons] at h
      obtain ⟨l₁, hlink, h⟩ := Outcome.bind_eq_ok_iff.1 h
      obtain ⟨store, i, -, -, -, hnames⟩ := link_eq_ok hlink
      rw [ih h, hnames, List.append_assoc, List.map_cons, List.singleton_append]

theorem Linked.Closed.foldlM (hl : l.Closed) (hregisters : E.Registers)
    (h : os.foldlM Linked.link l = .ok l') : l'.Closed := by
  induction os generalizing l with
  | nil => exact Outcome.ok.inj h ▸ hl
  | cons o os ih =>
      rw [List.foldlM_cons] at h
      obtain ⟨l₁, hlink, h⟩ := Outcome.bind_eq_ok_iff.1 h
      exact ih (hl.link hregisters hlink) h

/-- What has been defined keeps its meaning while references are linked. -/
theorem find?_of_foldlM (hregisters : E.Registers) {module name : String} {x : E.Extern}
    (h : os.foldlM Linked.link l = .ok l') (hfind : E.find? l.linker module name = some x) :
    E.find? l'.linker module name = some x := by
  induction os generalizing l with
  | nil => exact Outcome.ok.inj h ▸ hfind
  | cons o os ih =>
      rw [List.foldlM_cons] at h
      obtain ⟨l₁, hlink, h⟩ := Outcome.bind_eq_ok_iff.1 h
      obtain ⟨store, i, -, hreg, -⟩ := link_eq_ok hlink
      exact ih h (hregisters.find?_of_register hreg hfind)

/-- Each reference is linked on top of those before it. -/
theorem exists_link_of_foldlM {before after : List (Opened E)}
    (h : (before ++ o :: after).foldlM Linked.link l = .ok l') : ∃ l₁ l₂,
    before.foldlM Linked.link l = .ok l₁ ∧ l₁.link o = .ok l₂ ∧
      after.foldlM Linked.link l₂ = .ok l' := by
  rw [List.foldlM_append] at h
  obtain ⟨l₁, hbefore, h⟩ := Outcome.bind_eq_ok_iff.1 h
  rw [List.foldlM_cons] at h
  obtain ⟨l₂, hlink, hafter⟩ := Outcome.bind_eq_ok_iff.1 h
  exact ⟨l₁, l₂, hbefore, hlink, hafter⟩

end UnitFoundry.Linking
