import Mathlib.Data.List.Nodup
import UnitFoundry.Proofs.Wasm.Execution
import UnitFoundry.Proofs.Wasm.Linker

/-! # When modules are instantiated and registered

A module whose imports are all defined, each with a type that meets the one needed, is instantiated
unless it traps: an active segment does not fit, or the start function traps. Its instance then
provides each export with a type that meets the declared one, and nothing that was there before
changes its type. The instance of a valid module is registered under every name that is new.

* **`Wasm.Linker.exists_instantiate_eq_ok`**: a module whose imports are met is instantiated,
  unless it traps.
* **`Wasm.Linker.extends_of_instantiate`**: instantiating keeps what has been in the store.
* **`Wasm.Linker.exists_export_of_instantiate`**: what the exports of an instance stand for.
* **`Wasm.Linker.exists_register_eq_ok`**: an instance is registered under a new name. -/

namespace UnitFoundry.Wasm

/-! ## Types that meet others -/

theorem Limits.meets_refl (t : Limits) : t.meets t = true := by
  cases hmost : t.most <;> simp [Limits.meets, hmost]

theorem Limits.meets_trans {t t' t'' : Limits} (h : t.meets t' = true) (h' : t'.meets t'' = true) :
    t.meets t'' = true := by
  simp only [Limits.meets, Bool.and_eq_true, decide_eq_true_eq] at h h' ⊢
  refine ⟨Nat.le_trans h'.1 h.1, ?_⟩
  cases hneeded : t''.most with
  | none => rfl
  | some n =>
      cases hbetween : t'.most with
      | none => simp [hneeded, hbetween] at h'
      | some p =>
          cases hprovided : t.most with
          | none => simp [hbetween, hprovided] at h
          | some q =>
              simp only [hneeded, hbetween, hprovided, decide_eq_true_eq] at h h' ⊢
              exact Nat.le_trans h.2 h'.2

namespace ExternType

/-- Something stands for an import of its own type. -/
theorem meets_refl (t : ExternType) : t.meets t = true := by
  cases t with
  | func t => exact decide_eq_true rfl
  | table t => simp [meets, Limits.meets_refl]
  | memory t => exact Limits.meets_refl t
  | global t => exact decide_eq_true rfl

theorem meets_trans {t t' t'' : ExternType} (h : t.meets t' = true) (h' : t'.meets t'' = true) :
    t.meets t'' = true := by
  cases t <;> cases t' <;> try exact absurd h Bool.false_ne_true
  all_goals cases t'' <;> try exact absurd h' Bool.false_ne_true
  · simp only [meets, decide_eq_true_eq] at h h' ⊢
    exact h.trans h'
  · simp only [meets, Bool.and_eq_true, decide_eq_true_eq] at h h' ⊢
    exact ⟨h.1.trans h'.1, Limits.meets_trans h.2 h'.2⟩
  · exact Limits.meets_trans h h'
  · simp only [meets, decide_eq_true_eq] at h h' ⊢
    exact h.trans h'

end ExternType

/-- Whether something in a store may stand for an import of a type. -/
def Store.Provides (s : Store) (e : Extern) (t : ExternType) : Prop :=
  ∃ t', s.externType? e = some t' ∧ t'.meets t = true

namespace Store.Provides

variable {s s' : Store} {e : Extern} {t t' : ExternType}

theorem of_externType? (h : s.externType? e = some t) : s.Provides e t :=
  ⟨t, h, t.meets_refl⟩

theorem mono (h : s.Provides e t) (hs : s.Extends s') : s'.Provides e t := by
  obtain ⟨t₀, ht₀, hmeets⟩ := h
  exact ⟨t₀, hs e t₀ ht₀, hmeets⟩

theorem meets (h : s.Provides e t) (ht : t.meets t' = true) : s.Provides e t' := by
  obtain ⟨t₀, ht₀, hmeets⟩ := h
  exact ⟨t₀, ht₀, ExternType.meets_trans hmeets ht⟩

end Store.Provides

/-- Whether a module traps when it is instantiated: an active segment does not fit, or the start
function traps. -/
def LinkFault.IsTrap : LinkFault → Prop
  | .outOfBounds | .startTrap _ => True
  | .unknownImport .. | .mismatch .. | .defined .. => False

namespace Linker

variable {l l' : Linker} {s s' : Store} {m : Module} {i : Instance} {module : String}

/-! ## Placing a module -/

/-- The addresses that are imported for the things of a kind have the types of the imports. -/
theorem forall₂_addressesOf {α : Type} {imports : List Import} {es : List Extern}
    (h : List.Forall₂ (fun imp e => s.Provides e imp.type) imports es) (kind : ExternKind)
    {f : ExternType → Option α} {wrap : α → ExternType}
    (hf : ∀ t x, f t = some x → t = wrap x) (hkind : ∀ t, (f t).isSome = decide (t.kind = kind)) :
    List.Forall₂ (fun x a => s.Provides ⟨kind, a⟩ (wrap x))
      (imports.filterMap fun imp => f imp.type) (addressesOf kind es) := by
  refine List.rel_filterMap (R := fun imp e => s.Provides e imp.type) (fun imp e hprovides => ?_) h
  have hkinds : e.kind = imp.type.kind := by
    obtain ⟨t, ht, hmeets⟩ := hprovides
    exact kind_of_meets ht hmeets
  have hsome := hkind imp.type
  cases hx : f imp.type with
  | none =>
      rw [hx, ← hkinds] at hsome
      rw [if_neg (of_decide_eq_false hsome.symm)]
      exact .none
  | some x =>
      rw [hx, ← hkinds] at hsome
      have he : e.kind = kind := of_decide_eq_true hsome.symm
      rw [if_pos he]
      obtain ⟨k, a⟩ := e
      obtain rfl : k = kind := he
      rw [hf _ _ hx] at hprovides
      exact .some hprovides

/-- What a module imports and what is placed behind it have the types that are declared. -/
theorem forall₂_index {α : Type} {imports : List Import} {es : List Extern}
    (h : List.Forall₂ (fun imp e => s.Provides e imp.type) imports es) (kind : ExternKind)
    (f : ExternType → Option α) (wrap : α → ExternType) (xs : List α) (first : Nat)
    (hf : ∀ t x, f t = some x → t = wrap x) (hkind : ∀ t, (f t).isSome = decide (t.kind = kind))
    (hplaced : ∀ k x, xs[k]? = some x → s.externType? ⟨kind, first + k⟩ = some (wrap x)) :
    List.Forall₂ (fun x a => s.Provides ⟨kind, a⟩ (wrap x))
      ((imports.filterMap fun imp => f imp.type) ++ xs)
      (addressesOf kind es ++ (List.range xs.length).map (first + ·)) := by
  refine List.rel_append (forall₂_addressesOf h kind hf hkind) ?_
  refine List.forall₂_iff_get.2 ⟨by simp, fun k hk hk' => ?_⟩
  have hx : xs[k]? = some xs[k] := List.getElem?_eq_getElem hk
  simpa using Store.Provides.of_externType? (hplaced k _ hx)

/-- What two lists that belong together have at an index belongs together. -/
theorem exists_getElem?_of_forall₂ {α β : Type} {R : α → β → Prop} {xs : List α} {ys : List β}
    (h : List.Forall₂ R xs ys) {k : Nat} {x : α} (hx : xs[k]? = some x) :
    ∃ y, ys[k]? = some y ∧ R x y := by
  obtain ⟨hk, rfl⟩ := List.getElem?_eq_some_iff.1 hx
  have hk' : k < ys.length := h.length_eq ▸ hk
  exact ⟨ys[k], List.getElem?_eq_getElem hk', h.get hk hk'⟩

theorem getElem?_append_size_add {α : Type} (xs ys : Array α) (k : Nat) :
    (xs ++ ys)[xs.size + k]? = ys[k]? := by
  rw [Array.getElem?_append_right (Nat.le_add_right _ _), Nat.add_sub_cancel_left]

/-- Placing a module keeps what has been in the store. -/
theorem extends_place (s : Store) (m : Module) (imported : List Extern) :
    s.Extends (place s m imported).1 := by
  rintro ⟨kind, a⟩ t h
  cases kind <;> obtain ⟨x, hx, rfl⟩ := Option.map_eq_some_iff.1 h <;>
    simp [Store.externType?, place, Array.getElem?_append_left (Array.getElem?_eq_some_iff.1 hx).1,
      hx]

/-- **What a module has under an index** is in the store of each of its instances, with a type that
meets the declared one. -/
theorem exists_address?_place {imported : List Extern}
    (h : List.Forall₂ (fun imp e => s.Provides e imp.type) m.imports imported)
    {kind : ExternKind} {k : Nat} {t : ExternType} (hk : m.externType? kind k = some t) :
    ∃ a, (place s m imported).2.addresses.address? kind k = some a ∧
      (place s m imported).1.Provides ⟨kind, a⟩ t := by
  have himported := h.imp fun imp e he => he.mono (extends_place s m imported)
  -- what is imported stands before what is defined, in the declared types and in the addresses
  cases kind with
  | func =>
      obtain ⟨x, hx, rfl⟩ := Option.map_eq_some_iff.1 hk
      have hindex := forall₂_index himported .func ExternType.func? .func (m.funcs.map (·.type))
        s.funcs.size
        (by intro t x; cases t <;> simp [ExternType.func?]) (by intro t; cases t <;> rfl)
        (by
          intro k x hx
          obtain ⟨f, hf, rfl⟩ := Option.map_eq_some_iff.1 (List.getElem?_map.symm.trans hx)
          simp [Store.externType?, place, getElem?_append_size_add, hf, StoredFunc.type])
      rw [List.length_map] at hindex
      exact exists_getElem?_of_forall₂ hindex hx
  | table =>
      obtain ⟨x, hx, rfl⟩ := Option.map_eq_some_iff.1 hk
      have hindex := forall₂_index himported .table ExternType.table? .table m.tables
        s.tables.size
        (by intro t x; cases t <;> simp [ExternType.table?]) (by intro t; cases t <;> rfl)
        (by intro k x hx; simp [Store.externType?, place, getElem?_append_size_add, hx])
      exact exists_getElem?_of_forall₂ hindex hx
  | memory =>
      obtain ⟨x, hx, rfl⟩ := Option.map_eq_some_iff.1 hk
      have hindex := forall₂_index himported .memory ExternType.memory? .memory m.memories
        s.memories.size
        (by intro t x; cases t <;> simp [ExternType.memory?]) (by intro t; cases t <;> rfl)
        (by intro k x hx; simp [Store.externType?, place, getElem?_append_size_add, hx])
      exact exists_getElem?_of_forall₂ hindex hx
  | global =>
      obtain ⟨x, hx, rfl⟩ := Option.map_eq_some_iff.1 hk
      have hindex := forall₂_index himported .global ExternType.global? .global
        (m.globals.map (·.type)) s.globals.size
        (by intro t x; cases t <;> simp [ExternType.global?]) (by intro t; cases t <;> rfl)
        (by
          intro k x hx
          obtain ⟨g, hg, rfl⟩ := Option.map_eq_some_iff.1 (List.getElem?_map.symm.trans hx)
          simp [Store.externType?, place, getElem?_append_size_add, hg])
      rw [List.length_map] at hindex
      exact exists_getElem?_of_forall₂ hindex hx

/-! ## Instantiating -/

/-- An import stands for what is defined for its pair, if that may stand for it. -/
theorem resolve_of_provides {imp : Import} {e : Extern}
    (hfind : l.find? imp.module imp.name = some e) (h : s.Provides e imp.type) :
    l.resolve s imp = .ok e := by
  obtain ⟨t, ht, hmeets⟩ := h
  simp [resolve, hfind, ht, hmeets]

/-- A traversal fails only if one of its steps does. -/
theorem exists_mapM_eq_ok {α β ε : Type} {f : α → Except ε β} {xs : List α}
    (h : ∀ x ∈ xs, ∃ y, f x = .ok y) : ∃ ys, xs.mapM f = .ok ys := by
  induction xs with
  | nil => exact ⟨[], rfl⟩
  | cons x xs ih =>
      obtain ⟨y, hy⟩ := h x List.mem_cons_self
      obtain ⟨ys, hys⟩ := ih fun x hx => h x (List.mem_cons_of_mem _ hx)
      refine ⟨y :: ys, ?_⟩
      rw [List.mapM_cons, hy, hys]
      rfl

theorem isTrap_of_checkSegments {f : LinkFault} (h : checkSegments s i = .error f) :
    f.IsTrap := by
  simp only [checkSegments] at h
  split at h
  · obtain rfl := Except.error.inj h
    trivial
  · simp only [bind, pure, Except.pure] at h
    split at h
    · obtain rfl := Except.error.inj h
      trivial
    · exact absurd h (by simp)

theorem isTrap_of_runStart {f : LinkFault} (h : runStart s i = .error f) : f.IsTrap := by
  rw [runStart] at h
  split at h
  · exact absurd h (by simp)
  · split at h
    · exact absurd h (by simp)
    · obtain rfl := Except.error.inj h
      trivial

theorem extends_runStart (h : runStart s i = .ok s') : s.Extends s' := by
  rw [runStart] at h
  split at h
  · exact Except.ok.inj h ▸ .refl s
  · rename_i address _
    have hkeeps := extends_call address [] s
    split at h
    · rename_i hcall
      rw [hcall] at hkeeps
      exact Except.ok.inj h ▸ hkeeps
    · exact absurd h (by simp)

/-- **A module whose imports are met is instantiated, unless it traps.** -/
theorem exists_instantiate_eq_ok
    (h : ∀ imp ∈ m.imports, ∃ e, l.find? imp.module imp.name = some e ∧ s.Provides e imp.type)
    (htrap : ∀ f, l.instantiate s m = .error f → ¬f.IsTrap) :
    ∃ s' i, l.instantiate s m = .ok (s', i) := by
  obtain ⟨imported, himported⟩ : ∃ imported, m.imports.mapM (l.resolve s) = .ok imported := by
    refine exists_mapM_eq_ok fun imp himp => ?_
    obtain ⟨e, hfind, hprovides⟩ := h imp himp
    exact ⟨e, resolve_of_provides hfind hprovides⟩
  -- it fails neither for an import nor, by assumption, by a trap
  cases hinst : l.instantiate s m with
  | ok r => exact ⟨r.1, r.2, rfl⟩
  | error f =>
      refine absurd ?_ (htrap f hinst)
      rw [instantiate, himported] at hinst
      -- with its imports resolved, a module only fails by a trap
      cases hsegments : checkSegments (place s m imported).1 (place s m imported).2 with
      | error g =>
          simp only [bind, Except.bind, hsegments] at hinst
          exact Except.error.inj hinst ▸ isTrap_of_checkSegments hsegments
      | ok u =>
          cases hstart : runStart (place s m imported).1 (place s m imported).2 with
          | error g =>
              simp only [bind, Except.bind, hsegments, hstart] at hinst
              exact Except.error.inj hinst ▸ isTrap_of_runStart hstart
          | ok s₁ =>
              simp [bind, Except.bind, hsegments, hstart, pure, Except.pure] at hinst

/-- A traversal that fails does so in one of its steps. -/
theorem exists_of_mapM_eq_error {α β ε : Type} {f : α → Except ε β} {xs : List α} {e : ε}
    (h : xs.mapM f = .error e) : ∃ x ∈ xs, f x = .error e := by
  induction xs with
  | nil => exact absurd h (by simp [pure, Except.pure])
  | cons x xs ih =>
      rw [List.mapM_cons] at h
      cases hx : f x with
      | error e' =>
          rw [hx] at h
          exact ⟨x, List.mem_cons_self, Except.error.inj h ▸ hx⟩
      | ok y =>
          rw [hx] at h
          cases hxs : xs.mapM f with
          | ok ys =>
              rw [hxs] at h
              exact absurd h (by simp [bind, Except.bind, pure, Except.pure])
          | error e' =>
              rw [hxs] at h
              obtain ⟨x', hx', hfx'⟩ := ih (hxs.trans h)
              exact ⟨x', List.mem_cons_of_mem _ hx', hfx'⟩

/-- An import that is not met is no trap. -/
theorem not_isTrap_of_resolve {imp : Import} {f : LinkFault} (h : l.resolve s imp = .error f) :
    ¬f.IsTrap := by
  rw [resolve] at h
  split at h
  · exact Except.error.inj h ▸ id
  · split at h
    · split at h
      · exact absurd h (by simp)
      · exact Except.error.inj h ▸ id
    · exact Except.error.inj h ▸ id

/-- **A module that has nothing to run does not trap**: no segment and no start function. -/
theorem not_isTrap_of_instantiate (helements : m.elements = []) (hdata : m.data = [])
    (hstart : m.start = none) {f : LinkFault} (h : l.instantiate s m = .error f) : ¬f.IsTrap := by
  rw [instantiate] at h
  cases himported : m.imports.mapM (l.resolve s) with
  | error g =>
      rw [himported] at h
      obtain ⟨imp, -, himp⟩ := exists_of_mapM_eq_error himported
      exact Except.error.inj h ▸ not_isTrap_of_resolve himp
  | ok imported =>
      have hsegments : checkSegments (place s m imported).1 (place s m imported).2 = .ok () := by
        simp [checkSegments, place, helements, hdata, pure, Except.pure]
      have hrun : runStart (place s m imported).1 (place s m imported).2 =
          .ok (place s m imported).1 := by
        simp [runStart, place, hstart]
      rw [himported] at h
      simp [bind, Except.bind, hsegments, hrun, pure, Except.pure] at h

/-- An instance is what a module becomes when it is placed on what its imports stand for. -/
theorem exists_place_of_instantiate (h : l.instantiate s m = .ok (s', i)) :
    ∃ imported, List.Forall₂ (fun imp e => s.Provides e imp.type) m.imports imported ∧
      i = (place s m imported).2 ∧ (place s m imported).1.Extends s' := by
  obtain ⟨imported, himported, rfl, hstart⟩ := exists_imported_of_instantiate h
  exact ⟨imported, himported.imp fun _ _ hr => (resolve_eq_ok hr).2, rfl, extends_runStart hstart⟩

/-- **Instantiating keeps what has been in the store.** -/
theorem extends_of_instantiate (h : l.instantiate s m = .ok (s', i)) : s.Extends s' := by
  obtain ⟨imported, -, -, hextends⟩ := exists_place_of_instantiate h
  exact (extends_place s m imported).trans hextends

/-- **What an export of an instance stands for** may stand for an import of the type that the
module declares. -/
theorem exists_export_of_instantiate (h : l.instantiate s m = .ok (s', i)) {e : Export}
    (he : e ∈ m.exports) {t : ExternType} (ht : m.externType? e.kind e.index = some t) :
    ∃ x, (e.name, x) ∈ i.exports ∧ s'.Provides x t := by
  obtain ⟨imported, himported, rfl, hextends⟩ := exists_place_of_instantiate h
  obtain ⟨a, ha, hprovides⟩ := exists_address?_place himported ht
  refine ⟨⟨e.kind, a⟩, List.mem_filterMap.2 ⟨e, he, ?_⟩, hprovides.mono hextends⟩
  rw [Instance.extern?, ha]
  rfl

/-! ## Registering -/

/-- Pairs with distinct names can be defined if none of them is defined already. -/
theorem exists_foldlM_define {xs : List (String × Extern)} (hnodup : (xs.map (·.1)).Nodup)
    (hnew : ∀ x ∈ xs, l.find? module x.1 = none) :
    ∃ l', xs.foldlM (fun l (x : String × Extern) => l.define module x.1 x.2) l = .ok l' := by
  induction xs generalizing l with
  | nil => exact ⟨l, rfl⟩
  | cons x xs ih =>
      rw [List.map_cons, List.nodup_cons] at hnodup
      have hdef : l.define module x.1 x.2 = .ok ⟨l.definitions ++ [((module, x.1), x.2)]⟩ :=
        define_eq_ok_iff.2 ⟨hnew x List.mem_cons_self, rfl⟩
      -- the first definition is for another name
      have hrest : ∀ y ∈ xs, find? ⟨l.definitions ++ [((module, x.1), x.2)]⟩ module y.1 = none := by
        intro y hy
        have hne : y.1 ≠ x.1 := fun heq => hnodup.1 (heq ▸ List.mem_map_of_mem hy)
        have hother : ((module, y.1) == (module, x.1)) = false := by simpa using hne
        have hold := hnew y (List.mem_cons_of_mem _ hy)
        rw [find?] at hold
        simp [find?, List.lookup_append, hold, List.lookup_cons, hother]
      obtain ⟨l', hl'⟩ := ih hnodup.2 hrest
      refine ⟨l', ?_⟩
      rw [List.foldlM_cons, hdef]
      exact hl'

/-- The names under which an instance provides something are names of exports, each at most
once. -/
theorem nodup_exports (hnodup : i.module.exportNames.Nodup) :
    (i.exports.map (·.1)).Nodup := by
  have hsub : (i.exports.map (·.1)).Sublist i.module.exportNames := by
    rw [Instance.exports, Module.exportNames]
    induction i.module.exports with
    | nil => exact .slnil
    | cons e es ih =>
        rw [List.filterMap_cons, List.map_cons]
        cases i.extern? e with
        | none => exact .cons _ ih
        | some x => exact .cons_cons _ ih
  exact hnodup.sublist hsub

/-- **The instance of a valid module is registered** if nothing is defined that it provides. -/
theorem exists_register_eq_ok (hvalid : i.module.validate = .ok ())
    (hnew : ∀ x ∈ i.exports, l.find? module x.1 = none) : ∃ l', l.register module i = .ok l' :=
  exists_foldlM_define (nodup_exports (Module.nodup_exportNames_of_validate hvalid)) hnew

end Linker

end UnitFoundry.Wasm
