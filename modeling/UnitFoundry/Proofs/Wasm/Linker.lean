import Mathlib.Data.List.Forall2
import UnitFoundry.Proofs.Wasm.Opening
import UnitFoundry.Wasm.Linker

/-! # What a linker defines

Definitions are only ever added to a linker, and each goes to a pair that had none. Registering an
instance therefore defines just what the instance exports, and instantiating a module finds each of
its imports among what has been defined.

* **`Wasm.Linker.definitions_of_register`**: what registering an instance adds.
* **`Wasm.Linker.find?_of_register`**: each export of a registered instance is found.
* **`Wasm.Linker.exists_imported_of_instantiate`**: what the imports of an instance stand for. -/

namespace UnitFoundry.Wasm.Linker

variable {l l' : Linker} {module name : String} {e : Extern} {s s' : Store} {m : Module}
  {i : Instance}

/-! ## Definitions -/

theorem mem_definitions_of_find? (h : l.find? module name = some e) :
    ((module, name), e) ∈ l.definitions := by
  obtain ⟨l₁, l₂, heq, -⟩ := List.lookup_eq_some_iff.1 h
  rw [heq]
  exact List.mem_append_right _ List.mem_cons_self

/-- What has been defined keeps its meaning when definitions are added. -/
theorem find?_of_append {ds : List ((String × String) × Extern)}
    (hds : l'.definitions = l.definitions ++ ds) (h : l.find? module name = some e) :
    l'.find? module name = some e := by
  rw [find?] at h
  rw [find?, hds, List.lookup_append, h]
  rfl

theorem define_eq_ok_iff : l.define module name e = .ok l' ↔
    l.find? module name = none ∧ l' = ⟨l.definitions ++ [((module, name), e)]⟩ := by
  rw [define]
  cases hf : l.find? module name with
  | some e' => simp
  | none => simp [eq_comm]

/-- What is defined is found. -/
theorem find?_of_define (h : l.define module name e = .ok l') :
    l'.find? module name = some e := by
  obtain ⟨hnone, rfl⟩ := define_eq_ok_iff.1 h
  rw [find?] at hnone
  rw [find?, List.lookup_append, hnone, Option.none_or, List.lookup_cons_self]

/-! ## Registering -/

/-- Defining pairs one after another adds just these, none of which was defined, and each is
found. -/
theorem foldlM_define {xs : List (String × Extern)}
    (h : xs.foldlM (fun l (x : String × Extern) => l.define module x.1 x.2) l = .ok l') :
    l'.definitions = l.definitions ++ xs.map (fun x => ((module, x.1), x.2)) ∧
      ∀ x ∈ xs, l.find? module x.1 = none ∧ l'.find? module x.1 = some x.2 := by
  induction xs generalizing l with
  | nil =>
      obtain rfl := Except.ok.inj h
      exact ⟨(List.append_nil _).symm, fun x hx => absurd hx List.not_mem_nil⟩
  | cons x xs ih =>
      rw [List.foldlM_cons] at h
      obtain ⟨l₁, hdef, h⟩ := exists_of_bind_eq_ok h
      obtain ⟨hdefs, hxs⟩ := ih h
      have hfirst := find?_of_define hdef
      obtain ⟨hnone, rfl⟩ := define_eq_ok_iff.1 hdef
      refine ⟨?_, fun y hy => ?_⟩
      · rw [hdefs, List.map_cons, List.append_assoc, List.singleton_append]
      · rcases List.mem_cons.1 hy with rfl | hy
        · exact ⟨hnone, find?_of_append hdefs hfirst⟩
        · obtain ⟨hnew, hfound⟩ := hxs y hy
          refine ⟨?_, hfound⟩
          -- a definition from before would still be there
          cases hold : l.find? module y.1 with
          | none => rfl
          | some e => exact absurd (hnew.symm.trans (find?_of_append rfl hold)) (by simp)

/-- **Registering an instance adds what the instance exports.** -/
theorem definitions_of_register (h : l.register module i = .ok l') :
    l'.definitions = l.definitions ++ i.exports.map (fun x => ((module, x.1), x.2)) :=
  (foldlM_define h).1

/-- Only pairs that nothing stood for are defined, each once. -/
theorem find?_eq_none_of_register (h : l.register module i = .ok l') {x : String × Extern}
    (hx : x ∈ i.exports) : l.find? module x.1 = none :=
  ((foldlM_define h).2 x hx).1

/-- Everything else stands for what it stood for. -/
theorem find?_of_register_of_other (h : l.register module i = .ok l') {module' n : String}
    (hother : module' = module → ∀ x ∈ i.exports, x.1 ≠ n) :
    l'.find? module' n = l.find? module' n := by
  rw [find?, find?, definitions_of_register h, List.lookup_append]
  have hnone : (i.exports.map (fun x => ((module, x.1), x.2))).lookup (module', n) = none := by
    refine List.lookup_eq_none_iff.2 fun d hd => bne_iff_ne.2 ?_
    obtain ⟨x, hx, rfl⟩ := List.mem_map.1 hd
    intro heq
    obtain ⟨rfl, rfl⟩ := Prod.mk.inj heq
    exact hother rfl x hx rfl
  rw [hnone, Option.or_none]

/-- **Each export of a registered instance is found.** -/
theorem find?_of_register (h : l.register module i = .ok l') {x : String × Extern}
    (hx : x ∈ i.exports) : l'.find? module x.1 = some x.2 :=
  ((foldlM_define h).2 x hx).2

/-! ## Instantiating -/

/-- A traversal that does not fail pairs each element with what comes of it. -/
theorem forall₂_of_mapM {α β ε : Type} {f : α → Except ε β} {xs : List α} {ys : List β}
    (h : xs.mapM f = .ok ys) : List.Forall₂ (fun x y => f x = .ok y) xs ys := by
  induction xs generalizing ys with
  | nil =>
      obtain rfl := Except.ok.inj h
      exact .nil
  | cons x xs ih =>
      rw [List.mapM_cons] at h
      obtain ⟨y, hx, h⟩ := exists_of_bind_eq_ok h
      obtain ⟨ys', hxs, h⟩ := exists_of_bind_eq_ok h
      obtain rfl := Except.ok.inj h
      exact .cons hx (ih hxs)

/-- An import stands for what is defined for its pair, which has the type needed. -/
theorem resolve_eq_ok {imp : Import} (h : l.resolve s imp = .ok e) :
    l.find? imp.module imp.name = some e ∧
      ∃ t, s.externType? e = some t ∧ t.meets imp.type = true := by
  rw [resolve] at h
  cases hf : l.find? imp.module imp.name with
  | none =>
      rw [hf] at h
      exact absurd h (by simp)
  | some e' =>
      rw [hf] at h
      cases ht : s.externType? e' with
      | none => simp [ht] at h
      | some t =>
          simp only [ht] at h
          split at h
          · rename_i hmeets
            obtain rfl := Except.ok.inj h
            exact ⟨rfl, t, ht, hmeets⟩
          · exact absurd h (by simp)

/-- Whatever may stand for an import has its kind. -/
theorem kind_of_meets {t needed : ExternType} (ht : s.externType? e = some t)
    (hmeets : t.meets needed = true) : e.kind = needed.kind := by
  have hkind : t.kind = needed.kind := by
    cases t <;> cases needed <;> simp_all [ExternType.meets, ExternType.kind]
  rw [← hkind]
  obtain ⟨kind, address⟩ := e
  cases kind <;> obtain ⟨x, -, rfl⟩ := Option.map_eq_some_iff.1 ht <;> rfl

/-- **An instance stands on what its imports stand for**, and its start function has run. -/
theorem exists_imported_of_instantiate (h : l.instantiate s m = .ok (s', i)) :
    ∃ imported, List.Forall₂ (fun imp e => l.resolve s imp = .ok e) m.imports imported ∧
      i = (place s m imported).2 ∧ runStart (place s m imported).1 i = .ok s' := by
  obtain ⟨imported, himp, h⟩ := exists_of_bind_eq_ok h
  obtain ⟨-, -, h⟩ := exists_of_bind_eq_ok h
  obtain ⟨s₁, hstart, h⟩ := exists_of_bind_eq_ok h
  obtain ⟨rfl, rfl⟩ := Prod.mk.inj (Except.ok.inj h)
  exact ⟨imported, forall₂_of_mapM himp, rfl, hstart⟩

/-- A module is instantiated only if each of its imports is defined. -/
theorem exists_find?_of_instantiate (h : l.instantiate s m = .ok (s', i)) {imp : Import}
    (himp : imp ∈ m.imports) : ∃ e, l.find? imp.module imp.name = some e := by
  obtain ⟨imported, hall, -⟩ := exists_imported_of_instantiate h
  obtain ⟨k, hk, rfl⟩ := List.getElem_of_mem himp
  have hresolve := hall.get hk (hall.length_eq ▸ hk)
  exact ⟨_, (resolve_eq_ok hresolve).1⟩

end UnitFoundry.Wasm.Linker
