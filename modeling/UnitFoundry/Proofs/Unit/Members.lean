import UnitFoundry.Engine.Laws
import UnitFoundry.Unit.Loaded

/-! # Members of loaded units

A loaded unit is an instance of the module of its image. Its members are the functions that the
module exports, each of the type that the module gives to it.

* **`LoadedUnit.exists_instantiate_of_load`**: what a loaded unit is made of.
* **`LoadedUnit.memberType?_of_load`**: the type of a member is the one that its module declares.
* **`LoadedUnit.exists_load_eq_ok`**: a module that stands alone is loaded. -/

namespace UnitFoundry.LoadedUnit

variable {E : Engine} {files : Files} {name member : String} {image : E.Image}
  {rs : List Reference} {u : LoadedUnit E} {m : E.Module}

/-! ## What is loaded -/

/-- **A loaded unit is an instance** of the module of its image, in the store that linking its
references has left and that instantiating has extended. -/
theorem exists_instantiate_of_load (h : load files name image rs = .ok u) :
    E.load image = .ok u.module ∧ ∃ l, Linking.linkFor files rs u.module = .ok l ∧
      E.instantiate l.linker l.store u.module = .ok (u.store, u.inst) := by
  rw [load] at h
  cases hm : E.load image with
  | error reason =>
      rw [hm] at h
      exact nomatch h
  | ok m =>
      cases hl : Linking.linkFor files rs m with
      | error f => simp [hm, hl] at h
      | endless => simp [hm, hl] at h
      | ok l =>
          cases hi : E.instantiate l.linker l.store m with
          | error f => simp [hm, hl, hi] at h
          | endless => simp [hm, hl, hi] at h
          | ok p =>
              simp only [hm, hl, hi] at h
              obtain rfl := Outcome.ok.inj h
              exact ⟨rfl, l, hl, hi⟩

/-! ## Members -/

/-- **The type of a member is the one that its module declares.** -/
theorem memberType?_of_load (hgives : E.GivesFunctions) (h : load files name image rs = .ok u)
    {t : E.FuncType} (ht : (member, E.func t) ∈ E.exports u.module) :
    u.memberType? member = some t := by
  obtain ⟨-, l, -, hinst⟩ := exists_instantiate_of_load h
  obtain ⟨f, hf⟩ := hgives.exported hinst ht
  rw [memberType?, member?, hf]
  rfl

/-- Nothing is a member under a name that the unit does not export. -/
theorem memberType?_eq_none (hgives : E.GivesFunctions) (h : load files name image rs = .ok u)
    (hname : member ∉ u.exports) : u.memberType? member = none := by
  obtain ⟨-, l, -, hinst⟩ := exists_instantiate_of_load h
  rw [memberType?, member?, hgives.only hinst hname]
  rfl

/-! ## Modules that stand alone -/

/-- A module without imports is linked with nothing but the host. -/
theorem linkFor_of_imports_eq_nil (files : Files) (rs : List Reference)
    (himports : E.imports m = []) : Linking.linkFor files rs m = .ok .host := by
  rw [Linking.linkFor, Engine.importNames, himports, List.map_nil, Linking.gather]
  simp only
  rw [Linking.linkAll]

/-- **A module that stands alone is loaded.** -/
theorem exists_load_eq_ok (files : Files) (name : String) (rs : List Reference)
    (hm : E.load image = .ok m) (himports : E.imports m = [])
    (hinst : ∃ s i, E.instantiate E.host.1 E.host.2 m = .ok (s, i)) :
    ∃ u, load files name image rs = .ok u ∧ u.module = m := by
  obtain ⟨store, inst, hinst⟩ := hinst
  refine ⟨{ name, module := m, inst, store, linked := [] }, ?_, rfl⟩
  rw [load, hm]
  simp only [linkFor_of_imports_eq_nil files rs himports, Linking.Linked.host, hinst]

end UnitFoundry.LoadedUnit
