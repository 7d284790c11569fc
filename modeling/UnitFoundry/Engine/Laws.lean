import UnitFoundry.Engine.Basic

/-! # What engines do

What is proved about units relies on an engine for as much as its documentation promises. Each
promise is a law with a name of its own, and a theorem takes just the laws that it needs.

* **`Engine.LoadsAsRead`**: an image is one module, however it is opened.
* **`Engine.NeedsImports`**: nothing is instantiated without its imports.
* **`Engine.ProvidesExports`**: an instance provides what its module exports.
* **`Engine.Registers`**: what it means to register an instance.
* **`Engine.Links`**: what can be linked is linked.
* **`Engine.GivesFunctions`**: the functions of an instance are those that its module exports. -/

namespace UnitFoundry.Engine

variable (E : Engine)

/-- Whether the host provides something under the name of a module before anything is linked. -/
def Predefines (module : String) : Prop :=
  ∃ name, (E.find? E.host.1 module name).isSome

/-- Whether something in a store may stand for an import of a type. -/
def Provides (s : E.Store) (x : E.Extern) (t : E.ExternType) : Prop :=
  ∃ t', E.externType? s x = some t' ∧ E.meets t' t = true

/-- An image is loaded as the module that is read from it. -/
def LoadsAsRead : Prop :=
  ∀ {image m m'}, E.load image = .ok m' → E.read image = .ok m → m' = m

/-- A module is not instantiated if one of its imports is not defined. -/
def NeedsImports : Prop :=
  ∀ {l s m s' i}, E.instantiate l s m = .ok (s', i) →
    ∀ imp ∈ E.imports m, (E.find? l imp.module imp.name).isSome

/-- An instance provides each export of its module, with a type that meets the declared one. -/
def ProvidesExports : Prop :=
  ∀ {l s m s' i}, E.instantiate l s m = .ok (s', i) →
    ∀ e ∈ E.exports m, ∃ x, (e.1, x) ∈ E.externs i ∧ E.Provides s' x e.2

/-- Registering an instance defines just what the instance provides, under the name that is given,
and fails if something of this is defined already. -/
structure Registers : Prop where
  /-- What the instance provides is defined. -/
  defines : ∀ {l name i l'}, E.register l name i = .ok l' →
    ∀ x ∈ E.externs i, E.find? l' name x.1 = some x.2
  /-- Nothing else is. -/
  keeps : ∀ {l name i l'}, E.register l name i = .ok l' →
    ∀ {module n}, (module = name → ∀ x ∈ E.externs i, x.1 ≠ n) →
      E.find? l' module n = E.find? l module n
  /-- Nothing is defined anew. -/
  fresh : ∀ {l name i l'}, E.register l name i = .ok l' →
    ∀ x ∈ E.externs i, E.find? l name x.1 = none

/-- What can be linked is linked. -/
structure Links : Prop where
  /-- A module whose imports are defined with types that meet those needed is instantiated, unless
  it traps or never ends. -/
  instantiates : ∀ {l s m},
    (∀ imp ∈ E.imports m,
      ∃ x, E.find? l imp.module imp.name = some x ∧ E.Provides s x imp.type) →
    (∃ s' i, E.instantiate l s m = .ok (s', i)) ∨
      (∃ reason, E.instantiate l s m = .error (.trap reason)) ∨ E.instantiate l s m = .endless
  /-- What is in a store stays there, and may stand for what it could stand for before. -/
  keeps : ∀ {l s m s' i}, E.instantiate l s m = .ok (s', i) →
    ∀ {x t}, E.Provides s x t → E.Provides s' x t
  /-- An instance is registered if nothing is defined that it provides. -/
  registers : ∀ {l s m s' i}, E.instantiate l s m = .ok (s', i) →
    ∀ {l₁ name}, (∀ x ∈ E.externs i, E.find? l₁ name x.1 = none) →
      ∃ l₂, E.register l₁ name i = .ok l₂
  /-- What meets a type meets whatever that meets. -/
  meets_trans : ∀ {t t' t''}, E.meets t t' = true → E.meets t' t'' = true → E.meets t t'' = true

/-- An instance gives the functions that its module exports, and no others. -/
structure GivesFunctions : Prop where
  /-- A function that is exported is given, with its type. -/
  exported : ∀ {l s m s' i}, E.instantiate l s m = .ok (s', i) →
    ∀ {name t}, (name, E.func t) ∈ E.exports m → ∃ f, E.func? s' i name = some (f, t)
  /-- What is not exported is not given. -/
  only : ∀ {l s m s' i}, E.instantiate l s m = .ok (s', i) →
    ∀ {name}, name ∉ E.exportNames m → E.func? s' i name = none

variable {E}

namespace Provides

variable {s : E.Store} {x : E.Extern} {t t' : E.ExternType}

theorem meets (h : E.Provides s x t) (hlinks : E.Links) (ht : E.meets t t' = true) :
    E.Provides s x t' := by
  obtain ⟨t₀, ht₀, hmeets⟩ := h
  exact ⟨t₀, ht₀, hlinks.meets_trans hmeets ht⟩

end Provides

namespace Registers

variable {l l' : E.Linker} {name module n : String} {i : E.Instance} {x : E.Extern}

/-- What has been defined keeps its meaning when an instance is registered. -/
theorem find?_of_register (h : E.Registers) (hreg : E.register l name i = .ok l')
    (hfind : E.find? l module n = some x) : E.find? l' module n = some x := by
  rw [h.keeps hreg, hfind]
  rintro rfl y hy rfl
  -- otherwise the same name would have been defined before
  rw [h.fresh hreg y hy] at hfind
  exact absurd hfind (by simp)

end Registers

end UnitFoundry.Engine
