import UnitFoundry.Engine.Laws
import UnitFoundry.Proofs.Lists
import UnitFoundry.Proofs.Wasm.Instantiation
import UnitFoundry.Wasm.Engine

/-! # The interpreter keeps the laws of engines

The interpreter is an engine of the kind that linking and calling rely on. Its runs always end, so
of the three outcomes that instantiating may have it only ever shows two.

* **`Wasm.engine_links`**: what can be linked is linked.
* **`Wasm.engine_registers`**: what registering an instance defines.
* **`Wasm.engine_givesFunctions`**: the functions of an instance.
* **`Wasm.engine_loadsAsRead`**, **`Wasm.engine_needsImports`**, **`Wasm.engine_providesExports`**:
  the other laws. -/

namespace UnitFoundry.Wasm

variable {l l' : Linker} {s s' : Store} {m : ValidModule} {i : Instance} {name : String}

/-! ## Reading -/

theorem engine_load_eq_ok_iff {image : Image} :
    engine.load image = .ok m ↔ image.load = .ok m := by
  show image.load.mapError _ = .ok m ↔ _
  cases image.load <;> simp [Except.mapError]

theorem engine_read_eq_ok_iff {image : Image} :
    engine.read image = .ok m ↔ image.read = .ok m := by
  show image.read.mapError _ = .ok m ↔ _
  cases image.read <;> simp [Except.mapError]

/-- An image is one module, however it is opened. -/
theorem engine_loadsAsRead : engine.LoadsAsRead := fun hload hread =>
  Image.eq_of_load_of_read (engine_load_eq_ok_iff.1 hload) (engine_read_eq_ok_iff.1 hread)

/-- The exports of a valid module all have types, so none of their names is lost. -/
theorem engine_exportNames (m : ValidModule) : engine.exportNames m = m.module.exportNames := by
  show (m.module.exports.filterMap fun e =>
    (m.module.externType? e.kind e.index).map fun t => (e.name, t)).map (·.1) = _
  rw [List.map_filterMap, Module.exportNames, ← List.filterMap_eq_map]
  refine List.filterMap_congr fun e he => ?_
  obtain ⟨t, ht⟩ := Option.isSome_iff_exists.1 (Module.isSome_externType?_of_validate m.valid he)
  rw [ht]
  rfl

/-! ## Instantiating -/

theorem engine_instantiate_eq_ok_iff :
    engine.instantiate l s m = .ok (s', i) ↔ l.instantiate s m.module = .ok (s', i) := by
  show Outcome.ofExcept ((l.instantiate s m.module).mapError _) = _ ↔ _
  cases l.instantiate s m.module <;> simp [Except.mapError, Outcome.ofExcept]

theorem engine_instantiate_eq_error {f : LinkFault} (h : l.instantiate s m.module = .error f) :
    engine.instantiate l s m = .error f.told := by
  show Outcome.ofExcept ((l.instantiate s m.module).mapError _) = _
  rw [h]
  rfl

/-- The interpreter always comes to an end. -/
theorem engine_instantiate_ne_endless : engine.instantiate l s m ≠ .endless := by
  show Outcome.ofExcept ((l.instantiate s m.module).mapError _) ≠ _
  cases l.instantiate s m.module <;> exact nofun

/-- What is a trap is told as one. -/
theorem LinkFault.IsTrap.exists_told {f : LinkFault} (h : f.IsTrap) :
    ∃ reason, f.told = .trap reason := by
  cases f with
  | outOfBounds => exact ⟨_, rfl⟩
  | startTrap t => exact ⟨_, rfl⟩
  | unknownImport module name => exact absurd h id
  | mismatch module name => exact absurd h id
  | defined module name => exact absurd h id

/-- Only a trap is told as one. -/
theorem LinkFault.isTrap_of_told {f : LinkFault} {reason : String} (h : f.told = .trap reason) :
    f.IsTrap := by
  cases f with
  | outOfBounds => trivial
  | startTrap t => trivial
  | unknownImport module name => exact nomatch h
  | mismatch module name => exact nomatch h
  | defined module name => exact nomatch h

/-- A module that has nothing to run does not trap. -/
theorem engine_instantiate_ne_trap (helements : m.module.elements = []) (hdata : m.module.data = [])
    (hstart : m.module.start = none) {reason : String} :
    engine.instantiate l s m ≠ .error (.trap reason) := by
  cases hinst : l.instantiate s m.module with
  | ok r =>
      rw [engine_instantiate_eq_ok_iff.2 hinst]
      exact nofun
  | error f =>
      rw [engine_instantiate_eq_error hinst]
      exact fun h => Linker.not_isTrap_of_instantiate helements hdata hstart hinst
        (LinkFault.isTrap_of_told (Outcome.error.inj h))

/-- Nothing is instantiated without its imports. -/
theorem engine_needsImports : engine.NeedsImports := fun h _ himp =>
  Option.isSome_iff_exists.2
    (Linker.exists_find?_of_instantiate (engine_instantiate_eq_ok_iff.1 h) himp)

/-- An instance provides what its module exports. -/
theorem engine_providesExports : engine.ProvidesExports := by
  rintro l s m s' i h ⟨name, t⟩ he
  obtain ⟨e, hmem, rfl, ht⟩ := Module.mem_typedExports_iff.1 he
  exact Linker.exists_export_of_instantiate (engine_instantiate_eq_ok_iff.1 h) hmem ht

/-- An instance is one of the module that has been instantiated. -/
theorem module_of_instantiate (h : engine.instantiate l s m = .ok (s', i)) :
    i.module = m.module := by
  obtain ⟨imported, -, rfl, -⟩ :=
    Linker.exists_place_of_instantiate (engine_instantiate_eq_ok_iff.1 h)
  rfl

/-- What an instance provides has distinct names. -/
theorem nodup_exports_of_instantiate (h : engine.instantiate l s m = .ok (s', i)) :
    (i.exports.map (·.1)).Nodup := by
  refine Linker.nodup_exports ?_
  rw [module_of_instantiate h]
  exact Module.nodup_exportNames_of_validate m.valid

/-! ## Registering -/

theorem engine_register_eq_ok_iff :
    engine.register l name i = .ok l' ↔ l.register name i = .ok l' := by
  show (l.register name i).mapError _ = .ok l' ↔ _
  cases l.register name i <;> simp [Except.mapError]

/-- **Registering an instance defines what the instance provides.** -/
theorem engine_registers : engine.Registers where
  defines h _ hx := Linker.find?_of_register (engine_register_eq_ok_iff.1 h) hx
  keeps h _ _ hother := Linker.find?_of_register_of_other (engine_register_eq_ok_iff.1 h) hother
  fresh h _ hx := Linker.find?_eq_none_of_register (engine_register_eq_ok_iff.1 h) hx

/-- Only modules of the host are predefined. -/
theorem exists_mem_definitions_of_predefines {module : String} (h : engine.Predefines module) :
    ∃ d ∈ Wasi.definitions, d.1.1 = module := by
  obtain ⟨name, hfound⟩ := h
  obtain ⟨x, hx⟩ := Option.isSome_iff_exists.1 hfound
  obtain ⟨d, hd, heq⟩ := List.mem_map.1 (Linker.mem_definitions_of_find? hx)
  obtain ⟨hnames, -⟩ := Prod.mk.inj heq
  exact ⟨d.1, List.fst_mem_of_mem_zipIdx hd, congrArg Prod.fst hnames⟩

theorem not_predefines {module : String} (h : ∀ d ∈ Wasi.definitions, d.1.1 ≠ module) :
    ¬engine.Predefines module := by
  intro hpre
  obtain ⟨d, hd, hmodule⟩ := exists_mem_definitions_of_predefines hpre
  exact h d hd hmodule

/-- **What can be linked is linked.** -/
theorem engine_links : engine.Links where
  instantiates {l s m} h := by
    cases hinst : l.instantiate s m.module with
    | ok r => exact Or.inl ⟨r.1, r.2, engine_instantiate_eq_ok_iff.2 hinst⟩
    | error f =>
        refine Or.inr (Or.inl ?_)
        have htrap : f.IsTrap := by
          by_contra hf
          -- with its imports met, only a trap keeps a module from being instantiated
          obtain ⟨s', i, hok⟩ := Linker.exists_instantiate_eq_ok h fun g hg =>
            Except.error.inj (hinst.symm.trans hg) ▸ hf
          exact absurd (hinst.symm.trans hok) (by simp)
        obtain ⟨reason, hreason⟩ := htrap.exists_told
        exact ⟨reason, (engine_instantiate_eq_error hinst).trans (congrArg _ hreason)⟩
  keeps h _ _ hx := Store.Provides.mono hx
    (Linker.extends_of_instantiate (engine_instantiate_eq_ok_iff.1 h))
  registers {l s m s' i} h l₁ name hnew := by
    have hvalid : i.module.validate = .ok () := by
      rw [module_of_instantiate h]
      exact m.valid
    obtain ⟨l₂, hreg⟩ := Linker.exists_register_eq_ok hvalid hnew
    exact ⟨l₂, engine_register_eq_ok_iff.2 hreg⟩
  meets_trans := ExternType.meets_trans

/-! ## Functions -/

/-- Only a function may stand for the import of one, and only one of the same type. -/
theorem Store.Provides.exists_func {x : Extern} {t : FuncType} (h : s.Provides x (.func t)) :
    ∃ address f, x = ⟨.func, address⟩ ∧ s.funcs[address]? = some f ∧ f.type = t := by
  obtain ⟨t', ht', hmeets⟩ := h
  obtain ⟨kind, address⟩ := x
  cases kind <;> obtain ⟨f, hf, rfl⟩ := Option.map_eq_some_iff.1 ht'
  · exact ⟨address, f, rfl, hf, by simpa [ExternType.meets] using hmeets⟩
  all_goals exact absurd hmeets (by simp [ExternType.meets])

/-- **The functions of an instance** are those that its module exports. -/
theorem engine_givesFunctions : engine.GivesFunctions where
  exported {l s m s' i} h name t ht := by
    obtain ⟨x, hx, hprovides⟩ := engine_providesExports h _ ht
    obtain ⟨address, f, rfl, hf, rfl⟩ := Store.Provides.exists_func hprovides
    have hlookup := lookup_of_nodup (nodup_exports_of_instantiate h) hx
    refine ⟨address, ?_⟩
    show i.typedFunc? s' name = _
    simp [Instance.typedFunc?, Instance.func?, hlookup, hf]
  only {l s m s' i} h name hname := by
    have hlookup : i.exports.lookup name = none := by
      refine List.lookup_eq_none_iff.2 fun p hp => bne_iff_ne.2 fun heq => hname ?_
      obtain ⟨e, he, hex⟩ := List.mem_filterMap.1 hp
      obtain ⟨a, -, rfl⟩ := Option.map_eq_some_iff.1 hex
      rw [engine_exportNames, ← module_of_instantiate h, heq]
      exact List.mem_map_of_mem he
    show i.typedFunc? s' name = none
    simp [Instance.typedFunc?, Instance.func?, hlookup]

end UnitFoundry.Wasm
