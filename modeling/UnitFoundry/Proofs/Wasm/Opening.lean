import UnitFoundry.Wasm.Image

/-! # Opened modules

Whatever is opened has been validated, so its exports have distinct names and point to something.
An image that can be loaded gives the module that is read from it.

* **`Wasm.Module.isSome_externType?_of_validate`**: the exports of a valid module point to
  something.
* **`Wasm.Image.eq_of_load_of_read`**: an image gives one module only. -/

namespace UnitFoundry.Wasm

/-- Two steps that do not fail are a first one and a second one that do not fail. -/
theorem exists_of_bind_eq_ok {ε α β : Type} {x : Except ε α} {f : α → Except ε β} {b : β}
    (h : x >>= f = .ok b) : ∃ a, x = .ok a ∧ f a = .ok b := by
  cases x with
  | error e => exact absurd h (by simp [bind, Except.bind])
  | ok a => exact ⟨a, rfl, h⟩

namespace Module

/-- A module that only imports a global. -/
def importing (module name : String) : Module :=
  { imports := [⟨module, name, .global ⟨false, .num .i32⟩⟩] }

/-- A module that only exports a constant. -/
def exporting (name : String) : Module :=
  { globals := [⟨⟨false, .num .i32⟩, [.i32Const 7]⟩], exports := [⟨name, .global, 0⟩] }

/-- A module that passes on a global that it imports. -/
def passing (module name : String) : Module :=
  { importing module name with exports := [⟨name, .global, 0⟩] }

variable {m : Module}

/-! ## Valid modules -/

theorem validated_of_validate (h : m.validate = .ok ()) : m.validated = .ok ⟨m, h⟩ := by
  rw [validated]
  split
  · rfl
  · rename_i f hf
    rw [h] at hf
    exact absurd hf (by simp)

theorem validated_of_invalid {f : Invalidity} (h : m.validate = .error f) :
    m.validated = .error (.invalid f) := by
  rw [validated]
  split
  · rename_i hv
    rw [h] at hv
    exact absurd hv (by simp)
  · rename_i g hg
    rw [h] at hg
    rw [Except.error.inj hg]

theorem checkExports_of_validate (h : m.validate = .ok ()) : m.checkExports = .ok () := by
  obtain ⟨-, -, h⟩ := exists_of_bind_eq_ok h
  obtain ⟨-, -, h⟩ := exists_of_bind_eq_ok h
  by_cases hmemories : 1 < m.memoryTypes.length
  · rw [if_pos hmemories] at h
    exact absurd h (by simp [throw, throwThe, MonadExceptOf.throw, bind, Except.bind])
  · rw [if_neg hmemories] at h
    obtain ⟨-, -, h⟩ := exists_of_bind_eq_ok h
    obtain ⟨-, -, h⟩ := exists_of_bind_eq_ok h
    by_cases htables : m.tableTypes.any (tableStartLimit < ·.limits.least)
    · rw [if_pos htables] at h
      exact absurd h (by simp [throw, throwThe, MonadExceptOf.throw, bind, Except.bind])
    · rw [if_neg htables] at h
      obtain ⟨-, -, h⟩ := exists_of_bind_eq_ok h
      obtain ⟨⟨⟩, hcheck, -⟩ := exists_of_bind_eq_ok h
      exact hcheck

/-- The exports of a valid module have distinct names. -/
theorem nodup_exportNames_of_validate (h : m.validate = .ok ()) : m.exportNames.Nodup := by
  have hcheck := checkExports_of_validate h
  by_cases hnodup : m.exportNames.Nodup
  · exact hnodup
  · simp [checkExports, hnodup, throw, throwThe, MonadExceptOf.throw, bind, Except.bind] at hcheck

/-- **The exports of a valid module point to something.** -/
theorem isSome_externType?_of_validate (h : m.validate = .ok ()) {e : Export}
    (he : e ∈ m.exports) : (m.externType? e.kind e.index).isSome := by
  have hcheck := checkExports_of_validate h
  rw [checkExports] at hcheck
  by_cases hnodup : m.exportNames.Nodup
  · by_cases hany : m.exports.any fun e => (m.externType? e.kind e.index).isNone
    · rw [if_pos hany] at hcheck
      simp [hnodup, throw, throwThe, MonadExceptOf.throw] at hcheck
    · rw [List.any_eq_true] at hany
      rw [← Option.not_isNone, Bool.not_eq_true', Bool.eq_false_iff]
      exact fun hnone => hany ⟨e, he, hnone⟩
  · simp [hnodup, throw, throwThe, MonadExceptOf.throw, bind, Except.bind] at hcheck

/-- What a module provides, with its type, is an export with a type. -/
theorem mem_typedExports_iff {name : String} {t : ExternType} : (name, t) ∈ m.typedExports ↔
    ∃ e ∈ m.exports, e.name = name ∧ m.externType? e.kind e.index = some t := by
  rw [typedExports, List.mem_filterMap]
  refine exists_congr fun e => and_congr_right fun _ => ?_
  rw [Option.map_eq_some_iff]
  constructor
  · rintro ⟨t', ht', heq⟩
    obtain ⟨rfl, rfl⟩ := Prod.mk.inj heq
    exact ⟨rfl, ht'⟩
  · rintro ⟨rfl, ht⟩
    exact ⟨t, ht, rfl⟩

end Module

/-! ## Images -/

theorem magic_of_decode {bytes : ByteArray} {m : Module} (h : Module.decode bytes = .ok m) :
    magic.isPrefixOf bytes.toList = true := by
  rw [Module.decode] at h
  by_cases hheader : Binary.header.isPrefixOf bytes.toList
  · rw [List.isPrefixOf_iff_prefix] at hheader ⊢
    have hmagic : magic <+: Binary.header := ⟨[0x01, 0x00, 0x00, 0x00], rfl⟩
    exact hmagic.trans hheader
  · simp [hheader, throw, throwThe, MonadExceptOf.throw, bind, Except.bind] at h

/-- **An image gives one module only**: what it is loaded as is what was read from it. -/
theorem Image.eq_of_load_of_read {image : Image} {m m' : ValidModule} (hload : image.load = .ok m')
    (hread : image.read = .ok m) : m' = m := by
  cases image with
  | module m₀ => exact Except.ok.inj (hload.symm.trans hread)
  | binary bytes =>
      obtain ⟨m₀, hdecode, -⟩ := exists_of_bind_eq_ok hload
      have hread' : ValidModule.ofBytes bytes = .ok m := hread
      rw [ValidModule.ofBytes, if_pos (magic_of_decode hdecode)] at hread'
      exact Except.ok.inj (hload.symm.trans hread')

end UnitFoundry.Wasm
