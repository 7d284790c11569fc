import UnitFoundry.Proofs.Compile.Imports
import UnitFoundry.Proofs.Gateway.Failures
import UnitFoundry.Proofs.Linking.Soundness
import UnitFoundry.Proofs.Reference.Coherence

/-! # The compiler and the linker agree

The compiler looks up the references of imports when it checks a source, and the linker looks them
up again when the unit is loaded. Since no two references of a set share a name, both find the same
file, and what the compiler has found there is what the linker defines.

* **`Linking.DefinedFrom`**: a name stands for what the instance of a module exports.
* **`Linking.definedFrom_of_linkFor`**: what has been linked defines the imports of a unit.
* **`Gateway.compile_agrees`**: an import without a reference is an error of the compiler, and any
  other import is defined from the file that the compiler has inspected. -/

namespace UnitFoundry

namespace Linking

variable {E : Engine}

/-- Whether the linker has been given what a module name and a name stand for when a module was
instantiated under that module name. -/
def DefinedFrom (l : Linked E) (d : E.Module) (module name : String) : Prop :=
  ∃ (before after : List (Opened E)) (l₁ : Linked E) (store : E.Store) (inst : E.Instance)
    (x : E.Extern), (before ++ ⟨module, d⟩ :: after).foldlM Linked.link .host = .ok l ∧
      before.foldlM Linked.link .host = .ok l₁ ∧
      E.instantiate l₁.linker l₁.store d = .ok (store, inst) ∧ (name, x) ∈ E.externs inst ∧
      E.find? l.linker module name = some x

variable {files : Files} {references : List Reference} {m d : E.Module} {l : Linked E}

/-- **What has been linked defines the imports of a unit**, from the files that their modules stand
for. -/
theorem definedFrom_of_linkFor (hprovided : E.ProvidesExports) (hregisters : E.Registers)
    (hnodup : (references.map (·.name)).Nodup)
    (h : linkFor files references m = .ok l) {i : Import E.ExternType} (hi : i ∈ E.imports m)
    {path : String} (hat : IsFileAt references i.module path)
    (hopen : E.ofFile files path = .ok d) (hprovides : E.provides d i.name = true) :
    DefinedFrom l d i.module i.name := by
  obtain ⟨order, hfold, hnames, -, hopened, hmem⟩ := exists_order_of_linkFor hnodup h
  have hname : i.module ∈ l.names :=
    (hmem i.module).2 ⟨.direct (List.mem_map_of_mem hi), path, hat⟩
  rw [hnames] at hname
  obtain ⟨o, ho, hon⟩ := List.mem_map.1 hname
  -- the module that has been linked under the name is the one of the file
  have hmodule : o = ⟨i.module, d⟩ := by
    obtain ⟨path', hat', hopen'⟩ := hopened o ho
    rw [hon, ← file?_eq_some_iff hnodup, (file?_eq_some_iff hnodup).2 hat] at hat'
    obtain rfl := Option.some.inj hat'
    obtain rfl := Except.ok.inj (hopen.symm.trans hopen')
    rw [← hon]
  subst hmodule
  obtain ⟨before, after, rfl⟩ := List.append_of_mem ho
  obtain ⟨l₁, l₂, hbefore, hlink, hafter⟩ := exists_link_of_foldlM hfold
  obtain ⟨store, inst, hinst, hreg, -⟩ := link_eq_ok hlink
  obtain ⟨e, he, hen⟩ := List.mem_map.1 (List.contains_iff_mem.1 hprovides)
  obtain ⟨x, hx, -⟩ := hprovided hinst e he
  rw [hen] at hx
  exact ⟨before, after, l₁, store, inst, x, hfold, hbefore, hinst, hx,
    find?_of_foldlM hregisters hafter (hregisters.defines hreg _ hx)⟩

end Linking

namespace WatCompiler

variable {E : Engine} {files : Files} {r : CompileRequest} {image : E.Image} {m : E.Module}

/-- **An unsatisfied import keeps a unit from being loaded**, however it would be loaded. -/
theorem exists_refused_of_unsatisfied (hparse : E.parse r.source = .ok image)
    (hm : E.read image = .ok m) (hun : ∃ i ∈ E.imports m, Unsatisfied files r.references i) :
    ∃ ds, ds ≠ [] ∧ ∀ load, Gateway.accept load r (output (E := E) files r) =
      .error (.refused r.unitName ds r.source) := by
  have hne := (checkImports_ne_nil_iff files r.references m).2 hun
  have hblocking : (output (E := E) files r).diagnostics.filter (·.isBlocking) ≠ [] := by
    rw [output_of_read hparse hm, List.filter_append, filter_isBlocking_checkImports]
    exact List.append_ne_nil_of_left_ne_nil hne _
  exact ⟨_, hblocking, fun load => Gateway.accept_of_blocking hblocking⟩

end WatCompiler

namespace Gateway

/-- **The compiler and the linker agree** on what provides each import of a unit. If an import has
no reference, or its file is no valid unit or does not export what is imported, the source is
refused before anything is loaded. Otherwise, once the references have been linked, each import
from a file is defined from the instance of the file that the compiler has inspected. -/
theorem compile_agrees (E : Engine) (hload : E.LoadsAsRead) (hprovided : E.ProvidesExports)
    (hregisters : E.Registers) (config : GatewayConfig) (files : Files) (ending : String)
    (kind : OutputKind) (source : String) (set : ReferenceSet) (hset : set.Built)
    (image : E.Image) (hparse : E.parse source = .ok image) (m : E.Module)
    (hm : E.read image = .ok m) :
    let g : Gateway E := { config, compiler := WatCompiler.compiler }
    ((∃ i ∈ E.imports m, WatCompiler.Unsatisfied files set.entries i) →
      ∃ ds, ds ≠ [] ∧
        (g.compile files ending kind source set).result =
          .error (.refused (config.unitPrefix ++ ending) ds source) ∧
        ∀ load, (g.deliver load files (g.request ending kind source set)).result =
          .error (.refused (config.unitPrefix ++ ending) ds source)) ∧
    ((∀ i ∈ E.imports m, ¬WatCompiler.Unsatisfied files set.entries i) →
      ∀ m' l, E.load image = .ok m' → Linking.linkFor files set.entries m' = .ok l →
        ∀ i ∈ E.imports m', ∀ r path, set.get? i.module = some r → r.path? = some path →
          ∃ d, E.ofFile files path = .ok d ∧ E.provides d i.name = true ∧
            Linking.DefinedFrom l d i.module i.name) := by
  intro g
  constructor
  · intro hun
    obtain ⟨ds, hne, hrefused⟩ := WatCompiler.exists_refused_of_unsatisfied
      (r := g.request ending kind source set) hparse hm hun
    exact ⟨ds, hne, hrefused _, hrefused⟩
  · intro hall m' l hm' hlink i hi r path hr hpath
    obtain rfl := hload hm' hm
    have hsatisfied := hall i hi
    have hopens : ∃ d, E.ofFile files path = .ok d ∧ E.provides d i.name = true := by
      by_contra hnone
      refine hsatisfied (Or.inr ⟨r, path, hr, hpath, fun d hd => ?_⟩)
      rw [Bool.eq_false_iff]
      exact fun hprovides => hnone ⟨d, hd, hprovides⟩
    obtain ⟨d, hd, hprovides⟩ := hopens
    have hat : Linking.IsFileAt set.entries i.module path :=
      ⟨r, ReferenceSet.mem_of_get?_eq_some hr, ReferenceSet.name_of_get?_eq_some hr, hpath⟩
    exact ⟨d, hd, hprovides, Linking.definedFrom_of_linkFor hprovided hregisters
      hset.coherent.nodup_names hlink hi hat hd hprovides⟩

/-- A file that exports a constant. -/
def constantFiles : Files :=
  { nodes := [(["base.wasm"], .file Linking.constantModule.module.encode)] }

/-- The set with the reference to the file. -/
def constantSet : ReferenceSet :=
  ((∅ : ReferenceSet).insert (.ofFile constantFiles "base" "/base.wasm")).1

theorem entries_constantSet :
    constantSet.entries = [⟨"base", "/base.wasm", .file "/base.wasm"⟩] := by
  have hof : Reference.ofFile constantFiles "base" "/base.wasm" =
      ⟨"base", "/base.wasm", .file "/base.wasm"⟩ := by
    decide +kernel
  have hnew : (∅ : ReferenceSet).containsIdentity "/base.wasm" = false :=
    Std.HashSet.contains_empty
  rw [constantSet, hof, ReferenceSet.insert_added hnew rfl]
  rfl

/-- A module that imports the constant. -/
def constantUser : Wasm.ValidModule :=
  ⟨.importing "base" "f", by decide +kernel⟩

/-- The text of the module. -/
def constantSource : String :=
  "(module (import \"base\" \"f\" (global i32)))"

theorem ofFile_constant :
    Wasm.engine.ofFile constantFiles "/base.wasm" = .ok Linking.constantModule := by
  decide +kernel

theorem exists_linkFor_constant : ∃ l, Linking.linkFor constantFiles constantSet.entries
    (E := Wasm.engine) constantUser = .ok l := by
  have hfile : Linking.file? constantSet.entries "base" = some "/base.wasm" := by
    rw [entries_constantSet]
    decide
  have hlink : ((Linking.Linked.host (E := Wasm.engine)).link
      ⟨"base", Linking.constantModule⟩).toOption.isSome = true := by
    decide +kernel
  obtain ⟨l, hl⟩ := Option.isSome_iff_exists.1 hlink
  exact ⟨l, Linking.linkFor_eq_ok_iff.2 ⟨[⟨"base", Linking.constantModule⟩],
    .single (.opens hfile rfl ofFile_constant),
    .single (.link (Outcome.toOption_eq_some_iff.1 hl))⟩⟩

/-- A source that imports the constant of the file is accepted, and what it imports is the constant
of the instance of the file. -/
theorem compile_agrees_constant : constantSet.Built ∧ ∃ image l,
    Wasm.engine.parse constantSource = .ok image ∧ Wasm.engine.read image = .ok constantUser ∧
      (∀ i ∈ Wasm.engine.imports constantUser,
        ¬WatCompiler.Unsatisfied (E := Wasm.engine) constantFiles constantSet.entries i) ∧
      Linking.linkFor constantFiles constantSet.entries (E := Wasm.engine) constantUser = .ok l ∧
      Linking.DefinedFrom (E := Wasm.engine) l Linking.constantModule "base" "f" := by
  have hbuilt : constantSet.Built := .insert _ .empty
  have hparse : Wasm.engine.parse constantSource = .ok (.module constantUser.module) := by
    decide +kernel
  have hread : Wasm.engine.read (.module constantUser.module) = .ok constantUser := by
    decide +kernel
  have hloaded : Wasm.engine.load (.module constantUser.module) = .ok constantUser := by
    decide +kernel
  have hbase : constantSet.get? "base" = some ⟨"base", "/base.wasm", .file "/base.wasm"⟩ := by
    rw [ReferenceSet.get?, entries_constantSet]
    rfl
  have hsatisfied : ∀ i ∈ Wasm.engine.imports constantUser,
      ¬WatCompiler.Unsatisfied (E := Wasm.engine) constantFiles constantSet.entries i := by
    intro i hi
    rw [List.mem_singleton.1 hi]
    rintro (hnone | ⟨r, path, hr, hpath, hprovides⟩)
    · exact absurd (hbase.symm.trans hnone) (by simp)
    · obtain rfl := Option.some.inj (hbase.symm.trans hr)
      obtain rfl := Option.some.inj hpath
      exact absurd (hprovides _ ofFile_constant) (by decide)
  obtain ⟨l, hlink⟩ := exists_linkFor_constant
  obtain ⟨-, hdefined⟩ := compile_agrees Wasm.engine Wasm.engine_loadsAsRead
    Wasm.engine_providesExports Wasm.engine_registers {} constantFiles "0" .library constantSource
    constantSet hbuilt _ hparse _ hread
  obtain ⟨d, hd, -, hfrom⟩ :=
    hdefined hsatisfied _ l hloaded hlink _ List.mem_cons_self _ _ hbase rfl
  obtain rfl := Except.ok.inj (ofFile_constant.symm.trans hd)
  exact ⟨hbuilt, _, l, hparse, hread, hsatisfied, hlink, hfrom⟩

end Gateway

end UnitFoundry
