import UnitFoundry.Generator.Basic
import UnitFoundry.Proofs.Compile.Imports
import UnitFoundry.Proofs.Emit.ModuleScript
import UnitFoundry.Proofs.Unit.Members
import UnitFoundry.Proofs.Wasm.Texts

/-! # Units of declared members

The script of a module is made into a unit whose members are those that the script declares: the
text that the script writes is one that engines read, and the module that it describes stands alone,
so it is loaded as it is.

* **`LoadedUnit.Offers`**: what it means that a unit has the members that have been declared.
* **`Generator.generateWith_moduleScript`**: the unit of a script has the members that the script
  declares.
* **`Generator.refused_moduleScript`**: what keeps a script from being made into a unit. -/

namespace UnitFoundry

open Emit (Member moduleScript moduleText)

variable {E : Engine}

/-! ## Declared modules as units -/

/-- Whether a unit offers what members declare. -/
structure LoadedUnit.Offers (u : LoadedUnit E) (members : List Member) : Prop where
  /-- The members that everyone may call are exported, in their order. -/
  exports : u.exports = (members.filter (·.access = .everyone)).map (·.name)
  /-- Such a member takes what its arguments are, in their order, and gives what it returns. -/
  types : ∀ m ∈ members, m.access = .everyone → ∃ t, u.memberType? m.name = some t ∧
    (E.params t).map some = m.arguments.map (·.type.numType?.map E.number) ∧
      (E.results t).map some = m.returns.toList.map (·.numType?.map E.number)
  /-- The other members cannot be called. -/
  hidden : ∀ m ∈ members, m.access ≠ .everyone → u.memberType? m.name = none

namespace Emit

variable {members : List Member} {m : E.Module}

/-- A module exports the members that everyone may call. -/
theorem exportNames_of_declares (h : E.Declares m (members.map (·.funcText))) :
    E.exportNames m = (members.filter (·.access = .everyone)).map (·.name) := by
  obtain ⟨type, -, hexports⟩ := h
  rw [Engine.exportNames, hexports, ← flatMap_exports_funcTexts, List.map_flatMap]
  simp only [List.map_map, Function.comp_def, List.map_id']

/-- A member that everyone may call is exported as a function of its type. -/
theorem exists_mem_exports_of_declares (h : E.Declares m (members.map (·.funcText)))
    {member : Member} (hmember : member ∈ members) (haccess : member.access = .everyone) :
    ∃ t, (member.name, E.func t) ∈ E.exports m ∧
      E.params t = member.funcText.params.map (E.number ·.2) ∧
        E.results t = member.funcText.results.map E.number := by
  obtain ⟨type, htypes, hexports⟩ := h
  have hmem : member.funcText ∈ members.map (·.funcText) := List.mem_map_of_mem hmember
  obtain ⟨hparams, hresults⟩ := htypes _ hmem
  refine ⟨type member.funcText, ?_, hparams, hresults⟩
  have hname : member.name ∈ member.funcText.exports := by
    rw [Member.funcText, if_pos haccess]
    exact List.mem_singleton_self _
  rw [hexports]
  exact List.mem_flatMap.2 ⟨_, hmem, List.mem_map_of_mem hname⟩

/-- **The unit of a declared module offers what the members declare.** -/
theorem offers_of_load {files : Files} {name : String} {image : E.Image} {rs : List Reference}
    {u : LoadedUnit E} (hgives : E.GivesFunctions) (h : LoadedUnit.load files name image rs = .ok u)
    (hdeclares : E.Declares u.module (members.map (·.funcText)))
    (hmembers : ∀ m ∈ members, m.IsDeclarable) (hnodup : (members.map (·.name)).Nodup) :
    u.Offers members := by
  have hexports : u.exports = (members.filter (·.access = .everyone)).map (·.name) :=
    exportNames_of_declares hdeclares
  refine ⟨hexports, fun m hm haccess => ?_, fun m hm haccess => ?_⟩
  · obtain ⟨t, hexport, hparams, hresults⟩ := exists_mem_exports_of_declares hdeclares hm haccess
    refine ⟨t, LoadedUnit.memberType?_of_load hgives h hexport, ?_, ?_⟩
    · rw [hparams, (hmembers m hm).arguments_eq, List.map_map, List.map_map]
      rfl
    · rw [hresults, (hmembers m hm).returns_eq, List.map_map, List.map_map]
      rfl
  · refine LoadedUnit.memberType?_eq_none hgives h fun hname => ?_
    rw [hexports] at hname
    obtain ⟨m', hm', heq⟩ := List.mem_map.1 hname
    obtain ⟨hmem, haccess'⟩ := List.mem_filter.1 hm'
    obtain rfl := List.inj_on_of_nodup_map hnodup hmem hm heq
    exact haccess (of_decide_eq_true haccess')

end Emit

namespace WatCompiler

variable {files : Files} {r : CompileRequest} {image : E.Image} {m : E.Module} {reason : String}

/-- Nothing is to be said about a library that imports nothing and exports something. -/
theorem output_of_imports_eq_nil (hparse : E.parse r.source = .ok image)
    (hm : E.read image = .ok m) (himports : E.imports m = []) (hexports : E.exports m ≠ [])
    (hkind : r.kind = .library) : output files r = { image := some image } := by
  have hnone : checkImports files r.references m = [] := by
    rw [checkImports, himports]
    rfl
  rw [output_of_read hparse hm, hnone, List.nil_append, checkExports, hkind]
  simp only [List.isEmpty_iff, if_neg hexports]

/-- A source that describes an invalid module is refused. -/
theorem output_of_invalid (hparse : E.parse r.source = .ok image)
    (hm : E.read image = .error reason) :
    output (E := E) files r = { diagnostics := [invalid reason] } := by
  rw [output, hparse]
  simp only [hm]

/-- A source that cannot be read is refused. -/
theorem output_of_unread (hparse : E.parse r.source = .error reason) :
    output (E := E) files r = { diagnostics := [badSyntax reason] } := by
  rw [output, hparse]

end WatCompiler

/-! ## Scripts of modules -/

namespace Generator

variable {g : Generator E} {name : String} {members : List Member}

/-- What comes of a script of a module is what comes of the answer to its text. -/
theorem result_of_output (hcompiler : g.gateway.compiler = WatCompiler.compiler) {files : Files}
    {ending : String} {o : CompilerOutput E} (closes : Member → Bool)
    (ho : WatCompiler.output files
      (g.gateway.request ending .library (moduleText name members) g.references) = o) :
    (g.generateWith files ending .wat (moduleScript name members closes)).result =
      (Gateway.accept (Gateway.loader files)
        (g.gateway.request ending .library (moduleText name members) g.references) o).mapError
          .compile := by
  rw [generateWith, Emit.build_moduleScript]
  simp only [generate, Gateway.compile, Gateway.deliver, hcompiler, WatCompiler.compiler, ho]

/-- A script is refused if its text cannot be read. -/
theorem generateWith_of_unread (hcompiler : g.gateway.compiler = WatCompiler.compiler)
    (files : Files) (ending : String) (closes : Member → Bool) {reason : String}
    (hparse : E.parse (moduleText name members) = .error reason) :
    (g.generateWith files ending .wat (moduleScript name members closes)).result =
      .error (.compile (.refused (g.gateway.config.unitPrefix ++ ending)
        [WatCompiler.badSyntax reason] (moduleText name members))) := by
  rw [result_of_output hcompiler closes (WatCompiler.output_of_unread hparse)]
  rfl

/-- A script is refused if its text does not describe a valid module. -/
theorem generateWith_of_invalid (hcompiler : g.gateway.compiler = WatCompiler.compiler)
    (files : Files) (ending : String) (closes : Member → Bool) {image : E.Image} {reason : String}
    (hparse : E.parse (moduleText name members) = .ok image)
    (hm : E.read image = .error reason) :
    (g.generateWith files ending .wat (moduleScript name members closes)).result =
      .error (.compile (.refused (g.gateway.config.unitPrefix ++ ending)
        [WatCompiler.invalid reason] (moduleText name members))) := by
  rw [result_of_output hcompiler closes (WatCompiler.output_of_invalid hparse hm)]
  rfl

/-- **The unit of a script of a module offers what the members declare**, if the module has a name
that can be an identifier, the members can be declared, have distinct names and can be called by
everyone in at least one case, and the text keeps to the limits of the engine. -/
theorem generateWith_moduleScript {limits : Wasm.Text.TextLimits} (hreads : E.ReadsTexts limits)
    (hgives : E.GivesFunctions) (hcompiler : g.gateway.compiler = WatCompiler.compiler)
    (files : Files) (ending : String) (closes : Member → Bool) (hname : Wasm.Text.IsWord name)
    (hmembers : ∀ m ∈ members, m.IsDeclarable) (hnodup : (members.map (·.name)).Nodup)
    (hpublic : ∃ m ∈ members, m.access = .everyone)
    (hlimits : limits.Admit (moduleText name members) (members.map (·.funcText))) :
    ∃ u, (g.generateWith files ending .wat (moduleScript name members closes)).result = .ok u ∧
      u.Offers members := by
  obtain ⟨image, m, hparse, hread, hload, hdeclares, himports, hinst⟩ :=
    hreads hname (Emit.wellNamed_funcTexts hmembers hnodup)
      (Emit.spells_moduleText hname hmembers) hlimits
  obtain ⟨u, hu, rfl⟩ := LoadedUnit.exists_load_eq_ok files
    (g.gateway.config.unitPrefix ++ ending) g.references.entries hload himports hinst
  refine ⟨u, ?_, Emit.offers_of_load hgives hu hdeclares hmembers hnodup⟩
  have hexports : E.exports u.module ≠ [] := by
    obtain ⟨member, hmember, haccess⟩ := hpublic
    obtain ⟨t, hexport, -⟩ := Emit.exists_mem_exports_of_declares hdeclares hmember haccess
    exact List.ne_nil_of_mem hexport
  -- nothing blocks the image, and it is loaded as it has been read
  have houtput : WatCompiler.output files
      (g.gateway.request ending .library (moduleText name members) g.references) =
      { image := some image } :=
    WatCompiler.output_of_imports_eq_nil hparse hread himports hexports rfl
  have haccept : Gateway.accept (Gateway.loader files)
      (g.gateway.request ending .library (moduleText name members) g.references)
      { image := some image } = .ok u := by
    rw [Gateway.accept]
    simp only [List.filter_nil, Gateway.loader, Gateway.request, hu]
    rfl
  exact (result_of_output hcompiler closes houtput).trans (congrArg _ haccept)

/-- A member that everyone may call, and one that only its namespace may call. -/
def sumMembers : List Member :=
  [{ name := "sum", returns := some (.value .i64),
     arguments := [⟨"a", .value .i32⟩, ⟨"b", .value .f64⟩] },
   { name := "carry", access := .own, arguments := [⟨"a", .value .i32⟩] }]

theorem isDeclarable_sumMembers : ∀ m ∈ sumMembers, m.IsDeclarable := by
  rw [sumMembers, List.forall_mem_cons, List.forall_mem_singleton]
  refine ⟨⟨by decide, by decide, by decide, by decide, ?_, ?_⟩,
    ⟨by decide, by decide, by decide, by decide, ?_, ?_⟩⟩
  · simp
  · simp
  · simp
  · simp

/-- The member that everyone may call is a member of the unit, with its types, and the other one is
not. -/
theorem generateWith_moduleScript_sum : ∃ u : LoadedUnit Wasm.engine,
    ((ofConfig {}).generateWith ∅ "0" .wat
      (moduleScript "calc" sumMembers fun m => m.name = "sum")).result = .ok u ∧
    u.exports = ["sum"] ∧
    u.memberType? "sum" = some ⟨[.num .i32, .num .f64], [.num .i64]⟩ ∧
    u.memberType? "carry" = none := by
  have hlimits : (Wasm.Text.limits 1000).Admit (moduleText "calc" sumMembers)
      (sumMembers.map (·.funcText)) :=
    ⟨by decide +kernel, by decide, by decide, by decide, by decide, by decide +kernel, by decide⟩
  have hname : Wasm.Text.IsWord "calc" := by decide
  obtain ⟨u, hu, hoffers⟩ := generateWith_moduleScript (g := ofConfig {})
    (Wasm.engine_readsTexts 1000) Wasm.engine_givesFunctions rfl ∅ "0" (fun m => m.name = "sum")
    hname isDeclarable_sumMembers (by decide) ⟨_, List.mem_cons_self, rfl⟩ hlimits
  obtain ⟨⟨ps, rs⟩, ht, hps, hrs⟩ := hoffers.types _ List.mem_cons_self rfl
  have hinj := List.map_injective_iff.2 fun (_ _ : Wasm.ValType) => Option.some.inj
  obtain rfl : ps = [.num .i32, .num .f64] := hinj hps
  obtain rfl : rs = [.num .i64] := hinj hrs
  exact ⟨u, hu, hoffers.exports, ht,
    hoffers.hidden _ (List.mem_cons_of_mem _ List.mem_cons_self) (by decide)⟩

/-- A member with a number of arguments. -/
def wideMember (n : Nat) : Member :=
  { name := "f"
    arguments := (List.range n).map fun i =>
      ⟨String.ofList (List.replicate (i + 1) 'a'), .value .i32⟩ }

theorem length_arguments_wideMember (n : Nat) : (wideMember n).arguments.length = n := by
  simp [wideMember]

theorem isDeclarable_wideMember (n : Nat) : (wideMember n).IsDeclarable where
  name := (by decide : Wasm.Text.IsWord "f")
  unescaped := (by decide : '\\' ∉ "f".toList)
  names := by
    intro a ha
    obtain ⟨i, -, rfl⟩ := List.mem_map.1 ha
    refine ⟨by simp, fun c hc => ?_⟩
    rw [String.toList_ofList] at hc
    rw [List.eq_of_mem_replicate hc]
    decide
  nodup := by
    rw [wideMember, List.map_map]
    refine List.nodup_range.map fun i j heq => ?_
    have hlength := congrArg (fun s : String => s.toList.length) heq
    simpa using hlength
  arguments := by
    intro a ha
    obtain ⟨i, -, rfl⟩ := List.mem_map.1 ha
    exact ⟨.i32, rfl⟩
  returns := by simp [wideMember]

/-- No unit comes of a module with a blank in its name, since the name is written as it is, nor of
a member with more arguments than a function may have. -/
theorem refused_moduleScript :
    (wideMember 0).IsDeclarable ∧ (wideMember 0).access = .everyone ∧
      ((ofConfig (E := Wasm.engine) {}).generateWith ∅ "0" .wat
          (moduleScript "two words" [wideMember 0] fun _ => true)).result =
        .error (.compile (.refused "unit_0" [WatCompiler.badSyntax Wasm.TextFault.badForm.message]
          (moduleText "two words" [wideMember 0]))) ∧
      (wideMember 1001).IsDeclarable ∧ (wideMember 1001).access = .everyone ∧
      ((ofConfig (E := Wasm.engine) {}).generateWith ∅ "0" .wat
          (moduleScript "wide" [wideMember 1001] fun _ => true)).result =
        .error (.compile (.refused "unit_0" [WatCompiler.invalid Wasm.Invalidity.tooMany.message]
          (moduleText "wide" [wideMember 1001]))) := by
  have hwords : Wasm.engine.parse (moduleText "two words" [wideMember 0]) =
      .error Wasm.TextFault.badForm.message := by
    decide +kernel
  have hdeclarable : ∀ m ∈ [wideMember 1001], m.IsDeclarable := by
    rw [List.forall_mem_singleton]
    exact isDeclarable_wideMember 1001
  have hword : Wasm.Text.IsWord "wide" := by decide
  have hparse := Wasm.engine_parse_of_spells hword (Emit.wellNamed_funcTexts
    hdeclarable (List.nodup_singleton _)) (Emit.spells_moduleText hword hdeclarable)
  have hlength : 1000 < (wideMember 1001).funcText.params.length := by
    have harguments := congrArg List.length (isDeclarable_wideMember 1001).arguments_eq
    rw [length_arguments_wideMember, List.length_map] at harguments
    omega
  refine ⟨isDeclarable_wideMember 0, rfl, ?_, isDeclarable_wideMember 1001, rfl, ?_⟩
  · exact generateWith_of_unread rfl ∅ "0" (fun _ => true) hwords
  · exact generateWith_of_invalid rfl ∅ "0" (fun _ => true) hparse
      (Wasm.engine_read_of_arity (List.mem_singleton_self _) hlength)

end Generator

end UnitFoundry
