import Mathlib.Data.List.Basic
import UnitFoundry.Proofs.Compile.Imports
import UnitFoundry.Proofs.Wasm.Engine

/-! # What the compiler reports

On a source that describes a valid module, the compiler reports the imports that no reference
provides, each as if it had opened the files for this import alone, and then what is wrong with the
exports. The unit is blocked exactly if one of the reports is grave.

* **`WatCompiler.any_isBlocking_checkExports`**: when the exports block the unit.
* **`WatCompiler.compile_reports`**: all that the compiler reports on a valid module. -/

namespace UnitFoundry.WatCompiler

variable {E : Engine} {files : Files} {r : CompileRequest} {m : E.Module}

/-- Something is reported on the imports that blocks the unit if some import is unsatisfied. -/
theorem any_isBlocking_checkImports (files : Files) (references : List Reference)
    (m : E.Module) : (checkImports files references m).any (·.isBlocking) = true ↔
      ∃ i ∈ E.imports m, Unsatisfied files references i := by
  rw [← checkImports_ne_nil_iff]
  have hall := filter_isBlocking_checkImports files references m
  rw [List.filter_eq_self] at hall
  cases hreported : checkImports files references m with
  | nil => simp
  | cons d ds =>
      have hd : d.isBlocking = true := hall d (hreported ▸ List.mem_cons_self)
      simp [hd]

/-- Of a command, the exports block the unit if the entry point is missing; of a library, if there
are none and warnings count as errors. -/
theorem any_isBlocking_checkExports (r : CompileRequest) (m : E.Module) :
    (checkExports r m).any (·.isBlocking) = true ↔
      (r.kind = .command ∧ E.provides m OutputKind.entryPoint = false) ∨
      (r.kind = .library ∧ E.exports m = [] ∧ r.warningsAsErrors = true) := by
  rw [checkExports]
  cases r.kind with
  | command =>
      cases E.provides m OutputKind.entryPoint <;> simp [missingEntryPoint]
  | library =>
      cases E.exports m <;> simp [noExports]

/-- **What the compiler reports** on a source that describes a valid module: what the plain
definition says about its imports, followed by one report on the exports at most. A command without
an entry point is reported, and so is a library without exports, as grave as warnings count. The
answer blocks the unit exactly if some import is unsatisfied, the entry point is missing, or the
warning about missing exports counts as an error. -/
theorem compile_reports (E : Engine) (files : Files) (r : CompileRequest) (image : E.Image)
    (m : E.Module) (hparse : E.parse r.source = .ok image) (hm : E.read image = .ok m) :
    ∃ o onExports, (compiler.compile files r).result = .ok o ∧ o.image = some image ∧
      o.diagnostics = importDiagnostics files r.references [] (E.imports m) ++ onExports ∧
      (r.kind = .command → onExports =
        if E.provides m OutputKind.entryPoint then [] else [missingEntryPoint]) ∧
      (r.kind = .library → onExports =
        if E.exports m = [] then [(noExports r.unitName).escalated r.warningsAsErrors] else []) ∧
      (o.diagnostics.any (·.isBlocking) = true ↔
        (∃ i ∈ E.imports m, Unsatisfied files r.references i) ∨
        (r.kind = .command ∧ E.provides m OutputKind.entryPoint = false) ∨
        (r.kind = .library ∧ E.exports m = [] ∧ r.warningsAsErrors = true)) := by
  have hanswer : output files r =
      { image := some image
        diagnostics := checkImports files r.references m ++ checkExports r m } :=
    output_of_read hparse hm
  refine ⟨output files r, checkExports r m, rfl, by rw [hanswer], ?_, ?_, ?_, ?_⟩
  · rw [hanswer, checkImports_eq]
  · intro hkind
    rw [checkExports, hkind]
  · intro hkind
    rw [checkExports, hkind]
    simp only [List.isEmpty_iff]
  · rw [hanswer, List.any_append, Bool.or_eq_true, any_isBlocking_checkImports,
      any_isBlocking_checkExports]

/-- A library that imports twice from a module that is missing, and once from a file that is not
there. -/
def strandedRequest : CompileRequest :=
  { unitName := "stranded"
    source := "(module (import \"gone\" \"f\" (global i32)) " ++
      "(import \"base\" \"f\" (global i32)) (import \"gone\" \"g\" (global i32)))"
    references := [⟨"base", "/base.wasm", .file "/base.wasm"⟩]
    kind := .library
    warningsAsErrors := true }

/-- The module that the source of the library describes. -/
def strandedModule : Wasm.ValidModule :=
  ⟨{ imports := [⟨"gone", "f", .global ⟨false, .num .i32⟩⟩,
      ⟨"base", "f", .global ⟨false, .num .i32⟩⟩, ⟨"gone", "g", .global ⟨false, .num .i32⟩⟩] },
    by decide +kernel⟩

/-- The missing module is reported once, where it is first imported from; then the file; then the
exports, which are missing altogether. -/
theorem compile_reports_stranded : ∃ image o,
    Wasm.engine.parse strandedRequest.source = .ok image ∧
      Wasm.engine.read image = .ok strandedModule ∧
      ((compiler (E := Wasm.engine)).compile ∅ strandedRequest).result = .ok o ∧
      o.diagnostics.map (·.code) = ["unresolved-module", "unreadable-reference", "no-exports"] ∧
      o.diagnostics.any (·.isBlocking) = true := by
  have hparse : Wasm.engine.parse strandedRequest.source = .ok (.module strandedModule.module) := by
    decide +kernel
  have hread : Wasm.engine.read (.module strandedModule.module) = .ok strandedModule := by
    decide +kernel
  obtain ⟨o, onExports, ho, -, hdiagnostics, -, hexports, hblocks⟩ :=
    compile_reports Wasm.engine ∅ strandedRequest _ _ hparse hread
  have himports : (importDiagnostics (E := Wasm.engine) ∅ strandedRequest.references []
      strandedModule.module.imports).map (·.code) =
        ["unresolved-module", "unreadable-reference"] := by
    decide +kernel
  refine ⟨_, o, hparse, hread, ho, ?_, hblocks.2 (Or.inr (Or.inr ⟨rfl, rfl, rfl⟩))⟩
  rw [hdiagnostics, hexports rfl, List.map_append, himports]
  rfl

end UnitFoundry.WatCompiler
