import Mathlib.Data.List.Basic
import UnitFoundry.Gateway.Basic
import UnitFoundry.Wasm.Engine

/-! # Failures are reported

A compiler that makes no image says why: one of its diagnostics blocks the unit. Both compilers keep
to that. The external one does so whatever the executable writes and however it ends, since a run
that fails without an error of its own gets one.

* **`Gateway.accept_of_blocking`**, **`Gateway.accept_eq_ok_iff`**: what is refused and what is
  accepted.
* **`Compiler.Explains`**: what a gateway relies on.
* **`RustcCompiler.filter_isBlocking_answer_of_failure`**: what blocks the unit after a run that
  fails.
* **`Gateway.compile_reportsFailure`**: what becomes of a source, by how the executable ends and
  what it leaves behind; and what no compiler does. -/

namespace UnitFoundry

/-! ## What blocks a unit -/

/-- The errors in the output of a compiler. -/
def errorsIn (output : String) : List Diagnostic :=
  (parseDiagnostics output).filter (·.severity = .error)

/-- A message is not escalated, so it blocks the unit only as an error. -/
theorem isBlocking_of_mem_parseDiagnostics {output : String} {d : Diagnostic}
    (h : d ∈ parseDiagnostics output) : d.isBlocking = decide (d.severity = .error) := by
  obtain ⟨line, -, hline⟩ := List.mem_filterMap.1 h
  split at hline
  · split at hline
    · obtain rfl := Option.some.inj hline
      exact Bool.or_false _
    · exact absurd hline (by simp)
  · exact absurd hline (by simp)

theorem filter_isBlocking_parseDiagnostics (output : String) :
    (parseDiagnostics output).filter (·.isBlocking) = errorsIn output :=
  List.filter_congr fun _ hd => isBlocking_of_mem_parseDiagnostics hd

namespace Gateway

variable {E : Engine} {load : Loader E} {r : CompileRequest} {o : CompilerOutput E}

/-- Blocking diagnostics are all that is reported. -/
theorem accept_of_blocking (h : o.diagnostics.filter (·.isBlocking) ≠ []) :
    accept load r o =
      .error (.refused r.unitName (o.diagnostics.filter (·.isBlocking)) r.source) := by
  rw [accept]
  cases hds : o.diagnostics.filter (·.isBlocking) with
  | nil => exact absurd hds h
  | cons d ds => rfl

/-- A unit comes of an image that can be loaded, if nothing blocks it. -/
theorem accept_eq_ok_iff {u : LoadedUnit E} : accept load r o = .ok u ↔
    o.diagnostics.filter (·.isBlocking) = [] ∧ ∃ image, o.image = some image ∧
      load r image = .ok u := by
  by_cases hds : o.diagnostics.filter (·.isBlocking) = []
  · rw [accept, hds]
    cases himage : o.image with
    | none => simp
    | some image => cases hload : load r image <;> simp [hload, Outcome.mapError]
  · rw [accept_of_blocking hds]
    simp [hds]

theorem accept_of_image {image : E.Image} (h : o.diagnostics.filter (·.isBlocking) = [])
    (himage : o.image = some image) :
    accept load r o = (load r image).mapError (.notLoaded r.unitName) := by
  rw [accept, h, himage]

/-- What is refused is refused for the blocking diagnostics. -/
theorem eq_of_accept_refused {unit source : String} {ds : List Diagnostic}
    (h : accept load r o = .error (.refused unit ds source)) :
    ds = o.diagnostics.filter (·.isBlocking) ∧ ds ≠ [] := by
  by_cases hds : o.diagnostics.filter (·.isBlocking) = []
  · -- without them the image is missing or cannot be loaded
    rw [accept, hds] at h
    cases himage : o.image with
    | none =>
        rw [himage] at h
        exact absurd h (by simp)
    | some image =>
        rw [himage] at h
        cases hload : load r image <;> simp [hload, Outcome.mapError] at h
  · rw [accept_of_blocking hds, Outcome.error.injEq, CompileError.refused.injEq] at h
    exact ⟨h.2.1.symm, h.2.1 ▸ hds⟩

/-- Nothing is made only where there is neither an image nor anything that blocks the unit. -/
theorem of_accept_nothingMade {unit : String} (h : accept load r o = .error (.nothingMade unit)) :
    o.image = none ∧ o.diagnostics.filter (·.isBlocking) = [] := by
  by_cases hds : o.diagnostics.filter (·.isBlocking) = []
  · refine ⟨?_, hds⟩
    cases himage : o.image with
    | none => rfl
    | some image =>
        rw [accept_of_image hds himage] at h
        cases hload : load r image <;> simp [hload, Outcome.mapError] at h
  · rw [accept_of_blocking hds] at h
    exact absurd h (by simp)

end Gateway

/-! ## Compilers that say why -/

variable {E : Engine}

/-- An answer without an image has a diagnostic that blocks the unit. -/
def Compiler.Explains (c : Compiler E) : Prop :=
  ∀ files r o, (c.compile files r).result = .ok o → o.image = none →
    o.diagnostics.filter (·.isBlocking) ≠ []

theorem WatCompiler.explains : Compiler.Explains (WatCompiler.compiler : Compiler E) := by
  intro files r o ho himage
  obtain rfl := Except.ok.inj ho
  rw [output] at himage ⊢
  cases hparse : E.parse r.source with
  | error reason => exact List.cons_ne_nil _ _
  | ok image =>
      rw [hparse] at himage
      cases hm : E.read image with
      | error reason =>
          simp only [hm]
          exact List.cons_ne_nil _ _
      | ok m => simp [hm] at himage

namespace RustcCompiler

variable {r : CompileRequest} {run : ProgramRun}

/-- **What blocks the unit after a run that fails**: the errors that the executable has written, or
a report on how it ended if there are none. -/
theorem filter_isBlocking_answer_of_failure (h : run.ending.isSuccess = false) :
    ∃ o : CompilerOutput E, answer r run = .ok o ∧ o.image = none ∧
      o.diagnostics.filter (·.isBlocking) =
        if errorsIn run.stderr = [] then [failedExit run] else errorsIn run.stderr := by
  rw [answer, h, if_neg Bool.false_ne_true]
  have hany : (parseDiagnostics run.stderr).any (·.isBlocking) = true ↔
      errorsIn run.stderr ≠ [] := by
    rw [← filter_isBlocking_parseDiagnostics, Ne, List.filter_eq_nil_iff]
    simp
  by_cases herrors : errorsIn run.stderr = []
  · rw [if_neg fun hsome => hany.1 hsome herrors, if_pos herrors]
    refine ⟨_, rfl, rfl, ?_⟩
    rw [List.filter_append, filter_isBlocking_parseDiagnostics, herrors]
    rfl
  · rw [if_pos (hany.2 herrors), if_neg herrors]
    exact ⟨_, rfl, rfl, filter_isBlocking_parseDiagnostics _⟩

theorem explains (c : CompilerConfig) : Compiler.Explains (compiler c : Compiler E) := by
  intro files r o ho himage
  have hanswer : ∃ run, answer r run = .ok o := by
    change (compile c files r).result = .ok o at ho
    rw [compile] at ho
    split at ho
    · exact absurd ho (by simp)
    · exact ⟨_, ho⟩
  obtain ⟨run, hrun⟩ := hanswer
  cases hending : run.ending.isSuccess with
  | true =>
      -- a run that succeeds gives an image or fails to have it read
      rw [answer, hending, if_pos rfl] at hrun
      split at hrun
      · obtain rfl := Except.ok.inj hrun
        exact absurd himage (by simp)
      · exact absurd hrun (by simp)
  | false =>
      obtain ⟨o', ho', -, hblocking⟩ := filter_isBlocking_answer_of_failure (r := r) hending
      obtain rfl := Except.ok.inj (ho'.symm.trans hrun)
      rw [hblocking]
      split
      · exact List.cons_ne_nil _ _
      · assumption

end RustcCompiler

/-- **Both compilers say why they make no image.** -/
theorem Compiler.explains_ofConfig (c : CompilerConfig) :
    (Compiler.ofConfig c : Compiler E).Explains := by
  rw [ofConfig]
  cases c.kind with
  | wat => exact WatCompiler.explains
  | rustc => exact RustcCompiler.explains c

/-! ## Runs of the executable -/

namespace Program

variable {p : Program} {files : Files} {arguments : List String}

/-- A run that is not asked for the version leaves behind what the program is made to do. -/
theorem run_of_ne (h : arguments ≠ versionQuestion) : p.run files arguments =
    { files := p.writeOutput files arguments, stderr := p.stderr, ending := p.ending
      call := some ⟨arguments, sourceOf files arguments⟩ } := by
  rw [run, if_neg h]

/-- A program without an output leaves the files as they are. -/
theorem writeOutput_of_none (h : p.output = none) : p.writeOutput files arguments = files := by
  rw [writeOutput, h]

theorem start_eq_ok {path : String} (hp : files.program? path = .ok p)
    (harguments : ∀ a ∈ arguments, '\x00' ∉ a.toList) :
    files.start path arguments = .ok (p.run files arguments) := by
  have hzero : arguments.any (·.toList.contains '\x00') = false := by
    simpa using harguments
  rw [Files.start, hzero, hp]
  rfl

end Program

namespace RustcCompiler

variable {c : CompilerConfig} {files : Files} {r : CompileRequest} {p : Program}

/-- The arguments of a run ask for more than the version. -/
theorem arguments_ne_versionQuestion (c : CompilerConfig) (r : CompileRequest) :
    arguments c r ≠ Program.versionQuestion := by
  intro h
  have hhead := congrArg List.head? h
  simp [arguments, Program.versionQuestion] at hhead

/-- **What a program that can be started makes of a request.** -/
theorem result_of_program (hp : (prepare files r.source).program? c.rustc = .ok p)
    (harguments : ∀ a ∈ arguments c r, '\x00' ∉ a.toList) :
    ∃ run, (compile (E := E) c files r).result = answer r run ∧ run.stderr = p.stderr ∧
      run.ending = p.ending ∧
      run.files = p.writeOutput (prepare files r.source) (arguments c r) := by
  refine ⟨p.run (prepare files r.source) (arguments c r), ?_, ?_⟩
  · rw [compile, Program.start_eq_ok hp harguments]
  · rw [Program.run_of_ne (arguments_ne_versionQuestion c r)]
    exact ⟨rfl, rfl, rfl⟩

end RustcCompiler

namespace Gateway

/-- The unit that comes of the compiler's answer, or of its failure to answer. -/
def conclude (load : Loader E) (r : CompileRequest) :
    Except CompilerFailure (CompilerOutput E) → Outcome CompileError (LoadedUnit E)
  | .error f => .error (.unanswered f)
  | .ok o => accept load r o

theorem result_deliver (g : Gateway E) (load : Loader E) (files : Files) (r : CompileRequest) :
    (g.deliver load files r).result = conclude load r (g.compiler.compile files r).result := by
  rw [deliver]
  split <;> rename_i h <;> rw [h] <;> rfl

/-- **With a compiler that says why it makes no image**, every refusal has a reason, and there is no
source of which nothing is made. -/
theorem refuses_of_explains {c : Compiler E} {config : GatewayConfig} (hc : c.Explains)
    (load : Loader E) (files : Files) (r : CompileRequest) :
    let result := (({ config, compiler := c } : Gateway E).deliver load files r).result
    (∀ unit, result ≠ .error (.nothingMade unit)) ∧
    ∀ unit ds source, result = .error (.refused unit ds source) →
      ds ≠ [] ∧ ∀ d ∈ ds, d.isBlocking = true := by
  intro result
  have hresult : result = conclude load r (c.compile files r).result :=
    result_deliver _ load files r
  cases ho : (c.compile files r).result with
  | error f =>
      rw [hresult, ho]
      exact ⟨fun unit h => absurd h (by simp [conclude]),
        fun unit ds source h => absurd h (by simp [conclude])⟩
  | ok o =>
      rw [hresult, ho]
      constructor
      · intro unit h
        obtain ⟨himage, hnone⟩ := of_accept_nothingMade h
        exact hc files r o ho himage hnone
      · intro unit ds source h
        obtain ⟨rfl, hne⟩ := eq_of_accept_refused h
        exact ⟨hne, fun d hd => (List.mem_filter.1 hd).2⟩

variable {load : Loader E} {r : CompileRequest} {run : ProgramRun}

/-- **A run that fails is reported**, whatever it leaves behind. -/
theorem conclude_answer_of_failure (h : run.ending.isSuccess = false) :
    conclude load r (RustcCompiler.answer r run) = .error (.refused r.unitName
      (if errorsIn run.stderr = [] then [RustcCompiler.failedExit run] else errorsIn run.stderr)
      r.source) := by
  obtain ⟨o, ho, -, hblocking⟩ :=
    RustcCompiler.filter_isBlocking_answer_of_failure (E := E) (r := r) h
  have hne : o.diagnostics.filter (·.isBlocking) ≠ [] := by
    rw [hblocking]
    split
    · exact List.cons_ne_nil _ _
    · assumption
  rw [ho, conclude, accept_of_blocking hne, hblocking]

/-- **A unit comes of a run** exactly if it ends well, has written no error and left a file that can
be loaded. -/
theorem conclude_answer_eq_ok_iff {u : LoadedUnit E} :
    conclude load r (RustcCompiler.answer r run) = .ok u ↔
      run.ending.isSuccess = true ∧ errorsIn run.stderr = [] ∧
        ∃ bytes, run.files.read (RustcCompiler.outputPath r.unitName) = .ok bytes ∧
          load r (E.ofBytes bytes) = .ok u := by
  cases hending : run.ending.isSuccess with
  | false =>
      rw [conclude_answer_of_failure hending]
      simp
  | true =>
      rw [RustcCompiler.answer, hending, if_pos rfl]
      cases hread : run.files.read (RustcCompiler.outputPath r.unitName) with
      | error f => simp [conclude]
      | ok bytes =>
          simp only [conclude, accept_eq_ok_iff, filter_isBlocking_parseDiagnostics]
          simp

/-- **Every run that fails is reported.** Whatever the executable is that the external compiler
starts, what it writes to standard error, how it ends and whether it leaves a file: if it fails, the
source is refused for the errors it has written, in their order, or for how it ended if there are
none. A unit is loaded exactly if it ends well, has written no error and left a file that can be
loaded. And with either compiler, a source of which no unit comes is refused for reasons that block
the unit, or it fails in another way, but it never happens that nothing is made of it. -/
theorem compile_reportsFailure (E : Engine) (config : GatewayConfig) (c : CompilerConfig)
    (files : Files) (ending : String) (kind : OutputKind) (source : String) (set : ReferenceSet) :
    let unit := config.unitPrefix ++ ending
    let before := RustcCompiler.prepare files source
    (let g : Gateway E := { config, compiler := RustcCompiler.compiler c }
      let arguments := RustcCompiler.arguments c (g.request ending kind source set)
      let result := (g.compile files ending kind source set).result
      ∀ p, before.program? c.rustc = .ok p → (∀ a ∈ arguments, '\x00' ∉ a.toList) →
        let errors := (parseDiagnostics p.stderr).filter (·.severity = .error)
        (p.ending.isSuccess = false → errors ≠ [] →
          result = .error (.refused unit errors source)) ∧
        (p.ending.isSuccess = false → errors = [] →
          result = .error (.refused unit [.error "rustc-exit" ("rustc exited with " ++
            p.ending.describe ++ ": " ++ Text.trimString p.stderr)] source)) ∧
        (∀ u, result = .ok u ↔ p.ending.isSuccess = true ∧ errors = [] ∧
          ∃ bytes, (p.writeOutput before arguments).read (RustcCompiler.outputPath unit) =
              .ok bytes ∧
            LoadedUnit.load files unit (E.ofBytes bytes) set.entries = .ok u) ∧
        (∀ u, result = .ok u →
          (∀ bytes, before.read (RustcCompiler.outputPath unit) ≠ .ok bytes) →
            p.output.isSome)) ∧
    ∀ c' : CompilerConfig,
      let g : Gateway E := { config, compiler := .ofConfig c' }
      let result := (g.compile files ending kind source set).result
      (∀ unit, result ≠ .error (.nothingMade unit)) ∧
      ∀ unit ds text, result = .error (.refused unit ds text) →
        ds ≠ [] ∧ ∀ d ∈ ds, d.isBlocking = true := by
  intro unit before
  refine ⟨?_, fun c' => refuses_of_explains (Compiler.explains_ofConfig c') _ files _⟩
  intro g arguments result p hp harguments errors
  obtain ⟨run, hrun, hstderr, hending, hfiles⟩ :=
    RustcCompiler.result_of_program (r := g.request ending kind source set) hp harguments
  have hresult : result = conclude (loader files) (g.request ending kind source set)
      (RustcCompiler.answer (g.request ending kind source set) run) :=
    (result_deliver g (loader files) files _).trans (congrArg _ hrun)
  have herrors : errorsIn run.stderr = errors := congrArg errorsIn hstderr
  have hok : ∀ u, result = .ok u ↔ p.ending.isSuccess = true ∧ errors = [] ∧
      ∃ bytes, (p.writeOutput before arguments).read (RustcCompiler.outputPath unit) = .ok bytes ∧
        LoadedUnit.load files unit (E.ofBytes bytes) set.entries = .ok u := by
    intro u
    rw [hresult, conclude_answer_eq_ok_iff, hending, herrors, hfiles]
    rfl
  refine ⟨fun hfailed hsome => ?_, fun hfailed hnone => ?_, hok, fun u hu hbefore => ?_⟩
  · rw [hresult, conclude_answer_of_failure (hending ▸ hfailed), herrors, if_neg hsome]
    rfl
  · rw [hresult, conclude_answer_of_failure (hending ▸ hfailed), herrors, if_pos hnone,
      RustcCompiler.failedExit, hending, hstderr]
    rfl
  · obtain ⟨-, -, bytes, hread, -⟩ := (hok u).1 hu
    cases houtput : p.output with
    | some written => rfl
    | none =>
        -- without an output the files are what they were before
        rw [Program.writeOutput_of_none houtput] at hread
        exact absurd hread (hbefore bytes)

/-- An executable that writes a warning and an error, leaves a file and fails. -/
def failingProgram : Program :=
  { output := some .empty
    stderr := "\x7b\"level\": \"warning\", \"message\": \"unused\"\x7d\nnoise\n" ++
      "\x7b\"level\": \"error\", \"message\": \"wrong\", \"code\": \x7b\"code\": \"E1\"\x7d\x7d\n"
    ending := .exit 1 }

/-- The files with the executable. -/
def failingFiles : Files :=
  { nodes := [(["bin"], .directory), (["bin", "failing"], .program failingProgram)] }

/-- The configuration that has it run. -/
def failingConfig : CompilerConfig :=
  { rustc := "/bin/failing" }

/-- The error is the reason, although there is a file. -/
theorem compile_reportsFailure_failing :
    ((⟨{}, RustcCompiler.compiler failingConfig⟩ : Gateway Wasm.engine).compile failingFiles "1"
      .library "fn f() {}" ∅).result =
        .error (.refused "unit_1" [.error "E1" "wrong"] "fn f() {}") := by
  obtain ⟨hrun, -⟩ := compile_reportsFailure Wasm.engine {} failingConfig failingFiles "1" .library
    "fn f() {}" ∅
  have hprogram : (RustcCompiler.prepare failingFiles "fn f() {}").program? "/bin/failing" =
      .ok failingProgram := rfl
  obtain ⟨hfailed, -⟩ := hrun failingProgram hprogram (by decide +kernel)
  have herrors : (parseDiagnostics failingProgram.stderr).filter (·.severity = .error) =
      [.error "E1" "wrong"] := by
    decide +kernel
  rw [herrors] at hfailed
  exact hfailed rfl (List.cons_ne_nil _ _)

end Gateway

end UnitFoundry
