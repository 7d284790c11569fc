import UnitFoundry.Proofs.Gateway.Agreement
import UnitFoundry.Proofs.Linking.Relevance

/-! # What compiling depends on

What comes of a source only depends on the references that are needed: two sets that have the same
origin for each module name to which the imports of the source lead give the same diagnostics, the
same error or the same unit. The name of the unit, which is new each time, is all that can differ.
So nothing changes when entries are permuted, or when others are added that are not needed.

* **`Delivery.SameFor`**: what comes of two sources is the same, up to the names of the units.
* **`WatCompiler.checkImports_congr`**: the check of imports depends on the origins of their
  modules.
* **`LoadedUnit.load_congr`**, **`LoadedUnit.load_rename`**: loading depends on what is needed,
  and not on the name of the unit.
* **`Gateway.compile_congr`**: the outcome depends on what is needed. -/

namespace UnitFoundry

/-! ## Outcomes up to the name of the unit -/

/-- Whether diagnostics on units of two names are the same, up to these names. -/
inductive Diagnostic.SameFor (u v : String) : Diagnostic → Diagnostic → Prop where
  /-- The diagnostic does not mention the unit. -/
  | refl (d : Diagnostic) : SameFor u v d d
  /-- Neither unit exports anything. -/
  | noExports (escalate : Bool) : SameFor u v ((WatCompiler.noExports u).escalated escalate)
    ((WatCompiler.noExports v).escalated escalate)

/-- Whether errors on units of two names are the same, up to these names. -/
inductive CompileError.SameFor (u v : String) : CompileError → CompileError → Prop where
  /-- Both sources are refused alike. -/
  | refused {ds ds' : List Diagnostic} (source : String) :
    List.Forall₂ (Diagnostic.SameFor u v) ds ds' →
      SameFor u v (.refused u ds source) (.refused v ds' source)
  /-- The compiler fails alike. -/
  | unanswered (f : CompilerFailure) : SameFor u v (.unanswered f) (.unanswered f)
  /-- Nothing is made of either source. -/
  | nothingMade : SameFor u v (.nothingMade u) (.nothingMade v)
  /-- Neither unit can be loaded, for the same reason. -/
  | notLoaded (f : LoadFault) : SameFor u v (.notLoaded u f) (.notLoaded v f)

/-- A call of a member, perhaps one that needs it to have a type. -/
structure MemberCall (E : Engine) where
  /-- The name of the member. -/
  member : String
  /-- The arguments. -/
  arguments : List E.Value
  /-- The type that is expected, if any. -/
  expected : Option E.FuncType := none

variable {E : Engine}

namespace LoadedUnit

/-- What comes of a call of a member, and the unit after it. -/
def answer (u : LoadedUnit E) (c : MemberCall E) :
    Outcome MemberFault (List E.Value) × LoadedUnit E :=
  match c.expected with
  | none => u.invoke c.member c.arguments
  | some t => u.callAs t c.member c.arguments

/-- What comes of calls of members, one after another. -/
def answers (u : LoadedUnit E) :
    List (MemberCall E) → List (Outcome MemberFault (List E.Value))
  | [] => []
  | c :: cs => (u.answer c).1 :: (u.answer c).2.answers cs

/-- Whether units of two names export the same, have been linked with the same references and
behave alike. -/
structure SameFor (u v : String) (a b : LoadedUnit E) : Prop where
  /-- The name of the first unit. -/
  name : a.name = u
  /-- The name of the second unit. -/
  name' : b.name = v
  /-- Both export the same names. -/
  exports : a.exports = b.exports
  /-- Both members of a name have the same type. -/
  types : ∀ member, a.memberType? member = b.memberType? member
  /-- The same references were linked. -/
  linked : a.linked = b.linked
  /-- Calls of members have the same results, in whatever order they are made. -/
  answers : ∀ cs, a.answers cs = b.answers cs

end LoadedUnit

/-- Whether results on units of two names are the same, up to these names. -/
inductive SameResult (u v : String) :
    Outcome CompileError (LoadedUnit E) → Outcome CompileError (LoadedUnit E) → Prop where
  /-- Both fail alike. -/
  | error {e e' : CompileError} : e.SameFor u v e' → SameResult u v (.error e) (.error e')
  /-- Both units behave alike. -/
  | ok {a b : LoadedUnit E} : a.SameFor u v b → SameResult u v (.ok a) (.ok b)
  /-- Loading goes on forever for both. -/
  | endless : SameResult u v .endless .endless

/-- Whether what comes of two sources is the same, up to the names of the units. -/
structure Delivery.SameFor (u v : String) (d d' : Delivery E) : Prop where
  /-- Both fail alike, or both units behave alike. -/
  result : SameResult u v d.result d'.result
  /-- The warnings are the same. -/
  warnings : List.Forall₂ (fun w w' => w.unit = u ∧ w'.unit = v ∧
    w.diagnostic.SameFor u v w'.diagnostic) d.warnings d'.warnings
  /-- The same programs have been run. -/
  calls : d.calls = d'.calls

namespace Diagnostic.SameFor

variable {u v : String} {d d' : Diagnostic}

theorem isBlocking_eq (h : d.SameFor u v d') : d.isBlocking = d'.isBlocking := by
  cases h with
  | refl => rfl
  | noExports escalate => rfl

theorem severity_eq (h : d.SameFor u v d') : d.severity = d'.severity := by
  cases h with
  | refl => rfl
  | noExports escalate => rfl

end Diagnostic.SameFor

/-! ## The compiler -/

namespace WatCompiler

variable {files : Files} {rs rs' : List Reference} {r r' : CompileRequest} 
  {i : Import E.ExternType} {m : E.Module}

/-- The diagnostic on an import depends on the origin of its module. -/
theorem importDiagnostic?_congr (h : Linking.origin? rs i.module = Linking.origin? rs' i.module) :
    importDiagnostic? files rs i = importDiagnostic? files rs' i := by
  rw [Linking.origin?, Linking.origin?] at h
  rw [importDiagnostic?, importDiagnostic?]
  cases hr : rs.find? (·.name = i.module) with
  | none =>
      rw [hr, Option.map_none, eq_comm, Option.map_eq_none_iff] at h
      rw [h]
  | some a =>
      rw [hr, Option.map_some, eq_comm, Option.map_eq_some_iff] at h
      obtain ⟨b, hr', horigin⟩ := h
      -- the diagnostic mentions the name and the path of the reference, nothing else
      have hname : a.name = b.name :=
        (Reference.name_of_find?_eq_some hr).trans (Reference.name_of_find?_eq_some hr').symm
      have hpath : a.path? = b.path? := by rw [Reference.path?, Reference.path?, horigin]
      simp only [hr', hpath, unresolvedSymbol, unreadableReference, hname]

theorem isRepeated_congr (h : Linking.origin? rs i.module = Linking.origin? rs' i.module)
    (earlier : List (Import E.ExternType)) :
    isRepeated rs earlier i = isRepeated rs' earlier i := by
  have hnone := congrArg Option.isNone h
  rw [Linking.origin?, Linking.origin?, Option.isNone_map, Option.isNone_map] at hnone
  rw [isRepeated, isRepeated, hnone]

theorem importDiagnostics_congr {is : List (Import E.ExternType)}
    (h : ∀ i ∈ is, Linking.origin? rs i.module = Linking.origin? rs' i.module)
    (earlier : List (Import E.ExternType)) :
    importDiagnostics files rs earlier is = importDiagnostics files rs' earlier is := by
  induction is generalizing earlier with
  | nil => rfl
  | cons i is ih =>
      have hi := h i List.mem_cons_self
      rw [importDiagnostics, importDiagnostics, isRepeated_congr hi, importDiagnostic?_congr hi,
        ih fun j hj => h j (List.mem_cons_of_mem _ hj)]

/-- **The check of imports depends on the origins of their modules.** -/
theorem checkImports_congr
    (h : ∀ i ∈ E.imports m, Linking.origin? rs i.module = Linking.origin? rs' i.module) :
    checkImports files rs m = checkImports files rs' m := by
  rw [checkImports_eq, checkImports_eq, importDiagnostics_congr h]

/-- The check of exports only mentions the name of the unit. -/
theorem sameFor_checkExports (r : CompileRequest) (v : String) (m : E.Module) :
    List.Forall₂ (Diagnostic.SameFor r.unitName v) (checkExports r m)
      (checkExports { r with unitName := v } m) := by
  rw [checkExports, checkExports]
  cases r.kind with
  | library =>
      by_cases hempty : (E.exports m).isEmpty
      · simp only [hempty, if_true]
        exact .cons (.noExports _) .nil
      · simp only [hempty]
        exact .nil
  | command => exact List.forall₂_same.2 fun d _ => .refl d

/-- **The answer of the compiler depends on the origins of the modules that are imported from.** -/
theorem output_congr (r : CompileRequest)
    (h : ∀ image m, E.parse r.source = .ok image → E.read image = .ok m →
      ∀ i ∈ E.imports m, Linking.origin? r.references i.module = Linking.origin? rs i.module) :
    output (E := E) files r = output files { r with references := rs } := by
  rw [output, output]
  cases hparse : E.parse r.source with
  | error reason => rfl
  | ok image =>
      cases hm : E.read image with
      | error reason => simp only [hm]
      | ok m =>
          simp only [hm, checkImports_congr (h image m hparse hm)]
          rfl

/-- **The answer of the compiler only mentions the name of the unit.** -/
theorem sameFor_output (files : Files) (r : CompileRequest) (v : String) :
    (output (E := E) files r).image = (output files { r with unitName := v }).image ∧
      List.Forall₂ (Diagnostic.SameFor r.unitName v) (output (E := E) files r).diagnostics
        (output (E := E) files { r with unitName := v }).diagnostics := by
  have hrefl : ∀ ds, List.Forall₂ (Diagnostic.SameFor r.unitName v) ds ds :=
    fun ds => List.forall₂_same.2 fun d _ => .refl d
  rw [output, output]
  cases E.parse r.source with
  | error reason => exact ⟨rfl, hrefl _⟩
  | ok image =>
      cases hm : E.read image with
      | error reason =>
          simp only [hm]
          exact ⟨trivial, hrefl _⟩
      | ok m =>
          simp only [hm]
          exact ⟨trivial, List.rel_append (hrefl _) (sameFor_checkExports r v m)⟩

/-- An image only comes of a source that has been read as a valid module. -/
theorem exists_read_of_output {image : E.Image} (h : (output files r).image = some image) :
    E.parse r.source = .ok image ∧ ∃ m, E.read image = .ok m := by
  rw [output] at h
  cases hparse : E.parse r.source with
  | error reason =>
      rw [hparse] at h
      exact absurd h (by simp)
  | ok image' =>
      cases hm : E.read image' with
      | error reason => simp [hparse, hm] at h
      | ok m =>
          simp only [hparse, hm, Option.some.injEq] at h
          exact ⟨congrArg _ h, m, h ▸ hm⟩

end WatCompiler

/-! ## Loading -/

namespace LoadedUnit

variable {files : Files} {rs rs' : List Reference} {u v : String} {image : E.Image}
  {a : LoadedUnit E}

/-- **Loading depends on what is needed.** -/
theorem load_congr (hrs : (rs.map (·.name)).Nodup) (hrs' : (rs'.map (·.name)).Nodup)
    (h : ∀ m, E.load image = .ok m → Linking.AgreeFor files m rs rs') :
    load files u image rs = load files u image rs' := by
  rw [load, load]
  cases hm : E.load image with
  | error reason => rfl
  | ok m => simp only [Linking.linkFor_congr hrs hrs' (h m hm)]

/-- **Loading does not depend on the name of the unit**, which is only given to it. -/
theorem load_rename (files : Files) (u v : String) (image : E.Image) (rs : List Reference) :
    load files v image rs = (fun a => { a with name := v }) <$> load files u image rs := by
  rw [load, load]
  cases E.load image with
  | error reason => rfl
  | ok m =>
      cases hl : Linking.linkFor files rs m with
      | error f => simp only [hl]; rfl
      | endless => simp only [hl]; rfl
      | ok l =>
          cases hi : E.instantiate l.linker l.store m with
          | error f => simp only [hl, hi]; rfl
          | endless => simp only [hl, hi]; rfl
          | ok p => simp only [hl, hi]; rfl

theorem name_of_load (h : load files u image rs = .ok a) : a.name = u := by
  rw [load_rename files u u] at h
  cases hload : load files u image rs with
  | error f =>
      rw [hload] at h
      exact absurd h nofun
  | endless =>
      rw [hload] at h
      exact absurd h nofun
  | ok b =>
      rw [hload] at h
      exact (congrArg name (Outcome.ok.inj h)).symm

theorem call_rename (a : LoadedUnit E) (v : String) (f : E.Func) (args : List E.Value) :
    { a with name := v }.call f args =
      ((a.call f args).1, { (a.call f args).2 with name := v }) :=
  rfl

theorem invoke_rename (a : LoadedUnit E) (v member : String) (args : List E.Value) :
    { a with name := v }.invoke member args =
      ((a.invoke member args).1, { (a.invoke member args).2 with name := v }) := by
  have hmember : { a with name := v }.member? member = a.member? member := rfl
  rw [invoke, invoke, hmember]
  cases a.member? member with
  | none => rfl
  | some p => exact call_rename a v p.1 args

/-- A call of a member does not depend on the name of the unit. -/
theorem answer_rename (a : LoadedUnit E) (v : String) (c : MemberCall E) :
    { a with name := v }.answer c = ((a.answer c).1, { (a.answer c).2 with name := v }) := by
  rw [answer, answer]
  cases c.expected with
  | none => exact invoke_rename a v c.member c.arguments
  | some t =>
      have hmember : { a with name := v }.member? c.member = a.member? c.member := rfl
      simp only [callAs, hmember]
      cases a.member? c.member with
      | none => rfl
      | some p =>
          cases hmismatch : E.mismatch? p.2 t with
          | none =>
              simp only [hmismatch]
              exact call_rename a v p.1 c.arguments
          | some reason => simp only [hmismatch]

theorem answers_rename (a : LoadedUnit E) (v : String) (cs : List (MemberCall E)) :
    { a with name := v }.answers cs = a.answers cs := by
  induction cs generalizing a with
  | nil => rfl
  | cons c cs ih => rw [answers, answers, answer_rename, ih]

/-- **A unit under another name** behaves as before. -/
theorem sameFor_rename (a : LoadedUnit E) (v : String) :
    a.SameFor a.name v { a with name := v } where
  name := rfl
  name' := rfl
  exports := rfl
  types _ := rfl
  linked := rfl
  answers cs := (answers_rename a v cs).symm

end LoadedUnit

/-! ## The gateway -/

namespace Gateway

variable {files : Files} {load : Loader E} {r : CompileRequest} {o o' : CompilerOutput E}

/-- What is made of an answer depends on how its image is loaded. -/
theorem accept_congr {rs : List Reference} (hload : ∀ image, o.image = some image →
      load r image = load { r with references := rs } image) :
    accept load r o = accept load { r with references := rs } o := by
  rw [accept, accept]
  cases o.diagnostics.filter (·.isBlocking) with
  | cons d ds => rfl
  | nil =>
      cases hi : o.image with
      | none => rfl
      | some image => simp only [hload image hi]

/-- What is made of an answer only mentions the name of the unit. -/
theorem sameFor_accept {v : String} (himage : o.image = o'.image)
    (hds : List.Forall₂ (Diagnostic.SameFor r.unitName v) o.diagnostics o'.diagnostics)
    (hload : ∀ image, load { r with unitName := v } image =
      (fun a => { a with name := v }) <$> load r image)
    (hname : ∀ image a, load r image = .ok a → a.name = r.unitName) :
    SameResult r.unitName v (accept load r o) (accept load { r with unitName := v } o') := by
  have hblocking : List.Forall₂ (Diagnostic.SameFor r.unitName v)
      (o.diagnostics.filter (·.isBlocking)) (o'.diagnostics.filter (·.isBlocking)) :=
    List.rel_filter (fun d d' h => by simp only [h.isBlocking_eq]) hds
  rw [accept, accept, ← himage]
  -- either a diagnostic blocks in both answers, or none does
  revert hblocking
  generalize o.diagnostics.filter (·.isBlocking) = ds
  generalize o'.diagnostics.filter (·.isBlocking) = ds'
  rintro (_ | ⟨hd, hds⟩)
  · cases o.image with
    | none => exact .error .nothingMade
    | some image =>
        simp only [hload image]
        cases ha : load r image with
        | error f => exact .error (.notLoaded f)
        | endless => exact .endless
        | ok a => exact .ok (hname image a ha ▸ a.sameFor_rename v)
  · exact .error (.refused r.source (.cons hd hds))

/-- The warnings that are passed on only mention the name of the unit. -/
theorem sameFor_warningsOf {v : String}
    (hds : List.Forall₂ (Diagnostic.SameFor r.unitName v) o.diagnostics o'.diagnostics) :
    List.Forall₂ (fun w w' => w.unit = r.unitName ∧ w'.unit = v ∧
      w.diagnostic.SameFor r.unitName v w'.diagnostic) (warningsOf r o)
        (warningsOf { r with unitName := v } o') := by
  rw [warningsOf, warningsOf]
  refine List.rel_map (fun d d' h => ⟨rfl, rfl, h⟩) (List.rel_filter (fun d d' h => ?_) hds)
  simp only [h.isBlocking_eq, h.severity_eq]

/-- Whether two sets of references have the same origins where the imports of a source lead. -/
def AgreeOn (E : Engine) (files : Files) (source : String) (s t : ReferenceSet) : Prop :=
  ∀ image m, E.parse source = .ok image → E.read image = .ok m →
    Linking.AgreeFor files m s.entries t.entries

/-- Whether two sets of references give the same outcome for a source: the very same for one unit,
and the same up to their names for two units. -/
structure SameOutcome (g : Gateway E) (files : Files) (kind : OutputKind) (source : String)
    (s t : ReferenceSet) : Prop where
  /-- Under one name, nothing differs. -/
  same : ∀ ending, g.compile files ending kind source s = g.compile files ending kind source t
  /-- Under two names, nothing else differs. -/
  sameFor : ∀ ending ending', Delivery.SameFor (g.config.unitPrefix ++ ending)
    (g.config.unitPrefix ++ ending') (g.compile files ending kind source s)
      (g.compile files ending' kind source t)

variable {s t : ReferenceSet} {kind : OutputKind} {source : String}

/-- **For one unit, sets that agree give the same outcome.** -/
theorem compile_eq_of_agreeOn (hload : E.LoadsAsRead) (config : GatewayConfig) (hs : s.Built)
    (ht : t.Built) (h : AgreeOn E files source s t) (ending : String) :
    let g : Gateway E := { config, compiler := WatCompiler.compiler }
    g.compile files ending kind source s = g.compile files ending kind source t := by
  intro g
  let r := g.request ending kind source s
  have houtput : WatCompiler.output (E := E) files r =
      WatCompiler.output files { r with references := t.entries } :=
    WatCompiler.output_congr r fun image m hparse hm i hi =>
      h image m hparse hm _ (.direct (List.mem_map_of_mem hi))
  have haccept : accept (E := E) (loader files) r (WatCompiler.output files r) =
      accept (loader files) { r with references := t.entries } (WatCompiler.output files r) := by
    refine accept_congr fun image hi => ?_
    -- the module that is loaded is the one that the compiler has read from the source
    obtain ⟨hparse, m, hm⟩ := WatCompiler.exists_read_of_output hi
    exact LoadedUnit.load_congr hs.coherent.nodup_names ht.coherent.nodup_names fun m' hm' =>
      hload hm' hm ▸ h image m hparse hm
  show Delivery.mk (accept (E := E) (loader files) r (WatCompiler.output files r))
    (warningsOf (E := E) r (WatCompiler.output files r)) [] = _
  rw [haccept, houtput]
  rfl

/-- **For two units, only their names differ.** -/
theorem sameFor_compile (config : GatewayConfig) (files : Files) (kind : OutputKind)
    (source : String) (s : ReferenceSet) (ending ending' : String) :
    let g : Gateway E := { config, compiler := WatCompiler.compiler }
    Delivery.SameFor (g.config.unitPrefix ++ ending) (g.config.unitPrefix ++ ending')
      (g.compile files ending kind source s) (g.compile files ending' kind source s) := by
  intro g
  let r := g.request ending kind source s
  let v := g.config.unitPrefix ++ ending'
  obtain ⟨himage, hds⟩ := WatCompiler.sameFor_output (E := E) files r v
  have haccept : SameResult r.unitName v
      (accept (E := E) (loader files) r (WatCompiler.output files r))
      (accept (loader files) { r with unitName := v }
        (WatCompiler.output files { r with unitName := v })) :=
    sameFor_accept himage hds
      (fun image => LoadedUnit.load_rename files r.unitName v image r.references)
      fun image a ha => LoadedUnit.name_of_load ha
  exact ⟨haccept, sameFor_warningsOf hds, rfl⟩

/-- **The outcome only depends on what is needed.** Two sets of references give the same outcome if
they have the same origins, or none, for the module names to which the imports of the source lead.
So it changes nothing to permute the entries, or to add others whose names are not reached. -/
theorem compile_congr (E : Engine) (hload : E.LoadsAsRead) (config : GatewayConfig)
    (files : Files) (kind : OutputKind) (source : String) (s t : ReferenceSet) (hs : s.Built)
    (ht : t.Built) :
    let g : Gateway E := { config, compiler := WatCompiler.compiler }
    (AgreeOn E files source s t → g.SameOutcome files kind source s t) ∧
    (s.entries.Perm t.entries → g.SameOutcome files kind source s t) ∧
    ((∀ r ∈ s.entries, r ∈ t.entries) →
      (∀ image m, E.parse source = .ok image → E.read image = .ok m →
        ∀ r ∈ t.entries, r ∉ s.entries → ¬Linking.Reaches files s.entries m r.name) →
      g.SameOutcome files kind source s t) := by
  intro g
  have hns := hs.coherent.nodup_names
  have hnt := ht.coherent.nodup_names
  have hsame : AgreeOn E files source s t → g.SameOutcome files kind source s t := by
    intro h
    have heq : ∀ ending, g.compile files ending kind source s =
        g.compile files ending kind source t :=
      compile_eq_of_agreeOn hload config hs ht h
    refine ⟨heq, fun ending ending' => ?_⟩
    -- first the references are exchanged, then the name
    rw [heq ending]
    exact sameFor_compile config files kind source t ending ending'
  refine ⟨hsame, fun hperm => ?_, fun hsub hnew => ?_⟩
  · exact hsame fun image m _ _ => .of_perm hns hperm
  · exact hsame fun image m hparse hm => .of_subset hns hnt hsub (hnew image m hparse hm)

/-- The set with the reference to a file that exports a constant, and with one to a file that is
not there. -/
def danglingSet : ReferenceSet :=
  (constantSet.insert ⟨"other", "/other.wasm", .file "/other.wasm"⟩).1

theorem entries_danglingSet :
    danglingSet.entries =
      constantSet.entries ++ [⟨"other", "/other.wasm", .file "/other.wasm"⟩] := by
  have hbuilt : constantSet.Built := .insert _ .empty
  have hid : constantSet.containsIdentity "/other.wasm" = false := by
    rw [Bool.eq_false_iff, Ne, hbuilt.coherent.containsIdentity_iff, entries_constantSet]
    decide
  have hname : constantSet.get? "other" = none := by
    rw [ReferenceSet.get?, entries_constantSet]
    rfl
  rw [danglingSet, ReferenceSet.insert_added hid hname]

/-- The imports of a source that uses the constant lead to its file only. -/
theorem eq_of_reaches_constant {name : String} (h : Linking.Reaches (E := Wasm.engine)
    constantFiles constantSet.entries constantUser name) : name = "base" := by
  induction h with
  | direct hmem => exact List.mem_singleton.1 hmem
  | next _ himports ih =>
      obtain ⟨path, d, ⟨r, hr, rfl, hpath⟩, hopen, hmem⟩ := himports
      rw [entries_constantSet, List.mem_singleton] at hr
      subst hr
      obtain rfl := Option.some.inj hpath
      -- the file of the constant imports nothing
      rw [← Except.ok.inj (ofFile_constant.symm.trans hopen)] at hmem
      exact absurd hmem List.not_mem_nil

/-- A reference to a file that is not there changes nothing for a source that does not need it. -/
theorem compile_congr_dangling : constantSet.Built ∧ danglingSet.Built ∧
    (∀ d, Wasm.engine.ofFile constantFiles "/other.wasm" ≠ .ok d) ∧
    SameOutcome (E := Wasm.engine) ⟨{}, WatCompiler.compiler⟩ constantFiles .library constantSource
      constantSet danglingSet := by
  have hbuilt : constantSet.Built := .insert _ .empty
  have hdangling : (Wasm.engine.ofFile constantFiles "/other.wasm").toOption.isNone = true := by
    decide +kernel
  refine ⟨hbuilt, .insert _ hbuilt, fun d hd => ?_, ?_⟩
  · rw [hd] at hdangling
    exact absurd hdangling Bool.false_ne_true
  obtain ⟨-, -, hsame⟩ := compile_congr Wasm.engine Wasm.engine_loadsAsRead {} constantFiles
    .library constantSource constantSet danglingSet hbuilt (.insert _ hbuilt)
  refine hsame (fun r hr => ?_) fun image m hparse hm r hr hnew hreach => ?_
  · rw [entries_danglingSet]
    exact List.mem_append_left _ hr
  · -- the new name is not the one of the file that is reached
    have hparse' : Wasm.engine.parse constantSource = .ok (.module constantUser.module) := by
      decide +kernel
    have hread : Wasm.engine.read (.module constantUser.module) = .ok constantUser := by
      decide +kernel
    obtain rfl := Except.ok.inj (hparse'.symm.trans hparse)
    obtain rfl := Except.ok.inj (hread.symm.trans hm)
    rw [entries_danglingSet, List.mem_append, List.mem_singleton] at hr
    obtain rfl := hr.resolve_left hnew
    exact absurd (eq_of_reaches_constant hreach) (by decide)

end Gateway

end UnitFoundry
