import UnitFoundry.Compile.Wat

/-! # The check of imports

The compiler remembers which files it has opened and which missing modules it has reported. What it
reports is nevertheless what one gets by opening the file anew for each import and reporting a
missing module where it is first imported from.

* **`WatCompiler.importDiagnostics`**: the plain definition, without anything remembered.
* **`WatCompiler.ImportCheck.Faithful.check`**: what is remembered stays true.
* **`WatCompiler.checkImports_eq`**: the check agrees with the plain definition.
* **`WatCompiler.checkImports_ne_nil_iff`**: something is reported if some import is
  unsatisfied. -/

namespace UnitFoundry.WatCompiler

variable {E : Engine}

/-- Whether no reference provides an import: none has the name of its module, or the first one that
has it is a file that is not a valid unit or does not export what is imported. -/
def Unsatisfied (files : Files) (references : List Reference) (i : Import E.ExternType) : Prop :=
  references.find? (·.name = i.module) = none ∨
    ∃ r path, references.find? (·.name = i.module) = some r ∧ r.path? = some path ∧
      ∀ d, E.ofFile files path = .ok d → E.provides d i.name = false

/-- The diagnostic on an import by itself. -/
def importDiagnostic? (files : Files) (references : List Reference) (i : Import E.ExternType) :
    Option Diagnostic :=
  match references.find? (·.name = i.module) with
  | none => some (unresolvedModule i)
  | some r =>
    match r.path? with
    | none => none
    | some path =>
      match E.ofFile files path with
      | .ok d => if E.provides d i.name then none else some (unresolvedSymbol i r path)
      | .error f => some (unreadableReference r path f)

/-- Whether an import is from a missing module that an earlier import is from. -/
def isRepeated (references : List Reference) (earlier : List (Import E.ExternType))
    (i : Import E.ExternType) : Bool :=
  (references.find? (·.name = i.module)).isNone && earlier.any (·.module = i.module)

/-- The diagnostics on imports that follow some earlier ones. -/
def importDiagnostics (files : Files) (references : List Reference)
    (earlier : List (Import E.ExternType)) : List (Import E.ExternType) → List Diagnostic
  | [] => []
  | i :: rest =>
    (if isRepeated references earlier i then [] else (importDiagnostic? files references i).toList)
      ++ importDiagnostics files references (earlier ++ [i]) rest

variable {files : Files} {references : List Reference} {earlier rest : List (Import E.ExternType)}
  {i : Import E.ExternType} {c : ImportCheck E}

/-! ## What is remembered -/

namespace ImportCheck

/-- Whether what a check remembers after some imports is true. -/
structure Faithful (files : Files) (references : List Reference)
    (earlier : List (Import E.ExternType)) (c : ImportCheck E) : Prop where
  /-- The missing modules that have been reported are those that the imports are from. -/
  missing : ∀ n, c.missing.contains n = true ↔
    references.find? (·.name = n) = none ∧ ∃ i ∈ earlier, i.module = n
  /-- What has come of opening a reference is what comes of opening its file. -/
  opened : ∀ n (d : Except OpenFault E.Module), c.opened[n]? = some d →
    ∃ r path, references.find? (·.name = n) = some r ∧ r.path? = some path ∧
      d = E.ofFile files path

/-- At first nothing is remembered. -/
theorem Faithful.empty : Faithful (E := E) files references [] {} where
  missing n := by simp
  opened n d hd := by simp at hd

/-- What is remembered stays true with an import from a module that is not missing. -/
theorem Faithful.found (h : Faithful files references earlier c) {r : Reference}
    (hr : references.find? (·.name = i.module) = some r) :
    Faithful files references (earlier ++ [i]) c where
  missing n := by
    rw [h.missing n]
    refine and_congr_right fun hnone => ?_
    have hne : i.module ≠ n := by
      rintro rfl
      rw [hr] at hnone
      exact absurd hnone (by simp)
    simp [hne]
  opened := h.opened

/-- Opening a reference gives what its file holds, and this is remembered. -/
theorem Faithful.openReference (h : Faithful files references earlier c) {r : Reference}
    {path : String} (hr : references.find? (·.name = r.name) = some r)
    (hpath : r.path? = some path) :
    (c.openReference files r.name path).2 = E.ofFile files path ∧
      (c.openReference files r.name path).1.diagnostics = c.diagnostics ∧
      Faithful files references earlier (c.openReference files r.name path).1 := by
  rw [ImportCheck.openReference]
  -- either the file has been opened before, or it is opened now and remembered
  cases hc : c.opened[r.name]? with
  | some d =>
      obtain ⟨r', path', hr', hpath', rfl⟩ := h.opened _ _ hc
      rw [hr] at hr'
      obtain rfl := Option.some.inj hr'
      rw [hpath] at hpath'
      obtain rfl := Option.some.inj hpath'
      exact ⟨rfl, rfl, h⟩
  | none =>
      refine ⟨rfl, rfl, h.missing, fun n d hd => ?_⟩
      rw [Std.HashMap.getElem?_insert] at hd
      split at hd
      · rename_i hn
        obtain rfl := eq_of_beq hn
        exact ⟨r, path, hr, hpath, (Option.some.inj hd).symm⟩
      · exact h.opened n d hd

theorem Faithful.report (h : Faithful files references earlier c) (d : Diagnostic) :
    Faithful files references earlier (c.report d) :=
  ⟨h.missing, h.opened⟩

/-- A missing module is reported unless that has been done. -/
theorem Faithful.check_missing (h : Faithful files references earlier c)
    (hr : references.find? (·.name = i.module) = none) :
    Faithful files references (earlier ++ [i]) (ImportCheck.check files references c i) ∧
      (ImportCheck.check files references c i).diagnostics = c.diagnostics ++
        if isRepeated references earlier i then []
        else (importDiagnostic? files references i).toList := by
  have hrepeated : isRepeated references earlier i = c.missing.contains i.module := by
    rw [Bool.eq_iff_iff, h.missing, isRepeated, hr]
    simp
  rw [ImportCheck.check, importDiagnostic?, hrepeated, hr]
  by_cases hmissing : c.missing.contains i.module
  · -- the module is on the list on account of an earlier import
    simp only [hmissing, if_true, List.append_nil, and_true]
    refine ⟨fun n => ?_, h.opened⟩
    rw [h.missing n]
    refine and_congr_right fun _ => ⟨fun ⟨i', hi', hn⟩ => ⟨i', List.mem_append_left _ hi', hn⟩, ?_⟩
    rintro ⟨i', hi', hn⟩
    rcases List.mem_append.1 hi' with hi' | hi'
    · exact ⟨i', hi', hn⟩
    · rw [List.mem_singleton.1 hi'] at hn
      exact hn ▸ ((h.missing i.module).1 hmissing).2
  · -- it is put on the list now
    simp only [hmissing, if_false, Bool.false_eq_true]
    refine ⟨⟨fun n => ?_, h.opened⟩, rfl⟩
    show (c.missing.insert i.module).contains n = true ↔ _
    rw [Std.HashSet.contains_insert, Bool.or_eq_true, beq_iff_eq, h.missing n]
    constructor
    · rintro (rfl | ⟨hnone, i', hi', hn⟩)
      · exact ⟨hr, i, List.mem_append_right _ List.mem_cons_self, rfl⟩
      · exact ⟨hnone, i', List.mem_append_left _ hi', hn⟩
    · rintro ⟨hnone, i', hi', hn⟩
      rcases List.mem_append.1 hi' with hi' | hi'
      · exact Or.inr ⟨hnone, i', hi', hn⟩
      · rw [List.mem_singleton.1 hi'] at hn
        exact Or.inl hn

/-- An import from a reference is reported if its file does not provide it. -/
theorem Faithful.check_found (h : Faithful files references earlier c) {r : Reference}
    (hr : references.find? (·.name = i.module) = some r) :
    Faithful files references (earlier ++ [i]) (ImportCheck.check files references c i) ∧
      (ImportCheck.check files references c i).diagnostics = c.diagnostics ++
        if isRepeated references earlier i then []
        else (importDiagnostic? files references i).toList := by
  have hrepeated : isRepeated references earlier i = false := by
    rw [isRepeated, hr]
    rfl
  have hname : r.name = i.module := Reference.name_of_find?_eq_some hr
  simp only [ImportCheck.check, importDiagnostic?, hrepeated, hr, Bool.false_eq_true, if_false]
  cases hpath : r.path? with
  | none => exact ⟨h.found hr, (List.append_nil _).symm⟩
  | some path =>
      -- what is remembered is kept under the reference's own name, which is that of the module
      have hr' : references.find? (·.name = r.name) = some r := hname ▸ hr
      obtain ⟨hresult, hdiagnostics, hopened⟩ := (h.found hr).openReference hr' hpath
      simp only [← hresult]
      cases hd : c.openReference files r.name path with
      | mk c' d =>
          rw [hd] at hdiagnostics hopened
          simp only at hdiagnostics hopened
          cases d with
          | error f => exact ⟨hopened.report _, congrArg (· ++ _) hdiagnostics⟩
          | ok d =>
              by_cases hprovides : E.provides d i.name
              · simp only [hprovides, if_true]
                exact ⟨hopened, hdiagnostics.trans (List.append_nil _).symm⟩
              · simp only [hprovides]
                exact ⟨hopened.report _, congrArg (· ++ _) hdiagnostics⟩

/-- **Checking an import reports what the plain definition says**, and what is remembered stays
true. -/
theorem Faithful.check (h : Faithful files references earlier c) (i : Import E.ExternType) :
    Faithful files references (earlier ++ [i]) (ImportCheck.check files references c i) ∧
      (ImportCheck.check files references c i).diagnostics = c.diagnostics ++
        if isRepeated references earlier i then []
        else (importDiagnostic? files references i).toList := by
  cases hr : references.find? (·.name = i.module) with
  | none => exact h.check_missing hr
  | some r => exact h.check_found hr

/-- Checking imports one after another reports what the plain definition says. -/
theorem Faithful.diagnostics_foldl (h : Faithful files references earlier c) :
    (rest.foldl (ImportCheck.check files references) c).diagnostics =
      c.diagnostics ++ importDiagnostics files references earlier rest := by
  induction rest generalizing earlier c with
  | nil => exact (List.append_nil _).symm
  | cons i rest ih =>
      obtain ⟨hnext, hdiagnostics⟩ := h.check i
      rw [List.foldl_cons, ih hnext, hdiagnostics, importDiagnostics, List.append_assoc]

end ImportCheck

/-- **The check of imports agrees with the plain definition.** -/
theorem checkImports_eq (files : Files) (references : List Reference) (m : E.Module) :
    checkImports files references m = importDiagnostics files references [] (E.imports m) := by
  rw [checkImports, ImportCheck.Faithful.empty.diagnostics_foldl]
  exact List.nil_append _

/-! ## What is reported -/

theorem isSome_importDiagnostic?_iff :
    (importDiagnostic? files references i).isSome = true ↔ Unsatisfied files references i := by
  rw [importDiagnostic?, Unsatisfied]
  cases hr : references.find? (·.name = i.module) with
  | none => simp
  | some r =>
      cases hpath : r.path? with
      | none => simp [hpath]
      | some path =>
          cases hd : E.ofFile files path with
          | error f => simp [hpath, hd]
          | ok d => simp [hpath, hd]

/-- Every diagnostic on an import blocks the unit. -/
theorem isBlocking_of_mem_importDiagnostics {d : Diagnostic}
    (hd : d ∈ importDiagnostics files references earlier rest) : d.isBlocking = true := by
  have hone : ∀ i : Import E.ExternType, importDiagnostic? files references i = some d →
      d.isBlocking = true := by
    intro i hi
    rw [importDiagnostic?] at hi
    split at hi
    · exact Option.some.inj hi ▸ rfl
    · split at hi
      · exact absurd hi (by simp)
      · split at hi
        · split at hi
          · exact absurd hi (by simp)
          · exact Option.some.inj hi ▸ rfl
        · exact Option.some.inj hi ▸ rfl
  induction rest generalizing earlier with
  | nil => exact absurd hd List.not_mem_nil
  | cons i rest ih =>
      rw [importDiagnostics] at hd
      rcases List.mem_append.1 hd with hd | hd
      · split at hd
        · exact absurd hd List.not_mem_nil
        · exact hone i (Option.mem_toList.1 hd)
      · exact ih hd

/-- An unsatisfied import is reported where it stands, unless it is repeated there. -/
theorem importDiagnostics_cons_ne_nil (hi : Unsatisfied files references i)
    (hnew : isRepeated references earlier i = false) :
    importDiagnostics files references earlier (i :: rest) ≠ [] := by
  obtain ⟨d, hd⟩ := Option.isSome_iff_exists.1 (isSome_importDiagnostic?_iff.2 hi)
  rw [importDiagnostics, hnew, hd]
  exact List.cons_ne_nil d _

/-- An unsatisfied import is reported, unless its module is missing and has been reported. -/
theorem importDiagnostics_ne_nil (earlier : List (Import E.ExternType)) (hi : i ∈ rest)
    (hun : Unsatisfied files references i) :
    importDiagnostics files references earlier rest ≠ [] ∨
      isRepeated references earlier i = true := by
  induction rest generalizing earlier with
  | nil => exact absurd hi List.not_mem_nil
  | cons j rest ih =>
      cases hold : isRepeated references earlier i with
      | true => exact Or.inr rfl
      | false =>
          left
          rcases List.mem_cons.1 hi with rfl | hi
          · exact importDiagnostics_cons_ne_nil hun hold
          · obtain hrest | hrepeated := ih (earlier ++ [j]) hi
            · rw [importDiagnostics]
              exact List.append_ne_nil_of_right_ne_nil _ hrest
            · -- the import is from the same missing module as the one before
              rw [isRepeated, Bool.and_eq_true, List.any_append, Bool.or_eq_true] at hrepeated
              obtain ⟨hnone, hany | hlast⟩ := hrepeated
              · rw [isRepeated, hnone, hany] at hold
                exact Bool.noConfusion hold
              · have hmodule : j.module = i.module := by simpa using hlast
                refine importDiagnostics_cons_ne_nil (Or.inl ?_) ?_
                · rw [hmodule]
                  exact Option.isNone_iff_eq_none.1 hnone
                · rw [isRepeated, hmodule]
                  exact hold

/-- What is reported is an unsatisfied import. -/
theorem exists_unsatisfied_of_ne_nil
    (h : importDiagnostics files references earlier rest ≠ []) :
    ∃ i ∈ rest, Unsatisfied files references i := by
  induction rest generalizing earlier with
  | nil => exact absurd rfl h
  | cons i rest ih =>
      by_cases hun : Unsatisfied files references i
      · exact ⟨i, List.mem_cons_self, hun⟩
      · have hnone : importDiagnostic? files references i = none := by
          rw [← Option.not_isSome_iff_eq_none, isSome_importDiagnostic?_iff]
          exact hun
        have hhead : (if isRepeated references earlier i then []
            else (importDiagnostic? files references i).toList) = [] := by
          rw [hnone]
          split <;> rfl
        rw [importDiagnostics, hhead, List.nil_append] at h
        obtain ⟨j, hj, hunj⟩ := ih h
        exact ⟨j, List.mem_cons_of_mem _ hj, hunj⟩

/-- **Something is reported if some import is unsatisfied.** -/
theorem checkImports_ne_nil_iff (files : Files) (references : List Reference) (m : E.Module) :
    checkImports files references m ≠ [] ↔ ∃ i ∈ E.imports m, Unsatisfied files references i := by
  rw [checkImports_eq]
  refine ⟨exists_unsatisfied_of_ne_nil, ?_⟩
  rintro ⟨i, hi, hun⟩
  obtain hne | hrepeated := importDiagnostics_ne_nil [] hi hun
  · exact hne
  · -- nothing is repeated at the start
    rw [isRepeated, List.any_nil, Bool.and_false] at hrepeated
    exact Bool.noConfusion hrepeated

/-- Every diagnostic of the check blocks the unit. -/
theorem filter_isBlocking_checkImports (files : Files) (references : List Reference)
    (m : E.Module) : (checkImports files references m).filter (·.isBlocking) =
      checkImports files references m := by
  rw [checkImports_eq, List.filter_eq_self]
  exact fun d hd => isBlocking_of_mem_importDiagnostics hd

/-! ## What the compiler answers -/

/-- What the compiler answers on a source that describes a valid module. -/
theorem output_of_read {r : CompileRequest} {image : E.Image} {m : E.Module}
    (hparse : E.parse r.source = .ok image) (hm : E.read image = .ok m) : output files r =
      { image := some image
        diagnostics := checkImports files r.references m ++ checkExports r m } := by
  rw [output, hparse]
  simp only [hm]

end UnitFoundry.WatCompiler
