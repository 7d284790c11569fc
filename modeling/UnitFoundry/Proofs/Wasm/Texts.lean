import Mathlib.Data.List.Nodup
import UnitFoundry.Proofs.Wasm.Engine
import UnitFoundry.Proofs.Wasm.Spelling

/-! # Texts that the interpreter reads

The form of a module of functions is read as the module that it declares: each function has its
type, and it is exported under its names, in their order. Such a module is valid, unless it holds
too much.

* **`Wasm.Text.declaredModule`**: the module that functions in a text declare.
* **`Wasm.Text.read_of_spells`**: a text that spells the form is read as this module.
* **`Wasm.Text.validate_declaredModule`**: the module is valid.
* **`Wasm.engine_readsTexts`**: the interpreter reads the texts of such modules. -/

namespace UnitFoundry.Wasm.Text

variable {f : FuncText} {fs : List FuncText} {name : String}

/-! ## Functions -/

namespace FuncText

/-- The type of a function. -/
def type (f : FuncText) : FuncType :=
  ⟨f.params.map (.num ·.2), f.results.map .num⟩

/-- The parameters of a function as its field has them. -/
def fieldParams (f : FuncText) : List (Option String × ValType) :=
  f.params.map fun p => (some ("$" ++ p.1), .num p.2)

/-- The field of a function. -/
def field (f : FuncText) : Field :=
  .func (some ("$" ++ f.id)) f.exports ⟨f.fieldParams, f.type.results⟩ [] [.unreachable]

/-- A function with a body that traps. -/
def func (f : FuncText) : Func :=
  { type := f.type, body := [.unreachable] }

@[simp] theorem length_params_type (f : FuncText) : f.type.params.length = f.params.length :=
  List.length_map _

@[simp] theorem length_results_type (f : FuncText) : f.type.results.length = f.results.length :=
  List.length_map _

end FuncText

theorem isId_of_isWord {s : String} (h : IsWord s) : isId ("$" ++ s) = true := by
  obtain ⟨c, cs, hlist⟩ := List.exists_cons_of_ne_nil h.1
  rw [isId, String.toList_append, hlist]
  rfl

/-- An identifier in front is split off, unless a name for readers follows. -/
theorem takeId_identifier {s : String} (h : IsWord s) (rest : List Sexp) :
    takeId (.word ("$" ++ s) :: rest) = (some ("$" ++ s), dropName rest) := by
  rw [takeId, isId_of_isWord h, if_pos rfl]

theorem readValType_name (t : NumType) : readValType (.word t.name) = .ok (.num t) := by
  cases t <;> rfl

/-- The form of a parameter is read as one. -/
theorem readParams_sexp {s : String} (h : IsWord s) (t : NumType) :
    readParams [.word ("$" ++ s), .word t.name] = .ok [(some ("$" ++ s), .num t)] := by
  rw [readParams, takeId_identifier h]
  simp only [dropName, readValType_name]
  rfl

/-- What stands behind the parameters of a function. -/
theorem readSignature_results (ts : List NumType) (s : Signature) :
    readSignature s (ts.map resultSexp ++ [.word "unreachable"]) =
      .ok ({ s with results := s.results ++ ts.map .num }, [.word "unreachable"]) := by
  induction ts generalizing s with
  | nil => rw [List.map_nil, List.map_nil, List.append_nil]; rfl
  | cons t ts ih =>
      have htype : [Sexp.word t.name].mapM readValType = .ok [.num t] := by
        rw [List.mapM_cons, readValType_name]
        rfl
      rw [List.map_cons, List.cons_append, resultSexp, readSignature, htype]
      simp only [bind, Except.bind, ih, List.map_cons, List.append_assoc, List.singleton_append]

theorem readSignature_params {ps : List (String × NumType)} {rest : List Sexp} {s : Signature}
    (hnames : ∀ p ∈ ps, IsWord p.1) (hs : s.results = []) :
    readSignature s (ps.map paramSexp ++ rest) = readSignature
      { s with params := s.params ++ ps.map fun p => (some ("$" ++ p.1), .num p.2) } rest := by
  induction ps generalizing s with
  | nil => rw [List.map_nil, List.nil_append, List.map_nil, List.append_nil]
  | cons p ps ih =>
      have hparams := readParams_sexp (hnames p List.mem_cons_self) p.2
      have hrest := ih (s := { s with params := s.params ++ [(some ("$" ++ p.1), .num p.2)] })
        (fun q hq => hnames q (List.mem_cons_of_mem _ hq)) hs
      rw [List.map_cons, List.cons_append, paramSexp, readSignature, hparams]
      simp only [hs, List.isEmpty_nil, Bool.not_true, Bool.false_eq_true, if_false, bind,
        Except.bind]
      rw [hs] at hrest
      rw [hrest, List.map_cons, List.append_assoc, List.singleton_append]

/-- What follows the names under which a function is exported. -/
def tailSexps (f : FuncText) : List Sexp :=
  f.params.map paramSexp ++ (f.results.map resultSexp ++ [.word "unreachable"])

theorem clauses_eq (f : FuncText) :
    f.clauses ++ [.word "unreachable"] = f.exports.map exportSexp ++ tailSexps f := by
  rw [FuncText.clauses, tailSexps, List.append_assoc, List.append_assoc]

/-- What follows the exports begins with a parameter, a result or the body. -/
theorem tailSexps_cases (f : FuncText) :
    (∃ p rest, tailSexps f = paramSexp p :: rest) ∨ (∃ t rest, tailSexps f = resultSexp t :: rest) ∨
      tailSexps f = [.word "unreachable"] := by
  rw [tailSexps]
  cases f.params with
  | cons p ps => exact Or.inl ⟨p, _, rfl⟩
  | nil =>
      cases f.results with
      | cons t ts => exact Or.inr (Or.inl ⟨t, _, rfl⟩)
      | nil => exact Or.inr (Or.inr rfl)

/-- The names under which a function is exported are read up to its parameters. -/
theorem readExports_clauses (names acc : List String) (f : FuncText) :
    readExports acc (names.map exportSexp ++ tailSexps f) = .ok (acc ++ names, tailSexps f) := by
  induction names generalizing acc with
  | nil =>
      rw [List.map_nil, List.nil_append, List.append_nil]
      obtain ⟨p, rest, htail⟩ | ⟨t, rest, htail⟩ | htail := tailSexps_cases f <;> rw [htail]
      · simp [readExports, paramSexp]
      · simp [readExports, resultSexp]
      · simp [readExports]
  | cons name names ih =>
      rw [List.map_cons, List.cons_append, exportSexp, readExports, readName_bytesOf]
      simp only [bind, Except.bind, String.ofList_toList, ih, List.append_assoc,
        List.singleton_append]

/-- No name for readers follows the identifier of a function. -/
theorem dropName_clauses (f : FuncText) :
    dropName (f.exports.map exportSexp ++ tailSexps f) =
      f.exports.map exportSexp ++ tailSexps f := by
  cases f.exports with
  | cons name names => rfl
  | nil =>
      obtain ⟨p, rest, htail⟩ | ⟨t, rest, htail⟩ | htail := tailSexps_cases f <;>
        rw [htail] <;> rfl

/-- **The form of a function is read as its field.** -/
theorem readField_sexp (hid : IsWord f.id) (hparams : ∀ p ∈ f.params, IsWord p.1) :
    readField f.sexp = .ok f.field := by
  have hdefinition : readField f.sexp = readDefinition .func
      (.word ("$" ++ f.id) :: (f.exports.map exportSexp ++ tailSexps f)) := by
    rw [FuncText.sexp, clauses_eq]
    simp [readField, externKind?]
  have hsignature : readSignature {} (tailSexps f) =
      .ok (⟨f.fieldParams, f.type.results⟩, [.word "unreachable"]) := by
    rw [tailSexps, readSignature_params hparams rfl, readSignature_results]
    rfl
  have hlocals : readLocals [] [.word "unreachable"] = .ok ([], [.word "unreachable"]) := rfl
  have hbody : readInstrs [.word "unreachable"] = .ok [.unreachable] := by
    simp [readInstrs, plainInstr?, pure, Except.pure, bind, Except.bind]
  rw [hdefinition, readDefinition, takeId_identifier hid, dropName_clauses]
  simp only [readExports_clauses, bind, Except.bind]
  split
  · -- no form of an import follows
    rename_i himport
    obtain ⟨p, rest, htail⟩ | ⟨t, rest, htail⟩ | htail := tailSexps_cases f <;>
      rw [htail] at himport <;> simp [paramSexp, resultSexp] at himport
  · simp only [hsignature, hlocals, hbody]
    rfl

/-! ## Modules -/

/-- What functions export, with the index of the first of them. -/
def declaredExports : Nat → List FuncText → List Export
  | _, [] => []
  | i, f :: fs => f.exports.map (⟨·, .func, i⟩) ++ declaredExports (i + 1) fs

/-- The module that functions in a text declare. -/
def declaredModule (fs : List FuncText) : Module :=
  { funcs := fs.map (·.func), exports := declaredExports 0 fs }

/-- A function is followed by what it exports. -/
theorem spreadExports_field (c : Counts) (f : FuncText) (rest : List Field) :
    spreadExports c (f.field :: rest) =
      f.field :: (f.exports.map (fun name => .export_ name .func (.number c.func)) ++
        spreadExports (c.add .func) rest) := rfl

/-- Nothing is imported. -/
theorem hasLateImport_fields (c : Counts) (fs : List FuncText) :
    hasLateImport (spreadExports c (fs.map (·.field))) = false := by
  have hall : ∀ x ∈ spreadExports c (fs.map (·.field)), x.isImport = false := by
    induction fs generalizing c with
    | nil => exact fun x hx => absurd hx List.not_mem_nil
    | cons f fs ih =>
        rw [List.map_cons, spreadExports_field, List.forall_mem_cons, List.forall_mem_append]
        refine ⟨rfl, fun x hx => ?_, ih _⟩
        obtain ⟨name, -, rfl⟩ := List.mem_map.1 hx
        rfl
  rw [hasLateImport, List.any_eq_false]
  exact fun x hx => Bool.eq_false_iff.1 (hall x ((List.dropWhile_sublist _).subset hx))

/-- What is asked of the fields of functions, and not of what they export. -/
theorem filterMap_fields {α : Type} {g : Field → Option α}
    (hg : ∀ name kind index, g (.export_ name kind index) = none) (c : Counts)
    (fs : List FuncText) :
    (spreadExports c (fs.map (·.field))).filterMap g = fs.filterMap fun f => g f.field := by
  induction fs generalizing c with
  | nil => rfl
  | cons f fs ih =>
      have hexports : (f.exports.map fun name =>
          Field.export_ name .func (.number c.func)).filterMap g = [] := by
        rw [List.filterMap_map]
        exact List.filterMap_eq_nil_iff.2 fun name _ => hg name _ _
      rw [List.map_cons, spreadExports_field, List.filterMap_cons, List.filterMap_append, hexports,
        List.nil_append, ih, List.filterMap_cons]

/-- The identifiers are those of functions. -/
theorem ofFields_fields (c : Counts) (fs : List FuncText) :
    Names.ofFields (spreadExports c (fs.map (·.field))) =
      { func := fs.map fun f => some ("$" ++ f.id) } := by
  simp only [Names.ofFields]
  rw [filterMap_fields fun _ _ _ => rfl, filterMap_fields fun _ _ _ => rfl,
    filterMap_fields fun _ _ _ => rfl, filterMap_fields fun _ _ _ => rfl]
  simp [FuncText.field, Field.defined?]

/-- Identifiers that are distinct without their dollar signs are distinct. -/
theorem hasDuplicateId_identifiers {names : List String} (h : names.Nodup) :
    hasDuplicateId (names.map fun s => some ("$" ++ s)) = false := by
  have hinj : Function.Injective fun s : String => "$" ++ s := fun _ _ heq =>
    (String.append_right_inj "$").1 heq
  have hnames : (names.map fun s => some ("$" ++ s)).filterMap id = names.map ("$" ++ ·) := by
    rw [List.filterMap_map]
    simp
  rw [hasDuplicateId, hnames, decide_eq_true (List.Nodup.map hinj h)]
  rfl

/-- What the fields of a function add to a module. -/
theorem foldlM_addField_field (hparams : (f.params.map (·.1)).Nodup) (names : Names) (i : Nat)
    (n : Module) :
    (f.field :: f.exports.map fun name => .export_ name .func (.number i)).foldlM
      (addField names) n = .ok { n with
        funcs := n.funcs ++ [f.func]
        exports := n.exports ++ f.exports.map (⟨·, .func, i⟩) } := by
  have hids : hasDuplicateId
      ((f.fieldParams ++ ([] : List (Option String × ValType))).map (·.1)) = false := by
    rw [List.append_nil, FuncText.fieldParams, List.map_map, ← hasDuplicateId_identifiers hparams,
      List.map_map]
    rfl
  have hfield : addField names n f.field = .ok { n with funcs := n.funcs ++ [f.func] } := by
    have htype : Signature.type ⟨f.fieldParams, f.type.results⟩ = f.type := by
      rw [Signature.type, FuncText.fieldParams, List.map_map]
      rfl
    rw [FuncText.field, addField]
    simp only [hids, htype]
    rfl
  have hexports : ∀ (exports : List String) (n : Module),
      (exports.map fun name => Field.export_ name .func (.number i)).foldlM (addField names) n =
        .ok { n with exports := n.exports ++ exports.map (⟨·, .func, i⟩) } := by
    intro exports
    induction exports with
    | nil => intro n; simp [pure, Except.pure]
    | cons name exports ih =>
        intro n
        rw [List.map_cons, List.foldlM_cons]
        simp only [addField, Index.resolve, bind, Except.bind, pure, Except.pure, ih, List.map_cons,
          List.append_assoc, List.singleton_append]
  rw [List.foldlM_cons, hfield]
  simp only [bind, Except.bind, hexports]

/-- The fields of functions, added one after another, make up a module. -/
theorem foldlM_addField_fields (h : ∀ f ∈ fs, (f.params.map (·.1)).Nodup) (names : Names)
    (c : Counts) (n : Module) :
    (spreadExports c (fs.map (·.field))).foldlM (addField names) n = .ok { n with
      funcs := n.funcs ++ fs.map (·.func)
      exports := n.exports ++ declaredExports c.func fs } := by
  induction fs generalizing c n with
  | nil => simp [spreadExports, declaredExports, pure, Except.pure]
  | cons f fs ih =>
      have hfirst := foldlM_addField_field (h f List.mem_cons_self) names c.func n
      have hrest := ih (fun f' hf' => h f' (List.mem_cons_of_mem _ hf')) (c.add .func)
      rw [List.map_cons, spreadExports_field, ← List.cons_append, List.foldlM_append, hfirst]
      simp only [bind, Except.bind, hrest, List.map_cons, declaredExports, List.append_assoc,
        List.singleton_append]
      rfl

theorem mapM_readField (h : WellNamed fs) :
    (fs.map (·.sexp)).mapM readField = .ok (fs.map (·.field)) := by
  have hall : ∀ f ∈ fs, readField f.sexp = .ok f.field := fun f hf =>
    readField_sexp (h.isWord_id f hf) (h.isWord_param f hf)
  clear h
  induction fs with
  | nil => rfl
  | cons f fs ih =>
      rw [List.map_cons, List.mapM_cons, hall f List.mem_cons_self,
        ih fun f' hf' => hall f' (List.mem_cons_of_mem _ hf')]
      rfl

/-- **The form of a module is read as the module that it declares.** -/
theorem ofSexps_moduleSexp (hname : IsWord name) (h : WellNamed fs) :
    Source.ofSexps [moduleSexp name fs] = .ok (.module (declaredModule fs)) := by
  have hdrop : dropName (fs.map (·.sexp)) = fs.map (·.sexp) := by
    cases fs <;> rfl
  have hids : [ExternKind.func, .table, .memory, .global].any (fun k =>
      hasDuplicateId (Names.of { func := fs.map fun f => some ("$" ++ f.id) } k)) = false := by
    have hfunc := hasDuplicateId_identifiers h.nodup_ids
    rw [List.map_map] at hfunc
    simp only [List.any_cons, List.any_nil, Names.of, Bool.or_false]
    exact Bool.or_eq_false_iff.2 ⟨hfunc, rfl⟩
  have hfields : readFields (fs.map (·.sexp)) = .ok (declaredModule fs) := by
    rw [readFields, mapM_readField h]
    simp only [bind, Except.bind, assemble, hasLateImport_fields, ofFields_fields, hids,
      Bool.false_eq_true, if_false, foldlM_addField_fields h.nodup_params, declaredModule,
      List.nil_append]
  rw [moduleSexp, Source.ofSexps, List.isEmpty_nil, if_pos rfl, readModule,
    takeId_identifier hname, hdrop]
  split
  · -- the fields of functions are forms
    rename_i hbinary
    cases fs <;> simp [FuncText.sexp] at hbinary
  · simp only [hfields, bind, Except.bind]
    rfl

/-- **The text of a module of functions is read as the module that it declares.** -/
theorem read_of_spells {text : String} (hname : IsWord name) (h : WellNamed fs)
    (htext : Spells text.toList [moduleSexp name fs]) :
    Source.read text = .ok (.module (declaredModule fs)) := by
  rw [Source.read_of_spells htext (by simp), ofSexps_moduleSexp hname h]

/-! ## Validity -/

/-- The names that a declared module exports are those of its functions. -/
theorem exportNames_declaredModule (fs : List FuncText) :
    (declaredModule fs).exportNames = fs.flatMap (·.exports) := by
  rw [Module.exportNames, declaredModule]
  generalize 0 = i
  induction fs generalizing i with
  | nil => rfl
  | cons f fs ih =>
      rw [declaredExports, List.map_append, ih, List.map_map, List.flatMap_cons]
      exact congrArg (· ++ _) (List.map_id f.exports)

/-- What a declared module exports is one of its functions. -/
theorem exists_of_mem_declaredExports {e : Export} {i : Nat} (h : e ∈ declaredExports i fs) :
    e.kind = .func ∧ e.index < i + fs.length := by
  induction fs generalizing i with
  | nil => exact absurd h List.not_mem_nil
  | cons f fs ih =>
      rw [declaredExports, List.mem_append] at h
      rw [List.length_cons]
      obtain hfirst | hrest := h
      · obtain ⟨name, -, rfl⟩ := List.mem_map.1 hfirst
        exact ⟨rfl, by show i < _; omega⟩
      · obtain ⟨hkind, hindex⟩ := ih hrest
        exact ⟨hkind, by omega⟩

theorem funcTypes_declaredModule (fs : List FuncText) :
    (declaredModule fs).funcTypes = fs.map (·.type) := by
  simp [Module.funcTypes, declaredModule, FuncText.func]

theorem externType?_declaredModule (fs : List FuncText) (i : Nat) :
    (declaredModule fs).externType? .func i = (fs[i]?).map fun f => .func f.type := by
  rw [Module.externType?, funcTypes_declaredModule, List.getElem?_map, Option.map_map]
  rfl

/-- The exports of a declared module have the types of the functions. -/
theorem typedExports_declaredModule (fs : List FuncText) :
    (declaredModule fs).typedExports =
      fs.flatMap fun f => f.exports.map (·, .func f.type) := by
  have hall : ∀ before rest : List FuncText, fs = before ++ rest →
      (declaredExports before.length rest).filterMap (fun e =>
        ((declaredModule fs).externType? e.kind e.index).map fun t => (e.name, t)) =
      rest.flatMap fun f => f.exports.map (·, .func f.type) := by
    intro before rest
    induction rest generalizing before with
    | nil => exact fun _ => rfl
    | cons f rest ih =>
        intro hsplit
        have hrest := ih (before ++ [f]) (by rw [hsplit, List.append_assoc]; rfl)
        have htype : (declaredModule fs).externType? .func before.length = some (.func f.type) := by
          rw [externType?_declaredModule, hsplit, List.getElem?_append_right (Nat.le_refl _),
            Nat.sub_self]
          rfl
        rw [List.length_append, List.length_singleton] at hrest
        rw [declaredExports, List.filterMap_append, hrest, List.flatMap_cons, List.filterMap_map]
        refine congrArg (· ++ _) ?_
        rw [← List.filterMap_eq_map]
        refine List.filterMap_congr fun name _ => ?_
        simp [htype]
  exact hall [] fs rfl

/-- How much the interpreter puts up with. It reads texts of any length. -/
def limits (bytes : Nat) : TextLimits where
  bytes := bytes
  functions := functionCountLimit
  exports := exportCountLimit
  params := arityLimit
  results := arityLimit
  nameBytes := nameLimit
  typeSize := typeSizeLimit

/-- A declared module does not hold too much if its text keeps to the limits. -/
theorem checkCounts_declaredModule {text : String} {bytes : Nat}
    (h : (limits bytes).Admit text fs) : (declaredModule fs).checkCounts = .ok () := by
  have hexports : ¬exportCountLimit < (declaredModule fs).exports.length := by
    rw [← List.length_map (f := (·.name))]
    show ¬exportCountLimit < (declaredModule fs).exportNames.length
    rw [exportNames_declaredModule]
    exact Nat.not_lt.2 h.exports
  have hfunctions : ¬functionCountLimit < (declaredModule fs).funcTypes.length := by
    rw [funcTypes_declaredModule, List.length_map]
    exact Nat.not_lt.2 h.functions
  have harity : ((declaredModule fs).funcTypes.any fun t =>
      arityLimit < t.params.length || arityLimit < t.results.length) = false := by
    rw [funcTypes_declaredModule, List.any_map, List.any_eq_false]
    intro f hf
    have hparams : f.params.length ≤ arityLimit := h.params f hf
    have hresults : f.results.length ≤ arityLimit := h.results f hf
    simp [Nat.not_lt.2 hparams, Nat.not_lt.2 hresults]
  have hlocals : ((declaredModule fs).funcs.any fun f =>
      localCountLimit < f.type.params.length + f.locals.length) = false := by
    rw [List.any_eq_false]
    intro g hg
    obtain ⟨f, hf, rfl⟩ := List.mem_map.1 hg
    have hparams : f.params.length ≤ 1000 := h.params f hf
    show ¬decide (50000 < f.type.params.length + 0) = true
    rw [decide_eq_true_eq, FuncText.length_params_type]
    omega
  have hnames : (declaredModule fs).exportNames.any (nameLimit < ·.utf8ByteSize) = false := by
    rw [exportNames_declaredModule, List.any_eq_false]
    intro name hname
    obtain ⟨f, hf, hname⟩ := List.mem_flatMap.1 hname
    have hle : name.utf8ByteSize ≤ nameLimit := h.names f hf name hname
    simp [Nat.not_lt.2 hle]
  have hsize : ¬typeSizeLimit ≤
      (((declaredModule fs).typedExports.map (·.2)).map (·.size)).foldr (· + ·) 0 := by
    rw [typedExports_declaredModule, List.map_map, List.map_flatMap]
    simp only [List.map_map, Function.comp_def, ExternType.size, FuncText.length_params_type,
      FuncText.length_results_type]
    exact Nat.not_le.2 h.types
  have himports : (declaredModule fs).imports = [] := rfl
  have htables : (declaredModule fs).tableTypes = [] := rfl
  have hglobals : (declaredModule fs).globalTypes = [] := rfl
  have helements : (declaredModule fs).elements = [] := rfl
  have hdata : (declaredModule fs).data = [] := rfl
  rw [Module.checkCounts]
  simp only [himports, htables, hglobals, helements, hdata, List.length_nil, Nat.not_lt_zero,
    decide_false, Bool.or_false, hexports, hfunctions, harity, hlocals, List.map_nil,
    List.flatMap_nil, List.nil_append, hsize, hnames, Bool.false_eq_true, if_false]
  rfl

/-- A declared module holds too much if one of its functions has too many parameters. -/
theorem validate_of_arity (hf : f ∈ fs) (hlt : arityLimit < f.params.length) :
    (declaredModule fs).validate = .error .tooMany := by
  have harity : ((declaredModule fs).funcTypes.any fun t =>
      arityLimit < t.params.length || arityLimit < t.results.length) = true := by
    rw [funcTypes_declaredModule, List.any_map, List.any_eq_true]
    exact ⟨f, hf, by simp [hlt]⟩
  -- each of the checks before says the same
  have hcounts : (declaredModule fs).checkCounts = .error .tooMany := by
    simp only [Module.checkCounts, harity, bind, Except.bind, throw, throwThe, MonadExceptOf.throw,
      pure, Except.pure, if_true, ite_self]
  rw [Module.validate, hcounts]
  rfl

/-- A function of the text uses number types only. -/
theorem isSupported_type (f : FuncText) : f.type.isSupported = true := by
  rw [FuncType.isSupported, Bool.and_eq_true, List.all_eq_true, List.all_eq_true]
  constructor
  · intro v hv
    obtain ⟨p, -, rfl⟩ := List.mem_map.1 hv
    rfl
  · intro v hv
    obtain ⟨t, -, rfl⟩ := List.mem_map.1 hv
    rfl

/-- A body that traps has every type. -/
theorem checkFunc_func (n : Module) (f : FuncText) : n.checkFunc f.func = .ok () := by
  have hpop : ∀ ts : List ValType, ts.foldlM Operands.pop { types := [], open_ := true } =
      .ok { types := [], open_ := true } := by
    intro ts
    induction ts with
    | nil => rfl
    | cons t ts ih =>
        rw [List.foldlM_cons]
        exact ih
  have hresults : Operands.popAll { types := [], open_ := true } f.type.results =
      .ok { types := [], open_ := true } := hpop _
  rw [Module.checkFunc]
  show (do
    let o ← Operands.popAll { types := [], open_ := true } f.type.results
    if !o.types.isEmpty then throw .typeMismatch) = (.ok () : Except Invalidity Unit)
  rw [hresults]
  rfl

theorem forM_checkFunc (n : Module) (fs : List FuncText) :
    (fs.map (·.func)).forM n.checkFunc = .ok () := by
  induction fs with
  | nil => rfl
  | cons f fs ih =>
      rw [List.map_cons, List.forM, checkFunc_func]
      exact ih

theorem checkTypes_declaredModule (fs : List FuncText) :
    (declaredModule fs).checkTypes = .ok () := by
  have hfuncTypes : (declaredModule fs).funcTypes.all (·.isSupported) = true := by
    rw [funcTypes_declaredModule, List.all_map, List.all_eq_true]
    exact fun f _ => isSupported_type f
  have htables : (declaredModule fs).tableTypes = [] := rfl
  have hglobalTypes : (declaredModule fs).globalTypes = [] := rfl
  have hglobals : (declaredModule fs).globals = [] := rfl
  have hfuncs : ((declaredModule fs).funcs.all fun f =>
      f.locals.all (·.isSupported) && f.body.all (·.isSupported)) = true := by
    rw [List.all_eq_true]
    intro f hf
    obtain ⟨f, -, rfl⟩ := List.mem_map.1 hf
    rfl
  rw [Module.checkTypes, hfuncTypes, htables, hglobalTypes, hglobals, hfuncs]
  rfl

theorem checkExports_declaredModule (h : (fs.flatMap (·.exports)).Nodup) :
    (declaredModule fs).checkExports = .ok () := by
  have htargets : ((declaredModule fs).exports.any fun e =>
      ((declaredModule fs).externType? e.kind e.index).isNone) = false := by
    rw [List.any_eq_false]
    intro e he
    obtain ⟨hkind, hindex⟩ := exists_of_mem_declaredExports he
    rw [Nat.zero_add] at hindex
    rw [hkind, externType?_declaredModule, List.getElem?_eq_getElem hindex]
    exact Bool.false_ne_true
  rw [Module.checkExports, exportNames_declaredModule, decide_eq_true h, htargets]
  rfl

/-- **A declared module is valid** if no name is exported twice and its text keeps to the
limits. -/
theorem validate_declaredModule {text : String} {bytes : Nat}
    (h : (fs.flatMap (·.exports)).Nodup) (hlimits : (limits bytes).Admit text fs) :
    (declaredModule fs).validate = .ok () := by
  have hfuncs : (declaredModule fs).funcs.forM (declaredModule fs).checkFunc = .ok () :=
    forM_checkFunc _ fs
  rw [Module.validate, checkCounts_declaredModule hlimits, checkTypes_declaredModule]
  simp only [bind, Except.bind, checkExports_declaredModule h, hfuncs]
  rfl

end Text

/-! ## The interpreter -/

open Wasm.Text

variable {f : FuncText} {fs : List FuncText} {text name : String}

/-- The text of a module of functions is parsed as the module that it declares. -/
theorem engine_parse_of_spells (hname : IsWord name) (h : WellNamed fs)
    (htext : Spells text.toList [moduleSexp name fs]) :
    engine.parse text = .ok (.module (declaredModule fs)) := by
  show ((Source.read text).map _).mapError _ = _
  rw [read_of_spells hname h htext]
  rfl

/-- A module that has a function with too many parameters is refused. -/
theorem engine_read_of_arity (hf : f ∈ fs) (hlt : arityLimit < f.params.length) :
    engine.read (.module (declaredModule fs)) = .error Invalidity.tooMany.message := by
  show ((declaredModule fs).validated).mapError _ = _
  rw [Module.validated_of_invalid (validate_of_arity hf hlt)]
  rfl

/-- **The interpreter reads the texts of modules of functions.** -/
theorem engine_readsTexts (bytes : Nat) : engine.ReadsTexts (limits bytes) := by
  intro text name fs hname hnamed htext hlimits
  have hvalid := validate_declaredModule hnamed.nodup_exports hlimits
  have hopen : (Image.module (declaredModule fs)).read = .ok ⟨declaredModule fs, hvalid⟩ :=
    Module.validated_of_validate hvalid
  refine ⟨_, ⟨declaredModule fs, hvalid⟩, engine_parse_of_spells hname hnamed htext,
    engine_read_eq_ok_iff.2 hopen, engine_load_eq_ok_iff.2 hopen,
    ⟨FuncText.type, fun f _ => ⟨rfl, rfl⟩, typedExports_declaredModule fs⟩, rfl, ?_⟩
  -- without imports, segments and a start function nothing stands in the way
  have hinst := engine_links.instantiates (l := engine.host.1) (s := engine.host.2)
    (m := ⟨declaredModule fs, hvalid⟩) fun imp himp => absurd himp List.not_mem_nil
  obtain hok | ⟨reason, htrap⟩ | hendless := hinst
  · exact hok
  · exact absurd htrap (engine_instantiate_ne_trap rfl rfl rfl)
  · exact absurd hendless engine_instantiate_ne_endless

end UnitFoundry.Wasm
