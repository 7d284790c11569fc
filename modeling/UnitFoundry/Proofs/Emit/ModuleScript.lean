import UnitFoundry.Proofs.Emit.Trees
import UnitFoundry.Proofs.Wasm.Spelling

/-! # Scripts of modules

A module is scripted by a namespace with one guarded block for each member. In the form dialect the
script writes one form, whose items can be told from the members: each is a function with the names
and the types of its member, and a body that traps.

* **`Emit.Member.IsDeclarable`**: what is asked of the names and the types of a member.
* **`Emit.Member.funcText`**: the function that a member declares.
* **`Emit.build_moduleScript`**: the text that the script builds.
* **`Emit.spells_moduleText`**: the text spells a module of the functions that members declare. -/

namespace UnitFoundry.Emit

open Wasm.Text

/-! ## Members with number types -/

/-- The number type that a type in a declaration stands for, if it is one. -/
def TypeName.numType? : TypeName → Option Wasm.NumType
  | .value t => some t
  | .named _ => none

/-- The function that a member declares. -/
def Member.funcText (m : Member) : FuncText where
  id := m.name
  exports := if m.access = .everyone then [m.name] else []
  params := m.arguments.filterMap fun a => a.type.numType?.map (a.name, ·)
  results := (m.returns.bind (·.numType?)).toList

/-- Whether a member can be declared in the form dialect: its name can be an identifier and a
string, its arguments have names that can be identifiers and tell them apart, and all types are
number types. -/
structure Member.IsDeclarable (m : Member) : Prop where
  /-- The name can be an identifier. -/
  name : IsWord m.name
  /-- The name stands for itself in a string. -/
  unescaped : '\\' ∉ m.name.toList
  /-- The names of the arguments can be identifiers. -/
  names : ∀ a ∈ m.arguments, IsWord a.name
  /-- The names of the arguments are distinct. -/
  nodup : (m.arguments.map (·.name)).Nodup
  /-- The arguments are numbers. -/
  arguments : ∀ a ∈ m.arguments, ∃ t, a.type = .value t
  /-- The result is a number. -/
  returns : ∀ t ∈ m.returns, ∃ n, t = .value n

/-- What members export are the names of those that everyone may call. -/
theorem flatMap_exports_funcTexts (members : List Member) :
    (members.map (·.funcText)).flatMap (·.exports) =
      (members.filter (·.access = .everyone)).map (·.name) := by
  induction members with
  | nil => rfl
  | cons m members ih =>
      rw [List.map_cons, List.flatMap_cons, ih, Member.funcText]
      by_cases haccess : m.access = .everyone <;> simp [haccess]

namespace Member.IsDeclarable

variable {m : Member}

/-- The parameters are the arguments. -/
theorem arguments_eq (h : m.IsDeclarable) :
    m.arguments = m.funcText.params.map fun p => ⟨p.1, .value p.2⟩ := by
  have harguments := h.arguments
  rw [funcText]
  generalize m.arguments = as at harguments
  induction as with
  | nil => rfl
  | cons a as ih =>
      obtain ⟨⟨name, type⟩, hrest⟩ := a, ih fun b hb => harguments b (List.mem_cons_of_mem _ hb)
      obtain ⟨t, rfl⟩ := harguments _ List.mem_cons_self
      exact congrArg _ hrest

/-- The result is what the member returns. -/
theorem returns_eq (h : m.IsDeclarable) :
    m.returns.toList = m.funcText.results.map .value := by
  rw [funcText]
  cases hreturns : m.returns with
  | none => rfl
  | some t =>
      obtain ⟨n, rfl⟩ := h.returns t hreturns
      rfl

end Member.IsDeclarable

/-- Members that can be declared and have distinct names make up a module. -/
theorem wellNamed_funcTexts {members : List Member} (h : ∀ m ∈ members, m.IsDeclarable)
    (hnodup : (members.map (·.name)).Nodup) : WellNamed (members.map (·.funcText)) where
  isWord_id := by
    rw [List.forall_mem_map]
    exact fun m hm => (h m hm).name
  isWord_param := by
    rw [List.forall_mem_map]
    intro m hm p hp
    have hnames := (h m hm).names
    rw [(h m hm).arguments_eq, List.forall_mem_map] at hnames
    exact hnames p hp
  nodup_ids := by
    rw [List.map_map]
    exact hnodup
  nodup_params := by
    rw [List.forall_mem_map]
    intro m hm
    have hnodup := (h m hm).nodup
    rw [(h m hm).arguments_eq, List.map_map] at hnodup
    exact hnodup
  nodup_exports := by
    rw [flatMap_exports_funcTexts]
    exact hnodup.sublist (List.filter_sublist.map _)

/-! ## The script and its text -/

/-- The step that writes a member with a body that traps. -/
def Member.step (closes : Member → Bool) (m : Member) : Step :=
  .guarded (.member m) "" [.act (.line "unreachable") false] (closes m) false

/-- The script of a module. Each guard is closed by hand or dropped. -/
def moduleScript (name : String) (members : List Member) (closes : Member → Bool) : List Step :=
  .act (.startNamespace name) false ::
    (members.map (·.step closes) ++ [.act (.finish "") true])

/-- The text of a member in a module, with a body that traps. -/
def Member.text (m : Member) : String :=
  Tree.row 1 m.form ++ Tree.row 2 "unreachable" ++ Tree.row 1 ")" ++ "\n"

/-- The text of members, one after another. -/
def membersText (members : List Member) : String :=
  String.join (members.map (·.text))

@[simp] theorem membersText_nil : membersText [] = "" := rfl

theorem membersText_cons (m : Member) (members : List Member) :
    membersText (m :: members) = m.text ++ membersText members := by
  rw [membersText, List.map_cons, String.join_cons, membersText]

/-- The text of a module. -/
def moduleText (name : String) (members : List Member) : String :=
  Tree.row 0 ("(module $" ++ name) ++ membersText members ++ Tree.row 0 ")" ++ "\n"

variable {w : Writer} {members : List Member} {m : Member} {name : String}

/-- The script of a member writes its text. -/
theorem Member.runs_step (strict : Bool) (closes : Member → Bool) (m : Member)
    (hd : w.dialect = .wat) (hlevel : w.level = 1) :
    Runs strict w [m.step closes] { w with text := w.text ++ m.text } := by
  refine Runs.guarded (Runs.line strict _ "unreachable" false) rfl ?_
  obtain ⟨d, text, blocks⟩ := w
  obtain rfl : d = .wat := hd
  have hlength : blocks.length = 1 := hlevel
  simp only [Opening.apply, Member.declaration, List.foldl_nil, Writer.openUnder, Writer.openBlock,
    Dialect.openDelimiter?, Writer.line, Writer.blank, Writer.finish, Writer.level,
    Writer.indentation, Dialect.closeDelimiter, List.length_cons, hlength, Member.text, Tree.row,
    String.append_empty, String.append_assoc]

theorem runs_steps (strict : Bool) (closes : Member → Bool) (members : List Member)
    (hd : w.dialect = .wat) (hlevel : w.level = 1) :
    Runs strict w (members.map (·.step closes))
      { w with text := w.text ++ membersText members } := by
  induction members generalizing w with
  | nil =>
      rw [membersText_nil, String.append_empty]
      exact .nil strict w
  | cons m members ih =>
      have hrest := ih (w := { w with text := w.text ++ m.text }) hd hlevel
      rw [membersText_cons, ← String.append_assoc]
      exact (m.runs_step strict closes hd hlevel).cons hrest

/-- **The script of a module builds its text.** -/
theorem build_moduleScript (name : String) (members : List Member) (closes : Member → Bool) :
    build .wat (moduleScript name members closes) = (.ok (moduleText name members), []) := by
  have hstart : Runs true { dialect := .wat } [.act (.startNamespace name) false]
      (Writer.startNamespace { dialect := .wat } name) :=
    .of_run fun _ hw hs => ⟨hw ▸ rfl, hs, rfl⟩
  have hfinish : Writer.finish
      { dialect := .wat, text := Tree.row 0 ("(module $" ++ name) ++ membersText members,
        openBlocks := ["(module $" ++ name] } "" =
      .ok { dialect := .wat, text := moduleText name members } := by
    simp only [Writer.finish, Writer.line, Writer.blank, Writer.level, Writer.indentation,
      Dialect.closeDelimiter, List.length_nil, moduleText, Tree.row, String.append_empty,
      String.append_assoc]
  have hsteps :=
    runs_steps true closes members (w := Writer.startNamespace { dialect := .wat } name) rfl rfl
  have hruns := hstart.cons (hsteps.append (Runs.finish true hfinish true))
  obtain ⟨hwriter, hleft, hwarnings⟩ := hruns { writer := { dialect := .wat } } rfl rfl
  rw [build, runScript, moduleScript]
  simp only [hwriter, hleft, hwarnings]
  rfl

/-! ## The form that the text spells -/

/-- The names of number types are words. -/
theorem isWord_name (t : Wasm.NumType) : IsWord t.name := by
  cases t <;> decide

/-- A word after a blank. -/
theorem spells_word {s : String} (h : IsWord s) : Spells (" " ++ s).toList [.word s] := by
  rw [String.toList_append]
  exact .word (by decide) h

/-- A blank and a word with a dollar sign. -/
theorem spells_identifier {s : String} (h : IsWord s) :
    Spells (" $" ++ s).toList [.word ("$" ++ s)] := by
  have hword := h.cons (c := '$') (by decide)
  have hlist : (" $" ++ s).toList = ' ' :: ("$" ++ s).toList := by
    rw [String.toList_append, String.toList_append]
    rfl
  rw [hlist]
  exact .word (by decide) hword

theorem spells_append {s t : String} {xs ys : List Sexp} (h : Spells s.toList xs)
    (h' : Spells t.toList ys) : Spells (s ++ t).toList (xs ++ ys) := by
  rw [String.toList_append]
  exact h.append h'

/-- A text that spells nothing may stand in front. -/
theorem spells_blanks {s t : String} {xs : List Sexp} (hs : s.toList.all isSeparator = true)
    (h : Spells t.toList xs) : Spells (s ++ t).toList xs :=
  spells_append (.separators hs) h

/-- A form between its parentheses. -/
theorem spells_form {k s : String} {xs : List Sexp} (hk : IsWord k)
    (hnote : k.toList.head? ≠ some '@') (h : Spells s.toList xs) :
    Spells ("(" ++ (k ++ (s ++ ")"))).toList [.form (.word k :: xs)] := by
  simp only [String.toList_append]
  exact .form hk hnote h

/-- An argument in a declaration. -/
theorem spells_argument {name : String} (hname : IsWord name) (t : Wasm.NumType) :
    Spells (" " ++ Argument.render ⟨name, .value t⟩ .wat).toList [paramSexp (name, t)] := by
  have htext : Argument.render ⟨name, .value t⟩ .wat =
      "(" ++ ("param" ++ ((" $" ++ name ++ (" " ++ t.name)) ++ ")")) := by
    simp only [Argument.render, TypeName.text, String.append_assoc]
    rfl
  have hinner : Spells (" $" ++ name ++ (" " ++ t.name)).toList
      [.word ("$" ++ name), .word t.name] :=
    spells_append (spells_identifier hname) (spells_word (isWord_name t))
  rw [htext]
  exact spells_blanks (by decide) (spells_form (by decide) (by decide) hinner)

/-- The arguments in a declaration. -/
theorem spells_arguments {ps : List (String × Wasm.NumType)} (hnames : ∀ p ∈ ps, IsWord p.1) :
    Spells (String.join (ps.map fun p => " " ++ Argument.render ⟨p.1, .value p.2⟩ .wat)).toList
      (ps.map paramSexp) := by
  induction ps with
  | nil => exact .nil
  | cons p ps ih =>
      rw [List.map_cons, List.map_cons, String.join_cons]
      exact spells_append (spells_argument (hnames p List.mem_cons_self) p.2)
        (ih fun q hq => hnames q (List.mem_cons_of_mem _ hq))

/-- A character of a name stands for itself in a string, unless it is a backslash. -/
theorem isPlain_of_isWordChar {c : Char} (hc : isWordChar c = true) (hescape : c ≠ '\\') :
    IsPlain c := by
  refine ⟨ne_of_isWordChar hc (by decide), hescape, ?_⟩
  simp only [isWordChar, Bool.and_eq_true, decide_eq_true_eq] at hc
  simp only [isConfusing, Bool.or_eq_true, decide_eq_true_eq, List.contains_iff_mem,
    List.mem_cons, List.not_mem_nil, or_false]
  omega

namespace Member

/-- The name under which a member is provided, in its declaration. -/
def exportText (m : Member) : String :=
  if m.access = .everyone then " (export \"" ++ m.name ++ "\")" else ""

/-- The result of a member in its declaration. -/
def resultText (m : Member) : String :=
  match m.returns with
  | some t => " (result " ++ t.text ++ ")"
  | none => ""

/-- The declaration of a member after its name. -/
def clausesText (m : Member) : String :=
  m.exportText ++ (String.join (m.arguments.map fun a => " " ++ a.render .wat) ++ m.resultText)

theorem form_eq (m : Member) : m.form = "(" ++ ("func" ++ (" $" ++ m.name ++ m.clausesText)) := by
  simp only [form, clausesText, exportText, resultText, String.append_assoc]
  rfl

theorem spells_exportText (h : m.IsDeclarable) :
    Spells m.exportText.toList (m.funcText.exports.map exportSexp) := by
  rw [exportText, funcText]
  split
  · have hplain : ∀ c ∈ m.name.toList, IsPlain c := fun c hc =>
      isPlain_of_isWordChar (h.name.2 c hc) fun heq => h.unescaped (heq ▸ hc)
    have hname : Spells (" \"" ++ (m.name ++ "\"")).toList [.text (bytesOf m.name.toList)] := by
      rw [String.toList_append, String.toList_append]
      exact .text (by decide) hplain
    have htext : " (export \"" ++ m.name ++ "\")" =
        " " ++ ("(" ++ ("export" ++ ((" \"" ++ (m.name ++ "\"")) ++ ")"))) := by
      simp only [String.append_assoc]
      rfl
    rw [htext]
    exact spells_blanks (by decide) (spells_form (by decide) (by decide) hname)
  · exact .nil

theorem spells_argumentTexts (h : m.IsDeclarable) :
    Spells (String.join (m.arguments.map fun a => " " ++ a.render .wat)).toList
      (m.funcText.params.map paramSexp) := by
  have hnames := h.names
  rw [h.arguments_eq] at hnames ⊢
  rw [List.forall_mem_map] at hnames
  rw [List.map_map]
  exact spells_arguments hnames

theorem spells_resultText (h : m.IsDeclarable) :
    Spells m.resultText.toList (m.funcText.results.map resultSexp) := by
  rw [resultText, funcText]
  cases hreturns : m.returns with
  | none => exact .nil
  | some t =>
      obtain ⟨n, rfl⟩ := h.returns t hreturns
      have htext : " (result " ++ TypeName.text (.value n) ++ ")" =
          " " ++ ("(" ++ ("result" ++ ((" " ++ n.name) ++ ")"))) := by
        simp only [TypeName.text, String.append_assoc]
        rfl
      show Spells (" (result " ++ TypeName.text (.value n) ++ ")").toList [resultSexp n]
      rw [htext]
      exact spells_blanks (by decide)
        (spells_form (by decide) (by decide) (spells_word (isWord_name n)))

/-- **The text of a member spells the function that it declares.** -/
theorem spells_text (h : m.IsDeclarable) : Spells m.text.toList [m.funcText.sexp] := by
  have hclauses : Spells m.clausesText.toList m.funcText.clauses :=
    spells_append (spells_exportText h)
      (spells_append (spells_argumentTexts h) (spells_resultText h))
  have hbody : Spells ("\n       " ++ (" " ++ "unreachable" ++ "\n    ")).toList
      [.word "unreachable"] :=
    spells_blanks (by decide) (spells_append (spells_word (by decide)) (.separators (by decide)))
  have htext : m.text = "    " ++ ("(" ++ ("func" ++ ((" $" ++ m.name ++ (m.clausesText ++
      ("\n       " ++ (" " ++ "unreachable" ++ "\n    ")))) ++ ")"))) ++ "\n\n" := by
    simp only [text, Tree.row, form_eq, String.append_assoc]
    rfl
  rw [htext]
  exact spells_append (spells_blanks (by decide) (spells_form (by decide) (by decide)
    (spells_append (spells_identifier h.name) (spells_append hclauses hbody))))
    (.separators (by decide))

end Member

/-- The texts of members spell the functions that these declare. -/
theorem spells_membersText (hmembers : ∀ m ∈ members, m.IsDeclarable) :
    Spells (membersText members).toList ((members.map (·.funcText)).map (·.sexp)) := by
  induction members with
  | nil => exact .nil
  | cons m members ih =>
      rw [membersText_cons, List.map_cons, List.map_cons]
      exact spells_append (Member.spells_text (hmembers m List.mem_cons_self))
        (ih fun m' hm' => hmembers m' (List.mem_cons_of_mem _ hm'))

/-- **The text of a module spells one form**, of the functions that the members declare. -/
theorem spells_moduleText {name : String} (hname : IsWord name)
    (hmembers : ∀ m ∈ members, m.IsDeclarable) :
    Spells (moduleText name members).toList [moduleSexp name (members.map (·.funcText))] := by
  have hinner : Spells (" $" ++ name ++ ("\n" ++ membersText members)).toList
      (.word ("$" ++ name) :: (members.map (·.funcText)).map (·.sexp)) :=
    spells_append (spells_identifier hname)
      (spells_blanks (by decide) (spells_membersText hmembers))
  have htext : moduleText name members =
      "(" ++ ("module" ++ ((" $" ++ name ++ ("\n" ++ membersText members)) ++ ")")) ++ "\n\n" := by
    simp only [moduleText, Tree.row, String.append_assoc]
    rfl
  rw [htext]
  exact spells_append (spells_form (by decide) (by decide) hinner) (.separators (by decide))

end UnitFoundry.Emit
