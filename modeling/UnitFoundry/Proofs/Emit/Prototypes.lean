import UnitFoundry.Proofs.Emit.Delimiters
import UnitFoundry.Proofs.Emit.Templates

/-! # Reading declarations

A declaration tells what it declares. Between blanks and opening parentheses stand its words, and
each name and each type is a word or the better part of one, so a declaration is read word by word:
a colon ends the name of an argument, and what ends its type tells whether another one follows. In
the form dialect a declaration does not tell who may call a member, other than everyone.

* **`Emit.words_append`**: the words of two texts put together.
* **`Emit.words_signature`**, **`Emit.words_form`**: the words of a header.
* **`Emit.Prototype.read?`**: the reader of declarations.
* **`Emit.Prototype.read?_lines`**: what is read from a declaration.
* **`Emit.declaration_determines`**: members with the same declaration. -/

namespace UnitFoundry.Emit

/-! ## Words -/

/-- The characters between words: the blank and the opening parenthesis. -/
def separators : List Char := [' ', '(']

/-- The words of a text. -/
def words (s : String) : List String :=
  (s.toList.splitOnP (separators.contains ·)).map String.ofList

/-- The words of two texts put together: the last word of the first text goes on in the second. -/
def joinWords : List String → List String → List String
  | [], vs => vs
  | [u], vs => vs.modifyHead (u ++ ·)
  | u :: u' :: us, vs => u :: joinWords (u' :: us) vs

variable {s t front back : String} {c : Char} {us : List String}

theorem words_of_free (h : Free separators s) : words s = [s] := by
  rw [words, List.splitOnP_eq_singleton fun c hc => ?_, List.map_singleton, String.ofList_toList]
  simpa using h c hc

theorem words_ne_nil (s : String) : words s ≠ [] := by
  rw [words, Ne, List.map_eq_nil_iff]
  exact List.splitOnP_ne_nil _ _

theorem joinWords_empty (vs : List String) : joinWords [""] vs = vs := by
  cases vs with
  | nil => rfl
  | cons v vs => rw [joinWords, List.modifyHead_cons, String.empty_append]

theorem joinWords_cons (h : us ≠ []) (u : String) (vs : List String) :
    joinWords (u :: us) vs = u :: joinWords us vs := by
  cases us with
  | nil => exact absurd rfl h
  | cons u' us => rfl

/-- A text that ends in a separator is followed by new words. -/
theorem joinWords_ended (u : String) (vs : List String) : joinWords [u, ""] vs = u :: vs := by
  rw [joinWords_cons (List.cons_ne_nil _ _), joinWords_empty]

theorem joinWords_modifyHead (h : us ≠ []) (s : String) (vs : List String) :
    joinWords (us.modifyHead (s ++ ·)) vs = (joinWords us vs).modifyHead (s ++ ·) := by
  match us, vs with
  | [], _ => exact absurd rfl h
  | [_], [] => rfl
  | [_], _ :: _ => simp only [List.modifyHead_cons, joinWords, String.append_assoc]
  | _ :: _ :: _, _ => rfl

/-- Words behind a separator are put behind the others. -/
theorem joinWords_behind (u : String) (us vs : List String) :
    joinWords (u :: us) ("" :: vs) = u :: (us ++ vs) := by
  induction us generalizing u with
  | nil => rw [joinWords, List.modifyHead_cons, String.append_empty, List.nil_append]
  | cons u' us ih => rw [joinWords, ih, List.cons_append]

theorem words_ofList_cons (c : Char) (cs : List Char) : words (String.ofList (c :: cs)) =
    if separators.contains c then "" :: words (String.ofList cs)
    else (words (String.ofList cs)).modifyHead (String.singleton c ++ ·) := by
  rw [words, words, String.toList_ofList, String.toList_ofList,
    List.splitOnP_cons_eq_if_modifyHead]
  split
  · rfl
  · cases cs.splitOnP (separators.contains ·) with
    | nil => rfl
    | cons w ws =>
        rw [List.modifyHead_cons, List.map_cons, List.map_cons, List.modifyHead_cons,
          String.ofList_cons]

/-- **The words of two texts put together.** -/
theorem words_append (s t : String) : words (s ++ t) = joinWords (words s) (words t) := by
  have hall : ∀ cs : List Char,
      words (String.ofList (cs ++ t.toList)) = joinWords (words (String.ofList cs)) (words t) := by
    intro cs
    induction cs with
    | nil =>
        have hempty : words (String.ofList []) = [""] := by decide
        rw [List.nil_append, String.ofList_toList, hempty, joinWords_empty]
    | cons c cs ih =>
        have hne := words_ne_nil (String.ofList cs)
        rw [List.cons_append, words_ofList_cons, words_ofList_cons, ih]
        split
        · exact (joinWords_cons hne _ _).symm
        · exact (joinWords_modifyHead hne _ _).symm
  have hwords := hall s.toList
  rwa [String.ofList_append, String.ofList_toList, String.ofList_toList] at hwords

/-- What stands between a front and an end, in a text that has them. -/
def between? (front back s : String) : Option String := do
  let rest ← TemplateLine.after? front.toList s.toList
  let body ← TemplateLine.after? back.toList.reverse rest.reverse
  return String.ofList body.reverse

theorem between?_eq_some_iff : between? front back s = some t ↔ s = front ++ t ++ back := by
  simp only [between?, Option.bind_eq_bind, Option.bind_eq_some_iff, after?_eq_some_iff]
  constructor
  · rintro ⟨rest, hfront, body, hback, h⟩
    obtain rfl := Option.some.inj h
    rw [List.reverse_eq_iff, List.reverse_append, List.reverse_reverse] at hback
    rw [← String.toList_inj, hfront, hback, String.toList_append, String.toList_append,
      String.toList_ofList, List.append_assoc]
  · rintro rfl
    refine ⟨t.toList ++ back.toList, ?_, t.toList.reverse, List.reverse_append, ?_⟩
    · rw [String.toList_append, String.toList_append, List.append_assoc]
    · rw [List.reverse_reverse, String.ofList_toList]
      rfl

theorem between?_end (s back : String) : between? "" back (s ++ back) = some s := by
  rw [between?_eq_some_iff, String.empty_append]

theorem between?_front (front s : String) : between? front "" (front ++ s) = some s := by
  rw [between?_eq_some_iff, String.append_empty]

/-- A text does not have an end with another last character. -/
theorem append_ne (hback : back.toList = [c]) (ht : t.toList.getLast? ≠ some c) :
    s ++ back ≠ t := by
  rintro rfl
  rw [String.toList_append, hback, List.getLast?_concat] at ht
  exact ht rfl

theorem between?_eq_none (hback : back.toList = [c]) (hs : s.toList.getLast? ≠ some c) :
    between? front back s = none := by
  rw [Option.eq_none_iff_forall_ne_some]
  intro t ht
  exact append_ne hback hs (between?_eq_some_iff.1 ht).symm

/-! ## The words of a header -/

/-- The words of arguments. In the braced dialect they end with the parenthesis behind them. -/
def argumentWords : Dialect → List Argument → List String
  | .rust, [] => [")"]
  | .rust, [a] => [a.name ++ ":", a.type.text ++ ")"]
  | .rust, a :: b :: as =>
    (a.name ++ ":") :: (a.type.text ++ ",") :: argumentWords .rust (b :: as)
  | .wat, [] => []
  | .wat, a :: as =>
    "" :: "param" :: ("$" ++ a.name) :: (a.type.text ++ ")") :: argumentWords .wat as

/-- The words of a result. -/
def resultWords : Dialect → Option TypeName → List String
  | _, none => []
  | .rust, some t => ["->", t.text]
  | .wat, some t => ["", "result", t.text ++ ")"]

/-- The words of the name under which a member is provided, if everyone may call it. -/
def exportWords (m : Member) : List String :=
  if m.access = .everyone then ["", "export", "\"" ++ m.name ++ "\")"] else []

variable {m n : Member}

/-- The words of an argument in the braced dialect. -/
theorem words_render {a : Argument} (hname : Free separators a.name)
    (htype : Free separators a.type.text) :
    words (a.render .rust) = [a.name ++ ":", a.type.text] := by
  have hcolon : words ": " = [":", ""] := by decide
  rw [Argument.render]
  simp only [words_append, words_of_free hname, words_of_free htype, hcolon, joinWords,
    List.modifyHead_cons, String.empty_append]

theorem words_arguments : ∀ {as : List Argument},
    (∀ a ∈ as, Free separators a.name ∧ Free separators a.type.text) →
      words (", ".intercalate (as.map (·.render .rust)) ++ ")") = argumentWords .rust as
  | [], _ => by decide
  | [a], h => by
      obtain ⟨hname, htype⟩ := h a List.mem_cons_self
      have hclose : words ")" = [")"] := by decide
      rw [List.map_singleton, String.intercalate_singleton, words_append,
        words_render hname htype, hclose]
      rfl
  | a :: b :: as, h => by
      obtain ⟨⟨hname, htype⟩, hrest⟩ := List.forall_mem_cons.1 h
      have hcomma : words ", " = [",", ""] := by decide
      have hbehind := words_arguments hrest
      rw [List.map_cons] at hbehind
      rw [List.map_cons, List.map_cons, String.intercalate_cons_cons, String.append_assoc,
        String.append_assoc, words_append, words_append, hbehind, words_render hname htype, hcomma,
        joinWords_ended]
      rfl

/-- The words of a result in the braced dialect stand behind a blank. -/
theorem words_resultText (h : m.Free separators) :
    words (match m.returns with | some t => " -> " ++ t.text | none => "") =
      "" :: resultWords .rust m.returns := by
  cases hr : m.returns with
  | none => decide
  | some t =>
      have harrow : words " -> " = ["", "->", ""] := by decide
      simp only [words_append, harrow, words_of_free (h.returns t hr), joinWords,
        List.modifyHead_cons, String.empty_append, resultWords]

/-- **The words of a header in the braced dialect**, from the name on. -/
theorem words_signature (h : m.Free separators) : words m.signature =
    m.name :: (argumentWords .rust m.arguments ++ resultWords .rust m.returns) := by
  have hfront : words (m.name ++ "(" ++ ", ".intercalate (m.arguments.map (·.render .rust)) ++
      ")") = m.name :: argumentWords .rust m.arguments := by
    have hopen : words "(" = ["", ""] := by decide
    rw [String.append_assoc, words_append, words_append, words_of_free h.name, hopen,
      words_arguments h.arguments, joinWords_behind, List.nil_append, joinWords_ended]
  -- by terms, since each match on the result is a function of its own
  calc words m.signature
      = joinWords (m.name :: argumentWords .rust m.arguments)
          ("" :: resultWords .rust m.returns) :=
        (words_append _ _).trans (congrArg₂ joinWords hfront (words_resultText h))
    _ = _ := joinWords_behind _ _ _

/-- The words of parameters stand behind a blank. -/
theorem words_parameters : ∀ {as : List Argument},
    (∀ a ∈ as, Free separators a.name ∧ Free separators a.type.text) →
      words (String.join (as.map fun a => " " ++ a.render .wat)) = "" :: argumentWords .wat as
  | [], _ => by decide
  | a :: as, h => by
      obtain ⟨⟨hname, htype⟩, hrest⟩ := List.forall_mem_cons.1 h
      have hblank : words " " = ["", ""] := by decide
      have hparam : words "(param $" = ["", "param", "$"] := by decide
      have hclose : words ")" = [")"] := by decide
      rw [List.map_cons, String.join_cons, words_append, words_parameters hrest, Argument.render]
      simp only [words_append, hblank, hparam, hclose, words_of_free hname, words_of_free htype,
        joinWords, List.modifyHead_cons, String.empty_append, String.append_empty, argumentWords]

/-- The words of the name under which a member is provided stand behind a blank. -/
theorem words_exportText (h : Free separators m.name) :
    words (if m.access = .everyone then " (export \"" ++ m.name ++ "\")" else "") =
      "" :: exportWords m := by
  have hopen : words " (export \"" = ["", "", "export", "\""] := by decide
  have hclose : words "\")" = ["\")"] := by decide
  rw [exportWords]
  split
  · simp only [words_append, hopen, hclose, words_of_free h, joinWords, List.modifyHead_cons]
  · decide

/-- The words of a result in the form dialect stand behind a blank. -/
theorem words_resultForm (h : m.Free separators) :
    words (match m.returns with | some t => " (result " ++ t.text ++ ")" | none => "") =
      "" :: resultWords .wat m.returns := by
  cases hr : m.returns with
  | none => decide
  | some t =>
      have hopen : words " (result " = ["", "", "result", ""] := by decide
      have hclose : words ")" = [")"] := by decide
      simp only [words_append, hopen, hclose, words_of_free (h.returns t hr), joinWords,
        List.modifyHead_cons, String.empty_append, resultWords]

/-- **The words of a header in the form dialect.** -/
theorem words_form (h : m.Free separators) : words m.form = "" :: "func" :: ("$" ++ m.name) ::
    (exportWords m ++ (argumentWords .wat m.arguments ++ resultWords .wat m.returns)) := by
  have hfront : words ("(func $" ++ m.name) = ["", "func", "$" ++ m.name] := by
    have hfunc : words "(func $" = ["", "func", "$"] := by decide
    rw [words_append, hfunc, words_of_free h.name]
    rfl
  calc words m.form
      = joinWords (joinWords (joinWords ["", "func", "$" ++ m.name] ("" :: exportWords m))
          ("" :: argumentWords .wat m.arguments)) ("" :: resultWords .wat m.returns) := by
        refine (words_append _ _).trans (congrArg₂ joinWords ?_ (words_resultForm h))
        rw [words_append, words_append, hfront, words_exportText h.name,
          words_parameters h.arguments]
    _ = _ := by
        simp only [joinWords_behind, List.cons_append, List.nil_append, List.append_assoc]

/-! ## Reading words -/

/-- What a declaration tells of a member. -/
structure Prototype where
  /-- The name of the member. -/
  name : String
  /-- Who may call it. -/
  access : Access
  /-- The names and types of its arguments, in order. -/
  arguments : List (String × String)
  /-- The type of its result, if it has one. -/
  returns : Option String
deriving DecidableEq, Repr

namespace Prototype

/-- Reads arguments, up to the words behind them. -/
def readArguments : Dialect → List String → Option (List (String × String) × List String)
  | .rust, ")" :: ws => some ([], ws)
  | .rust, name :: type :: ws => do
    let name ← between? "" ":" name
    match between? "" "," type with
    | some type =>
      let (arguments, ws) ← readArguments .rust ws
      return ((name, type) :: arguments, ws)
    | none => return ([(name, ← between? "" ")" type)], ws)
  | .rust, _ => none
  | .wat, "" :: "param" :: name :: type :: ws => do
    let name ← between? "$" "" name
    let type ← between? "" ")" type
    let (arguments, ws) ← readArguments .wat ws
    return ((name, type) :: arguments, ws)
  | .wat, ws => some ([], ws)

/-- Reads a result. -/
def readResult : Dialect → List String → Option (Option String)
  | _, [] => some none
  | .rust, ["->", type] => some (some type)
  | .wat, ["", "result", type] => (between? "" ")" type).map some
  | _, _ => none

/-- Reads what stands behind the name of a member. -/
def readBehind (d : Dialect) (name : String) (access : Access) (ws : List String) :
    Option Prototype := do
  let (arguments, ws) ← readArguments d ws
  return { name, access, arguments, returns := ← readResult d ws }

/-- Reads the words of the lines of a declaration. A form that does not provide its member is read
as one that only its own namespace may call. -/
def readWords : Dialect → List (List String) → Option Prototype
  | .rust, [["#[no_mangle]"], "pub" :: "extern" :: "\"C\"" :: "fn" :: name :: ws] =>
    readBehind .rust name .everyone ws
  | .rust, ["pub" :: "crate)" :: "fn" :: name :: ws] => readBehind .rust name .internal ws
  | .rust, ["fn" :: name :: ws] => readBehind .rust name .own ws
  | .wat, ["" :: "func" :: name :: "" :: "export" :: quoted :: ws] => do
    let name ← between? "$" "" name
    if between? "\"" "\")" quoted = some name then readBehind .wat name .everyone ws else none
  | .wat, ["" :: "func" :: name :: ws] => do readBehind .wat (← between? "$" "" name) .own ws
  | _, _ => none

/-- Reads the lines of a declaration. -/
def read? (d : Dialect) (lines : List String) : Option Prototype :=
  readWords d (lines.map words)

theorem readArguments_braced (ws : List String) : ∀ as : List Argument,
    readArguments .rust (argumentWords .rust as ++ ws) =
      some (as.map fun a => (a.name, a.type.text), ws)
  | [] => by
      rw [argumentWords, List.singleton_append, readArguments]
      rfl
  | [a] => by
      have hname : a.name ++ ":" ≠ ")" := append_ne (c := ':') (by decide) (by decide)
      have hlast : between? "" "," (a.type.text ++ ")") = none := by
        refine between?_eq_none (c := ',') (by decide) ?_
        have hclose : ")".toList = [')'] := by decide
        rw [String.toList_append, hclose, List.getLast?_concat]
        decide
      rw [argumentWords, List.cons_append, List.cons_append, readArguments, between?_end,
        Option.bind_eq_bind, Option.bind_some, hlast, between?_end]
      · rfl
      · exact hname
  | a :: b :: as => by
      have hname : a.name ++ ":" ≠ ")" := append_ne (c := ':') (by decide) (by decide)
      have hrest := readArguments_braced ws (b :: as)
      rw [argumentWords, List.cons_append, List.cons_append, readArguments, between?_end,
        Option.bind_eq_bind, Option.bind_some, between?_end, hrest]
      · rfl
      · exact hname

theorem readArguments_form (r : Option TypeName) : ∀ as : List Argument,
    readArguments .wat (argumentWords .wat as ++ resultWords .wat r) =
      some (as.map fun a => (a.name, a.type.text), resultWords .wat r)
  | [] => by cases r <;> rfl
  | a :: as => by
      have hrest := readArguments_form r as
      simp only [argumentWords, List.cons_append, readArguments, between?_front, between?_end,
        Option.bind_eq_bind, Option.bind_some, hrest]
      rfl

/-- **What stands behind the name of a member is read** as its arguments and its result. -/
theorem readBehind_words (d : Dialect) (name : String) (access : Access) (as : List Argument)
    (r : Option TypeName) :
    readBehind d name access (argumentWords d as ++ resultWords d r) =
      some ⟨name, access, as.map fun a => (a.name, a.type.text), r.map (·.text)⟩ := by
  have harguments : readArguments d (argumentWords d as ++ resultWords d r) =
      some (as.map fun a => (a.name, a.type.text), resultWords d r) := by
    cases d with
    | rust => exact readArguments_braced _ as
    | wat => exact readArguments_form r as
  have hresult : readResult d (resultWords d r) = some (r.map (·.text)) := by
    cases r with
    | none => cases d <;> rfl
    | some t =>
        cases d with
        | rust => rfl
        | wat =>
            rw [resultWords, readResult, between?_end]
            rfl
  rw [readBehind, harguments]
  simp only [Option.bind_eq_bind, Option.bind_some, hresult]
  rfl

end Prototype

/-! ## Reading declarations -/

/-- What a declaration shows of an access. A form shows whether everyone may call the member. -/
def Access.shownIn : Dialect → Access → Access
  | .rust, access => access
  | .wat, .everyone => .everyone
  | .wat, _ => .own

/-- What a declaration of a member tells. -/
def Member.prototype (d : Dialect) (m : Member) : Prototype where
  name := m.name
  access := m.access.shownIn d
  arguments := m.arguments.map fun a => (a.name, a.type.text)
  returns := m.returns.map (·.text)

theorem Prototype.read?_braced (h : m.Free separators) :
    Prototype.read? .rust (m.declaration .rust).lines = some (m.prototype .rust) := by
  have hbehind := fun access =>
    readBehind_words .rust m.name access m.arguments m.returns
  rw [read?, Member.declaration, Member.prototype]
  cases haccess : m.access with
  | everyone =>
      have hmark : words "#[no_mangle]" = ["#[no_mangle]"] := by decide
      have hfront : words "pub extern \"C\" fn " = ["pub", "extern", "\"C\"", "fn", ""] := by decide
      simp only [Declaration.lines, List.cons_append, List.nil_append, List.map_cons, List.map_nil,
        words_append, hmark, hfront, words_signature h, joinWords, List.modifyHead_cons,
        String.empty_append]
      exact hbehind .everyone
  | own =>
      have hfront : words "fn " = ["fn", ""] := by decide
      simp only [Declaration.lines, List.nil_append, List.map_cons, List.map_nil, words_append,
        hfront, words_signature h, joinWords, List.modifyHead_cons, String.empty_append]
      exact hbehind .own
  | internal =>
      have hfront : words "pub(crate) fn " = ["pub", "crate)", "fn", ""] := by decide
      simp only [Declaration.lines, List.nil_append, List.map_cons, List.map_nil, words_append,
        hfront, words_signature h, joinWords, List.modifyHead_cons, String.empty_append]
      exact hbehind .internal

theorem Prototype.read?_form (h : m.Free separators) :
    Prototype.read? .wat (m.declaration .wat).lines = some (m.prototype .wat) := by
  have hbehind := fun access =>
    readBehind_words .wat m.name access m.arguments m.returns
  rw [read?, Member.declaration, Member.prototype]
  simp only [Declaration.lines, List.nil_append, List.map_cons, List.map_nil, words_form h,
    exportWords]
  by_cases haccess : m.access = .everyone
  · have hquoted : between? "\"" "\")" ("\"" ++ m.name ++ "\")") = some m.name :=
      between?_eq_some_iff.2 rfl
    rw [if_pos haccess, haccess]
    simp only [List.cons_append, List.nil_append, readWords, between?_front, Option.bind_eq_bind,
      Option.bind_some, hquoted, if_true]
    exact hbehind .everyone
  · rw [if_neg haccess, List.nil_append, readWords, between?_front, Option.bind_eq_bind,
      Option.bind_some, hbehind]
    · have hshown : m.access.shownIn .wat = .own := by
        cases h : m.access with
        | everyone => exact absurd h haccess
        | own | internal => rfl
      rw [hshown]
    · intro quoted ws
      cases m.arguments <;> cases m.returns <;> simp [argumentWords, resultWords]

/-- **What is read from a declaration** is what it tells of the member, if no name and no type has
a separator. -/
theorem Prototype.read?_lines (d : Dialect) (h : m.Free separators) :
    Prototype.read? d (m.declaration d).lines = some (m.prototype d) := by
  cases d with
  | rust => exact read?_braced h
  | wat => exact read?_form h

/-- A member with what a declaration tells, each type given by its name. -/
def Prototype.member (p : Prototype) : Member where
  name := p.name
  access := p.access
  returns := p.returns.map .named
  arguments := p.arguments.map fun a => ⟨a.1, .named a.2⟩

/-- A declaration depends on nothing but what it tells. -/
theorem declaration_member (d : Dialect) (m : Member) :
    (m.prototype d).member.declaration d = m.declaration d := by
  obtain ⟨name, access, returns, arguments⟩ := m
  cases d with
  | rust =>
      have hsignature : (Member.prototype .rust ⟨name, access, returns, arguments⟩).member.signature
          = Member.signature ⟨name, access, returns, arguments⟩ := by
        simp only [Member.signature, Prototype.member, Member.prototype, List.map_map]
        cases returns <;> rfl
      rw [Member.declaration, hsignature]
      rfl
  | wat =>
      have hshown : access.shownIn .wat = .everyone ↔ access = .everyone := by
        cases access <;> decide
      have hform : (Member.prototype .wat ⟨name, access, returns, arguments⟩).member.form
          = Member.form ⟨name, access, returns, arguments⟩ := by
        simp only [Member.form, Prototype.member, Member.prototype, List.map_map, hshown]
        cases returns <;> rfl
      rw [Member.declaration, hform]
      rfl

/-- **A declaration determines what it declares**, as long as no name and no type has a blank or an
opening parenthesis; they may be empty. Two members have the same declaration in the braced dialect
exactly if their names, their access, the names and types of their arguments in order and the types
of their results are the same, where types are compared by their texts. In the form dialect, of the
access it only matters whether everyone may call them. All this is read back from the lines of a
declaration. -/
theorem declaration_determines (hm : m.Free separators) (hn : n.Free separators) :
    ((m.declaration .rust).lines = (n.declaration .rust).lines ↔
      m.name = n.name ∧ m.access = n.access ∧
        (m.arguments.map fun a => (a.name, a.type.text)) =
          (n.arguments.map fun a => (a.name, a.type.text)) ∧
        m.returns.map (·.text) = n.returns.map (·.text)) ∧
    ((m.declaration .wat).lines = (n.declaration .wat).lines ↔
      m.name = n.name ∧ (m.access = .everyone ↔ n.access = .everyone) ∧
        (m.arguments.map fun a => (a.name, a.type.text)) =
          (n.arguments.map fun a => (a.name, a.type.text)) ∧
        m.returns.map (·.text) = n.returns.map (·.text)) ∧
    ∀ d, Prototype.read? d (m.declaration d).lines = some (m.prototype d) := by
  have hiff : ∀ d, (m.declaration d).lines = (n.declaration d).lines ↔
      m.prototype d = n.prototype d := by
    intro d
    refine ⟨fun h => ?_, fun h => ?_⟩
    · have hread := congrArg (Prototype.read? d) h
      rw [Prototype.read?_lines d hm, Prototype.read?_lines d hn] at hread
      exact Option.some.inj hread
    · rw [← declaration_member d m, h, declaration_member]
  have hshown : m.access.shownIn .wat = n.access.shownIn .wat ↔
      (m.access = .everyone ↔ n.access = .everyone) := by
    cases m.access <;> cases n.access <;> decide
  refine ⟨?_, ?_, fun d => Prototype.read?_lines d hm⟩
  · rw [hiff, Member.prototype, Member.prototype, Prototype.mk.injEq]
    rfl
  · rw [hiff, Member.prototype, Member.prototype, Prototype.mk.injEq, hshown]

/-- A member whose names and types are words of declarations. -/
def wordyMember (access : Access) : Member :=
  { name := "func", access, returns := some (.named "->"),
    arguments := [⟨"param", .named "result"⟩, ⟨"fn", .value .i64⟩] }

/-- Its declarations are told apart by who may call it in the braced dialect, but not in the form
dialect. -/
theorem declaration_determines_wordy :
    (wordyMember .internal).Free separators ∧ (wordyMember .own).Free separators ∧
    ((wordyMember .internal).declaration .rust).lines ≠
      ((wordyMember .own).declaration .rust).lines ∧
    ((wordyMember .internal).declaration .wat).lines =
      ((wordyMember .own).declaration .wat).lines ∧
    Prototype.read? .rust ["pub(crate) fn func(param: result, fn: i64) -> ->"] =
      some ⟨"func", .internal, [("param", "result"), ("fn", "i64")], some "->"⟩ := by
  have hinternal : (wordyMember .internal).Free separators := by decide
  have hown : (wordyMember .own).Free separators := by decide
  obtain ⟨hrust, hwat, hread⟩ := declaration_determines hinternal hown
  have hlines : ((wordyMember .internal).declaration .rust).lines =
      ["pub(crate) fn func(param: result, fn: i64) -> ->"] := by decide
  refine ⟨hinternal, hown, fun h => ?_, hwat.2 ⟨rfl, by decide, rfl, rfl⟩, ?_⟩
  · exact absurd (hrust.1 h).2.1 (by decide)
  · rw [← hlines, hread .rust]
    rfl

end UnitFoundry.Emit
