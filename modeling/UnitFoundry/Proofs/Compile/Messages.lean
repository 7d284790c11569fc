import Mathlib.Data.List.Permutation
import UnitFoundry.Compile.Message
import UnitFoundry.Json.Printer
import UnitFoundry.Proofs.Json.Reading
import UnitFoundry.Proofs.Text.Lines

/-! # Messages between other lines

What the diagnostics of a compiler's output are, whatever way its messages are written and whatever
else it writes.

* **`CompilerMessage.IsWrittenOn`**: the lines that hold a message, in terms of the grammar.
* **`CompilerMessage.exists_isWrittenOn`**: every message can be written on a line.
* **`CompilerMessage.IsNoise`**: the lines that hold none.
* **`CompilerMessage.ofJson?_of_writesObject`**: an object that a message is written as reads as
  the message.
* **`CompilerMessage.parseDiagnostics_of_isOutput`**: the diagnostics of an output are those of its
  messages, in order. -/

namespace UnitFoundry.CompilerMessage

variable {m : CompilerMessage} {members extra : List (Option String × Json.Value)}
  {names : List String} {key : String} {line : List Char}

/-! ## How messages are written -/

/-- Members with keys that have a text and are not among `names`. -/
def OtherKeys (names : List String) (members : List (Option String × Json.Value)) : Prop :=
  ∀ p ∈ members, ∃ key, p.1 = some key ∧ key ∉ names

/-- A member that may be missing. -/
def optionalMember (key : String) (j : Option Json.Value) : List (Option String × Json.Value) :=
  j.toList.map fun j => (some key, j)

/-- How the kind of a message is written. A diagnostic need not say that it is one. -/
inductive WritesType : Option String → Option Json.Value → Prop where
  /-- It is missing. -/
  | absent : WritesType none none
  /-- It is null. -/
  | null : WritesType none (some .null)
  /-- It says that the message is a diagnostic. -/
  | diagnostic : WritesType (some "diagnostic") (some (.ofText "diagnostic"))

/-- How the code of a message is written. -/
inductive WritesCode : Option String → Option Json.Value → Prop where
  /-- It is missing. -/
  | absent : WritesCode none none
  /-- It is null. -/
  | null : WritesCode none (some .null)
  /-- It is an object with the code and other members, in any order. -/
  | object {code : String} {members others : List (Option String × Json.Value)} :
    OtherKeys ["code"] others → members.Perm ((some "code", .ofText code) :: others) →
    WritesCode (some code) (some (.object members))

/-- The members of an object that a message is written as: those of the message and others, in any
order. -/
inductive WritesObject (m : CompilerMessage) (members : List (Option String × Json.Value)) :
    Prop where
  /-- The members. -/
  | fields {type code : Option Json.Value} {others : List (Option String × Json.Value)} :
    WritesType m.type type → WritesCode m.code code →
    OtherKeys ["$message_type", "message", "level", "code"] others →
    members.Perm ((some "message", .ofText m.message) :: (some "level", .ofText m.level) ::
      optionalMember "$message_type" type ++ optionalMember "code" code ++ others) →
    WritesObject m members

/-- A line that holds an object that the message is written as, and blanks around it. -/
def IsWrittenOn (m : CompilerMessage) (line : List Char) : Prop :=
  ∃ members, WritesObject m members ∧ Json.Holds Text.isBlank (.object members) line

/-- A line that holds no diagnostic. -/
inductive IsNoise (line : List Char) : Prop where
  /-- What stands between the blanks at its ends is not JSON. -/
  | notJson : (∀ v, ¬Json.Holds Text.isBlank v line) → IsNoise line
  /-- The object on it is a message of another kind. -/
  | otherType {members : List (Option String × Json.Value)} {j : Json.Value} :
    Json.Holds Text.isBlank (.object members) line → (some "$message_type", j) ∈ members →
    j ≠ .null → j.text? ≠ some "diagnostic" → IsNoise line
  /-- The object on it lacks a field. -/
  | lacksField {members : List (Option String × Json.Value)} {key : String} :
    Json.Holds Text.isBlank (.object members) line → key = "message" ∨ key = "level" →
    (∀ j, (some key, j) ∉ members) → IsNoise line

/-- The lines of an output, and the messages on them. -/
inductive IsOutput : List CompilerMessage → List (List Char) → Prop where
  /-- Nothing. -/
  | nil : IsOutput [] []
  /-- A message, and what follows it. -/
  | message {m : CompilerMessage} {line : List Char} {ms : List CompilerMessage}
    {ls : List (List Char)} : m.IsWrittenOn line → '\n' ∉ line → IsOutput ms ls →
    IsOutput (m :: ms) (line :: ls)
  /-- A line that is no message, and what follows it. -/
  | noise {line : List Char} {ms : List CompilerMessage} {ls : List (List Char)} :
    IsNoise line → '\n' ∉ line → IsOutput ms ls → IsOutput ms (line :: ls)

theorem IsOutput.not_mem_newline {ms : List CompilerMessage} {ls : List (List Char)}
    (h : IsOutput ms ls) : ∀ l ∈ ls, '\n' ∉ l := by
  induction h with
  | nil => exact List.forall_mem_nil _
  | message _ hline _ ih | noise _ hline _ ih => exact List.forall_mem_cons.2 ⟨hline, ih⟩

theorem forall_mem_optionalMember {j : Option Json.Value} (h : ∀ v ∈ j, v.HasLine) :
    ∀ p ∈ optionalMember key j, (∃ key, p.1 = some key) ∧ p.2.HasLine := by
  cases j with
  | none => exact List.forall_mem_nil _
  | some v => exact List.forall_mem_singleton.2 ⟨⟨key, rfl⟩, h v rfl⟩

/-- **Every diagnostic can be written on a line.** -/
theorem exists_isWrittenOn (h : m.isDiagnostic = true) :
    ∃ line, '\n' ∉ line ∧ m.IsWrittenOn line := by
  have htype : ∃ j, WritesType m.type j ∧ ∀ v ∈ j, v.HasLine := by
    rw [isDiagnostic] at h
    cases heq : m.type with
    | none => exact ⟨none, .absent, by simp⟩
    | some t =>
        rw [heq] at h
        obtain rfl := of_decide_eq_true h
        exact ⟨_, .diagnostic, by simpa using Json.hasLine_ofText "diagnostic"⟩
  have hcode : ∃ j, WritesCode m.code j ∧ ∀ v ∈ j, v.HasLine := by
    cases m.code with
    | none => exact ⟨none, .absent, by simp⟩
    | some c =>
        have hobject : (Json.Value.object [(some "code", .ofText c)]).HasLine :=
          Json.hasLine_object (List.cons_ne_nil _ _) (by simpa using Json.hasLine_ofText c)
        exact ⟨_, .object (List.forall_mem_nil _) (List.Perm.refl _), by simpa using hobject⟩
  obtain ⟨type, htype, htypeLine⟩ := htype
  obtain ⟨code, hcode, hcodeLine⟩ := hcode
  have hwrites := WritesObject.fields htype hcode (List.forall_mem_nil _) (List.Perm.refl _)
  have hmembers : ∀ p ∈ (some "message", Json.Value.ofText m.message) ::
      (some "level", Json.Value.ofText m.level) :: optionalMember "$message_type" type ++
        optionalMember "code" code ++ [], (∃ key, p.1 = some key) ∧ p.2.HasLine := by
    rw [List.append_nil]
    refine List.forall_mem_append.2 ⟨List.forall_mem_cons.2 ⟨⟨⟨_, rfl⟩, Json.hasLine_ofText _⟩,
      List.forall_mem_cons.2 ⟨⟨⟨_, rfl⟩, Json.hasLine_ofText _⟩, ?_⟩⟩, ?_⟩
    · exact forall_mem_optionalMember htypeLine
    · exact forall_mem_optionalMember hcodeLine
  obtain ⟨line, hline, hnewline⟩ := Json.hasLine_object (List.cons_ne_nil _ _) hmembers
  exact ⟨line, hnewline, _, hwrites, hline.holds _⟩

/-! ## Looking up a field -/

/-- The order of the members does not matter. -/
theorem field?_perm {members' : List (Option String × Json.Value)}
    (h : members.Perm members') (key : String) : field? members key = field? members' key := by
  have hfilter := h.filter (·.1 = some key)
  rw [field?, field?]
  generalize members.filter (·.1 = some key) = found at hfilter ⊢
  generalize members'.filter (·.1 = some key) = found' at hfilter ⊢
  rcases found' with _ | ⟨p, _ | ⟨q, rest⟩⟩
  · rw [hfilter.eq_nil]
  · rw [List.perm_singleton.1 hfilter]
  · -- a second member makes the lookup fail, whichever of them comes first
    have hlength := hfilter.length_eq
    rcases found with _ | ⟨p', _ | ⟨q', rest'⟩⟩
    · exact absurd hlength (by simp)
    · exact absurd hlength (by simp)
    · rfl

/-- Members with other keys do not matter. -/
theorem field?_append (hextra : OtherKeys names extra) (hkey : key ∈ names) :
    field? (members ++ extra) key = field? members key := by
  have hnone : extra.filter (·.1 = some key) = [] := by
    refine List.filter_eq_nil_iff.2 fun p hp => ?_
    obtain ⟨other, hother, hnot⟩ := hextra p hp
    rw [hother, decide_eq_true_iff, Option.some.injEq]
    rintro rfl
    exact hnot hkey
  rw [field?, List.filter_append, hnone, List.append_nil, field?]

/-- What is found under a key is the only member with the key. -/
theorem mem_iff_of_field? {found : Option Json.Value} (h : field? members key = some found)
    (j : Json.Value) : (some key, j) ∈ members ↔ found = some j := by
  have hmem : (some key, j) ∈ members ↔ (some key, j) ∈ members.filter (·.1 = some key) := by
    simp [List.mem_filter]
  rw [hmem]
  rw [field?] at h
  split at h
  · rename_i hnone
    cases h
    simp [hnone]
  · rename_i k j' hone
    cases h
    -- the filter has kept a member for its key
    have hkey : k = some key := by
      have hk : (k, j') ∈ members.filter (·.1 = some key) := hone ▸ List.mem_singleton_self _
      simpa using (List.mem_filter.1 hk).2
    simp [hone, hkey, eq_comm]
  · cases h

theorem OtherKeys.any_isNone (h : OtherKeys names extra) :
    extra.any (·.1.isNone) = false := by
  refine List.any_eq_false.2 fun p hp => ?_
  obtain ⟨key, hkey, -⟩ := h p hp
  simp [hkey]

/-! ## Reading an object -/

/-- What the members of an object are for a message to be read from it. -/
structure ReadsFrom (m : CompilerMessage) (members : List (Option String × Json.Value)) :
    Prop where
  /-- Every key has a text. -/
  keys : members.any (·.1.isNone) = false
  /-- The kind of message may be null, or missing. -/
  type : ((field? members "$message_type").bind fun j => readOptional? (j.getD .null)) = some m.type
  /-- The message is there. -/
  message : ((field? members "message").bind fun j => j.bind (·.text?)) = some m.message
  /-- So is the level. -/
  level : ((field? members "level").bind fun j => j.bind (·.text?)) = some m.level
  /-- The code may be null, or missing. -/
  code : ((field? members "code").bind fun j => readOptionalCode? (j.getD .null)) = some m.code

/-- A message is read from an object field by field. -/
theorem ofJson?_object_eq_some_iff : ofJson? (.object members) = some m ↔ ReadsFrom m members := by
  obtain ⟨type, message, level, code⟩ := m
  rw [ofJson?]
  by_cases hkeys : members.any (·.1.isNone) = true
  · rw [if_pos hkeys]
    exact ⟨fun h => (by simp at h), fun h => (by simp [h.keys] at hkeys)⟩
  · rw [if_neg hkeys]
    simp only [Option.pure_def, Option.bind_eq_bind, Option.bind_eq_some_iff, Option.some.injEq,
      CompilerMessage.mk.injEq]
    constructor
    · rintro ⟨t, ht, _, htype, w, hw, _, hmessage, l, hl, _, hlevel, c, hc, _, hcode, rfl, rfl, rfl,
        rfl⟩
      exact ⟨Bool.eq_false_iff.2 hkeys, Option.bind_eq_some_iff.2 ⟨t, ht, htype⟩,
        Option.bind_eq_some_iff.2 ⟨w, hw, Option.bind_eq_some_iff.2 hmessage⟩,
        Option.bind_eq_some_iff.2 ⟨l, hl, Option.bind_eq_some_iff.2 hlevel⟩,
        Option.bind_eq_some_iff.2 ⟨c, hc, hcode⟩⟩
    · intro h
      obtain ⟨t, ht, htype⟩ := Option.bind_eq_some_iff.1 h.type
      obtain ⟨w, hw, hmessage⟩ := Option.bind_eq_some_iff.1 h.message
      obtain ⟨l, hl, hlevel⟩ := Option.bind_eq_some_iff.1 h.level
      obtain ⟨c, hc, hcode⟩ := Option.bind_eq_some_iff.1 h.code
      exact ⟨t, ht, _, htype, w, hw, _, Option.bind_eq_some_iff.1 hmessage, l, hl, _,
        Option.bind_eq_some_iff.1 hlevel, c, hc, _, hcode, rfl, rfl, rfl, rfl⟩

/-- The object that a code is written as reads as the code. -/
theorem readCode?_of_perm {code : String} (hothers : OtherKeys ["code"] extra)
    (hperm : members.Perm ((some "code", .ofText code) :: extra)) :
    readCode? (.object members) = some code := by
  have hkeys : members.any (·.1.isNone) = false := by
    rw [hperm.any_eq, List.any_cons, hothers.any_isNone]
    rfl
  have hfield : field? members "code" = some (some (.ofText code)) := by
    rw [field?_perm hperm, ← List.singleton_append,
      field?_append hothers List.mem_cons_self]
    simp [field?]
  rw [readCode?, hkeys, hfield]
  rfl

theorem WritesType.readOptional {type : Option String} {j : Option Json.Value}
    (h : WritesType type j) : readOptional? (j.getD .null) = some type := by
  cases h <;> rfl

theorem WritesCode.readOptionalCode {code : Option String} {j : Option Json.Value}
    (h : WritesCode code j) : readOptionalCode? (j.getD .null) = some code := by
  cases h with
  | absent | null => rfl
  | object hothers hperm => exact congrArg (Option.map some) (readCode?_of_perm hothers hperm)

/-- **An object that a message is written as reads as the message.** -/
theorem ofJson?_of_writesObject (h : WritesObject m members) :
    ofJson? (.object members) = some m := by
  obtain @⟨type, code, others, htype, hcode, hothers, hperm⟩ := h
  have hfield : ∀ key ∈ ["$message_type", "message", "level", "code"], field? members key =
      field? ((some "message", .ofText m.message) :: (some "level", .ofText m.level) ::
        optionalMember "$message_type" type ++ optionalMember "code" code) key :=
    fun key hkey => by rw [field?_perm hperm, field?_append hothers hkey]
  -- what is left to look up are four members at most
  refine ofJson?_object_eq_some_iff.2 ⟨?keys, ?type, ?message, ?level, ?code⟩
  case keys =>
    rw [hperm.any_eq, List.any_append, hothers.any_isNone]
    cases type <;> cases code <;> rfl
  case type =>
    rw [hfield _ (by simp), ← htype.readOptional]
    cases type <;> cases code <;> simp [field?, optionalMember]
  case message =>
    rw [hfield _ (by simp)]
    cases type <;> cases code <;>
      simp [field?, optionalMember, Json.Value.ofText, Json.Value.text?]
  case level =>
    rw [hfield _ (by simp)]
    cases type <;> cases code <;>
      simp [field?, optionalMember, Json.Value.ofText, Json.Value.text?]
  case code =>
    rw [hfield _ (by simp), ← hcode.readOptionalCode]
    cases type <;> cases code <;> simp [field?, optionalMember]

/-! ## Reading a line -/

/-- **A line is read as the value that it holds between blanks.** -/
theorem read?_trim_eq_some_iff {v : Json.Value} :
    Json.read? (Text.trim line) = some v ↔ Json.Holds Text.isBlank v line := by
  rw [Json.read?_eq_some_iff]
  constructor
  · intro h
    -- what trimming removes and the spaces of the grammar are all blank
    obtain ⟨as, bs, has, hbs, hline⟩ := Text.exists_eq_trim line
    generalize Text.trim line = trimmed at h hline
    obtain @⟨cs, ds, es, hcs, hspells, hes⟩ := h
    have hholds : Json.Holds Text.isBlank v ((as ++ cs) ++ ds ++ (es ++ bs)) :=
      .between
        (List.forall_mem_append.2 ⟨has, fun c hc => Json.isBlank_of_isSpace (hcs c hc)⟩) hspells
        (List.forall_mem_append.2 ⟨fun c hc => Json.isBlank_of_isSpace (hes c hc), hbs⟩)
    rw [hline]
    simpa only [List.append_assoc] using hholds
  · rintro ⟨has, hspells, hbs⟩
    obtain ⟨c, rest, rfl, hc, -⟩ := hspells.exists_cons
    obtain ⟨d, hd, hdblank⟩ := hspells.endsSolid
    rw [Text.trim_between has hbs rfl hc hd hdblank]
    exact hspells.holds _

theorem ofLine?_of_holds {v : Json.Value} (h : Json.Holds Text.isBlank v line) :
    ofLine? line = ofJson? v := by
  rw [ofLine?, read?_trim_eq_some_iff.2 h, Option.bind_some]

/-- The diagnostic on a line. -/
def diagnosticOf? (line : List Char) : Option Diagnostic :=
  ((ofLine? line).filter isDiagnostic).map toDiagnostic

theorem parseDiagnostics_eq_filterMap (output : String) :
    parseDiagnostics output = (Text.lines output.toList).filterMap diagnosticOf? := by
  rw [parseDiagnostics]
  refine List.filterMap_congr fun line _ => ?_
  rw [diagnosticOf?]
  cases ofLine? line with
  | none => rfl
  | some m => cases h : m.isDiagnostic <;> simp [h, Option.filter_some]

/-- **A line that a message is written on gives its diagnostic.** -/
theorem diagnosticOf?_of_isWrittenOn (h : m.IsWrittenOn line) :
    diagnosticOf? line = some m.toDiagnostic := by
  obtain ⟨members, hwrites, hline⟩ := h
  have hdiagnostic : m.isDiagnostic = true := by
    obtain ⟨htype, -, -, -⟩ := hwrites
    rw [isDiagnostic]
    generalize m.type = type at htype
    cases htype <;> rfl
  rw [diagnosticOf?, ofLine?_of_holds hline, ofJson?_of_writesObject hwrites,
    Option.filter_some_pos hdiagnostic, Option.map_some]

/-- A message that is read from an object of another kind is not a diagnostic. -/
theorem ReadsFrom.isDiagnostic_eq_false {j : Json.Value} (h : ReadsFrom m members)
    (hj : (some "$message_type", j) ∈ members) (hnull : j ≠ .null)
    (hother : j.text? ≠ some "diagnostic") : m.isDiagnostic = false := by
  obtain ⟨found, hfound, htype⟩ := Option.bind_eq_some_iff.1 h.type
  obtain rfl := (mem_iff_of_field? hfound j).1 hj
  rw [Option.getD_some, readOptional?.eq_2 _ hnull, Option.map_eq_some_iff] at htype
  obtain ⟨t, ht, htype⟩ := htype
  rw [isDiagnostic, ← htype]
  refine decide_eq_false ?_
  rintro rfl
  exact hother ht

/-- A message is only read from an object that has its text and its level. -/
theorem ReadsFrom.exists_mem (h : ReadsFrom m members) (hkey : key = "message" ∨ key = "level") :
    ∃ j, (some key, j) ∈ members := by
  have hfield : ∃ t, ((field? members key).bind fun j => j.bind (·.text?)) = some t := by
    rcases hkey with rfl | rfl
    · exact ⟨_, h.message⟩
    · exact ⟨_, h.level⟩
  obtain ⟨t, ht⟩ := hfield
  obtain ⟨found, hfound, ht⟩ := Option.bind_eq_some_iff.1 ht
  obtain ⟨j, rfl, -⟩ := Option.bind_eq_some_iff.1 ht
  exact ⟨j, (mem_iff_of_field? hfound j).2 rfl⟩

/-- **Noise gives no diagnostic.** -/
theorem diagnosticOf?_of_isNoise (h : IsNoise line) : diagnosticOf? line = none := by
  rw [diagnosticOf?, Option.map_eq_none_iff, Option.filter_eq_none_iff]
  intro m hm
  rw [Bool.not_eq_true]
  cases h with
  | notJson hnone =>
      obtain ⟨v, hv, -⟩ := Option.bind_eq_some_iff.1 hm
      exact absurd (read?_trim_eq_some_iff.1 hv) (hnone v)
  | otherType hline hj hnull hother =>
      rw [ofLine?_of_holds hline] at hm
      exact (ofJson?_object_eq_some_iff.1 hm).isDiagnostic_eq_false hj hnull hother
  | lacksField hline hkey hlacks =>
      rw [ofLine?_of_holds hline] at hm
      obtain ⟨j, hj⟩ := (ofJson?_object_eq_some_iff.1 hm).exists_mem hkey
      exact absurd hj (hlacks j)

theorem isNoise_of_read? (h : (Json.read? (Text.trim line)).isNone = true) : IsNoise line :=
  .notJson fun v hv => by simp [read?_trim_eq_some_iff.2 hv] at h

/-! ## Reading an output -/

/-- The carriage return before a newline does not matter to a line. -/
theorem diagnosticOf?_endedLine (l : List Char) :
    diagnosticOf? (Text.endedLine l.reverse) = diagnosticOf? l := by
  rw [diagnosticOf?, ofLine?, Text.trim_endedLine, diagnosticOf?, ofLine?]

/-- **The diagnostics of an output are those of its messages, in order.** -/
theorem parseDiagnostics_of_isOutput {ms : List CompilerMessage} {ls : List (List Char)}
    (h : IsOutput ms ls) : parseDiagnostics (String.ofList (['\n'].intercalate ls)) =
      ms.map fun m =>
        { severity :=
            if "error".toList <+: m.level.toList then .error
            else if m.level = "warning" then .warning
            else .note
          code := m.code.getD "rustc"
          message := m.message
          warningAsError := false } := by
  rw [parseDiagnostics_eq_filterMap, String.toList_ofList,
    Text.filterMap_lines_intercalate rfl diagnosticOf?_endedLine h.not_mem_newline]
  induction h with
  | nil => rfl
  | @message m line ms ls hline _ _ ih =>
      rw [List.filterMap_cons_some (diagnosticOf?_of_isWrittenOn hline), ih, List.map_cons]
      congr 1
      simp [toDiagnostic, severityOf, defaultCode]
  | noise hline _ _ ih => rw [List.filterMap_cons_none (diagnosticOf?_of_isNoise hline), ih]

/-- A message with escapes and one with other members stand between lines that hold none. -/
theorem parseDiagnostics_of_isOutput_mixed :
    parseDiagnostics (String.ofList (['\n'].intercalate [
      "warning: 1 warning".toList,
      ("\x7b\"level\":\"error: bug\",\"message\":\"a\\n\\\"\"," ++
        "\"code\":\x7b\"code\":\"E1\"\x7d\x7d").toList,
      "\x7b\"message\":\"m\"\x7d".toList,
      ("\x7b\"message\":\"m\",\"level\":\"help\",\"$message_type\":null," ++
        "\"spans\":[1]\x7d").toList])) =
    [.error "E1" "a\n\"", .note "rustc" "m"] := by
  have hnone : ∀ {names : List String}, OtherKeys names [] := List.forall_mem_nil _
  have hfirst : WritesObject { message := "a\n\"", level := "error: bug", code := some "E1" }
      [(some "level", .ofText "error: bug"), (some "message", .ofText "a\n\""),
        (some "code", .object [(some "code", .ofText "E1")])] :=
    .fields .absent (.object hnone (.refl _)) hnone (.swap _ _ _)
  have hsecond : WritesObject { message := "m", level := "help" }
      [(some "message", .ofText "m"), (some "level", .ofText "help"),
        (some "$message_type", .null), (some "spans", .array [.number ['1']])] :=
    .fields .null .absent (List.forall_mem_singleton.2 ⟨"spans", rfl, by decide⟩) (.refl _)
  exact parseDiagnostics_of_isOutput
    (.noise (isNoise_of_read? (by decide +kernel)) (by decide +kernel)
    (.message ⟨_, hfirst, read?_trim_eq_some_iff.1 (by cbv)⟩ (by decide +kernel)
    (.noise (.lacksField (read?_trim_eq_some_iff.1 (by cbv)) (.inr rfl) (by simp))
      (by decide +kernel)
    (.message ⟨_, hsecond, read?_trim_eq_some_iff.1 (by cbv)⟩ (by decide +kernel) .nil))))

/-- A blank that is no space of the grammar may stand before a message: the line is not JSON, and
all the same it gives a diagnostic. -/
theorem parseDiagnostics_of_not_json :
    (∀ v, ¬Json.Holds Json.isSpace v
      "\u00a0\x7b\"message\":\"m\",\"level\":\"error\"\x7d".toList) ∧
    parseDiagnostics "\u00a0\x7b\"message\":\"m\",\"level\":\"error\"\x7d" =
      [.error "rustc" "m"] := by
  constructor
  · intro v hv
    have hread := Json.read?_eq_some_iff.2 hv
    have hnone : (Json.read?
        "\u00a0\x7b\"message\":\"m\",\"level\":\"error\"\x7d".toList).isNone = true := by
      decide +kernel
    rw [hread] at hnone
    exact Bool.noConfusion hnone
  · decide +kernel

end UnitFoundry.CompilerMessage
