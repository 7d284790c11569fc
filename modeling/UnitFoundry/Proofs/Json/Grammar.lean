import Mathlib.Data.List.Basic
import UnitFoundry.Json.Printer
import UnitFoundry.Json.Reader
import UnitFoundry.Text.Blank

/-! # The grammar of JSON

Which texts spell which values, said without a reader. A value is spelled without spaces around it;
inside arrays and objects spaces stand wherever the grammar has a place for them.

* **`Json.SpellsString`**: strings, piece by piece, with escapes.
* **`Json.IsNumber`**: numerals.
* **`Json.Spells`**: values, and what stands between brackets.
* **`Json.Spells.exists_cons`**, **`Json.Spells.endsSolid`**: a value begins and ends with a
  character that is not blank.
* **`Json.spellsString_quote`**: every text is spelled by its quotation.
* **`Json.hasLine_object`**: objects that can be spelled on one line. -/

namespace UnitFoundry.Json

/-! ## Strings -/

/-- The pieces of a string and how they are written. -/
inductive SpellsPieces : List Piece → List Char → Prop where
  /-- No pieces. -/
  | nil : SpellsPieces [] []
  /-- A character that stands for itself. -/
  | plain {c : Char} {ps : List Piece} {cs : List Char} : c ≠ '"' → c ≠ '\\' → 0x20 ≤ c.toNat →
    SpellsPieces ps cs → SpellsPieces (.char c :: ps) (c :: cs)
  /-- A character that is written with a letter. -/
  | escape {c e : Char} {ps : List Piece} {cs : List Char} : simpleEscape? c = some e →
    SpellsPieces ps cs → SpellsPieces (.char e :: ps) ('\\' :: c :: cs)
  /-- A code unit that is written with four digits. -/
  | unit {a b c d : Char} {n : Nat} {ps : List Piece} {cs : List Char} :
    codeUnit? a b c d = some n → SpellsPieces ps cs →
    SpellsPieces (Piece.ofUnit n :: ps) ('\\' :: 'u' :: a :: b :: c :: d :: cs)

/-- A string with its quotes. It has a text if its halves of surrogate pairs all match. -/
inductive SpellsString : Option String → List Char → Prop where
  /-- Pieces between quotes. -/
  | quoted {ps : List Piece} {cs : List Char} : SpellsPieces ps cs →
    SpellsString ((joinPieces ps).map String.ofList) ('"' :: cs ++ ['"'])

/-! ## Numbers -/

/-- Decimal digits, one at least. -/
structure AreDigits (ds : List Char) : Prop where
  /-- There is one. -/
  ne_nil : ds ≠ []
  /-- All are digits. -/
  digits : ∀ d ∈ ds, (Text.digit? d).isSome = true

/-- The digits before the point: a zero, or digits that do not begin with one. -/
inductive IsWhole : List Char → Prop where
  /-- A zero. -/
  | zero : IsWhole ['0']
  /-- Digits that do not begin with a zero. -/
  | digits {ds : List Char} : AreDigits ds → ds.head? ≠ some '0' → IsWhole ds

/-- The point and the digits after it, if there are any. -/
inductive IsFraction : List Char → Prop where
  /-- There are none. -/
  | absent : IsFraction []
  /-- There are some. -/
  | present {ds : List Char} : AreDigits ds → IsFraction ('.' :: ds)

/-- The exponent, if there is one. -/
inductive IsExponent : List Char → Prop where
  /-- There is none. -/
  | absent : IsExponent []
  /-- There is one. -/
  | present {mark : Char} {sign ds : List Char} : mark = 'e' ∨ mark = 'E' →
    sign = [] ∨ sign = ['+'] ∨ sign = ['-'] → AreDigits ds → IsExponent (mark :: sign ++ ds)

/-- A numeral. -/
inductive IsNumber : List Char → Prop where
  /-- An optional sign, and the parts. -/
  | parts {sign whole fraction exponent : List Char} : sign = [] ∨ sign = ['-'] → IsWhole whole →
    IsFraction fraction → IsExponent exponent → IsNumber (sign ++ whole ++ fraction ++ exponent)

/-! ## Values -/

/-- Characters that may all stand between tokens. -/
def Spaces (cs : List Char) : Prop :=
  ∀ c ∈ cs, isSpace c = true

/-- What can be spelled. -/
inductive Form where
  /-- A value. -/
  | value (v : Value)
  /-- A value with spaces around it. -/
  | padded (v : Value)
  /-- The items of an array up to its end, one at least. -/
  | items (vs : List Value)
  /-- A member of an object. -/
  | member (key : Option String) (v : Value)
  /-- The members of an object up to its end, one at least. -/
  | members (ms : List (Option String × Value))

/-- Which texts spell which values. -/
inductive Spells : Form → List Char → Prop where
  /-- The value `null`. -/
  | nullName : Spells (.value .null) ['n', 'u', 'l', 'l']
  /-- The value `true`. -/
  | trueName : Spells (.value (.bool true)) ['t', 'r', 'u', 'e']
  /-- The value `false`. -/
  | falseName : Spells (.value (.bool false)) ['f', 'a', 'l', 's', 'e']
  /-- A number. -/
  | number {ds : List Char} : IsNumber ds → Spells (.value (.number ds)) ds
  /-- A string. -/
  | string {t : Option String} {cs : List Char} : SpellsString t cs →
    Spells (.value (.string t)) cs
  /-- An array without items. -/
  | emptyArray {bs : List Char} : Spaces bs → Spells (.value (.array [])) ('[' :: bs ++ [']'])
  /-- An array with items. -/
  | array {vs : List Value} {cs : List Char} : Spells (.items vs) cs →
    Spells (.value (.array vs)) ('[' :: cs)
  /-- An object without members. -/
  | emptyObject {bs : List Char} : Spaces bs →
    Spells (.value (.object [])) ('\x7b' :: bs ++ ['\x7d'])
  /-- An object with members. -/
  | object {ms : List (Option String × Value)} {cs : List Char} : Spells (.members ms) cs →
    Spells (.value (.object ms)) ('\x7b' :: cs)
  /-- A value between spaces. -/
  | padded {v : Value} {as cs bs : List Char} : Spaces as → Spells (.value v) cs → Spaces bs →
    Spells (.padded v) (as ++ cs ++ bs)
  /-- The last item. -/
  | lastItem {v : Value} {cs : List Char} : Spells (.padded v) cs →
    Spells (.items [v]) (cs ++ [']'])
  /-- An item that others follow. -/
  | item {v : Value} {vs : List Value} {cs ds : List Char} : Spells (.padded v) cs →
    Spells (.items vs) ds → Spells (.items (v :: vs)) (cs ++ ',' :: ds)
  /-- A key, between spaces too, and a value. -/
  | pair {key : Option String} {v : Value} {as ks bs cs : List Char} : Spaces as →
    SpellsString key ks → Spaces bs → Spells (.padded v) cs →
    Spells (.member key v) (as ++ ks ++ bs ++ ':' :: cs)
  /-- The last member. -/
  | lastMember {key : Option String} {v : Value} {cs : List Char} : Spells (.member key v) cs →
    Spells (.members [(key, v)]) (cs ++ ['\x7d'])
  /-- A member that others follow. -/
  | member {key : Option String} {v : Value} {ms : List (Option String × Value)}
    {cs ds : List Char} : Spells (.member key v) cs → Spells (.members ms) ds →
    Spells (.members ((key, v) :: ms)) (cs ++ ',' :: ds)

/-- A text that spells a value, between characters that count as blank. -/
inductive Holds (blank : Char → Bool) (v : Value) : List Char → Prop where
  /-- The blanks and the value. -/
  | between {as cs bs : List Char} : (∀ c ∈ as, blank c = true) → Spells (.value v) cs →
    (∀ c ∈ bs, blank c = true) → Holds blank v (as ++ cs ++ bs)

/-- A value needs no blanks around it. -/
theorem Spells.holds {v : Value} {cs : List Char} (h : Spells (.value v) cs)
    (blank : Char → Bool) : Holds blank v cs := by
  have hnone : ∀ c ∈ ([] : List Char), blank c = true := List.forall_mem_nil _
  simpa using Holds.between hnone h hnone

/-! ## Where a value begins and ends -/

theorem isBlank_of_isSpace {c : Char} (h : isSpace c = true) : Text.isBlank c = true := by
  simp only [isSpace, Bool.or_eq_true, beq_iff_eq] at h
  rcases h with ((rfl | rfl) | rfl) | rfl <;> decide

/-- A digit stands between zero and nine. -/
theorem toNat_of_digit {d : Char} (h : (Text.digit? d).isSome = true) :
    48 ≤ d.toNat ∧ d.toNat ≤ 57 := by
  rw [Text.digit?] at h
  split at h
  · rename_i hd
    exact ⟨UInt32.le_iff_toNat_le.1 hd.1, UInt32.le_iff_toNat_le.1 hd.2⟩
  · exact absurd h (by simp)

theorem isBlank_of_digit {d : Char} (h : (Text.digit? d).isSome = true) :
    Text.isBlank d = false := by
  obtain ⟨hle, hge⟩ := toNat_of_digit h
  simp only [Text.isBlank, Bool.or_eq_false_iff, Bool.and_eq_false_iff, decide_eq_false_iff_not,
    beq_eq_false_iff_ne]
  omega

/-- A text whose last character is not blank. -/
def EndsSolid (cs : List Char) : Prop :=
  ∃ c, cs.getLast? = some c ∧ Text.isBlank c = false

theorem EndsSolid.append {cs : List Char} (h : EndsSolid cs) (as : List Char) :
    EndsSolid (as ++ cs) := by
  obtain ⟨c, hc, hblank⟩ := h
  exact ⟨c, by rw [List.getLast?_append, hc, Option.some_or], hblank⟩

theorem AreDigits.endsSolid {ds : List Char} (h : AreDigits ds) : EndsSolid ds := by
  refine ⟨ds.getLast h.ne_nil, List.getLast?_eq_some_getLast h.ne_nil, ?_⟩
  exact isBlank_of_digit (h.digits _ (List.getLast_mem h.ne_nil))

theorem IsNumber.endsSolid {ds : List Char} (h : IsNumber ds) : EndsSolid ds := by
  obtain ⟨-, hwhole, hfraction, hexponent⟩ := h
  cases hexponent with
  | present _ _ hds => exact (hds.endsSolid.append _).append _
  | absent =>
      rw [List.append_nil]
      cases hfraction with
      | present hds => exact (hds.endsSolid.append ['.']).append _
      | absent =>
          rw [List.append_nil]
          cases hwhole with
          | zero => exact EndsSolid.append ⟨'0', rfl, by decide⟩ _
          | digits hds _ => exact hds.endsSolid.append _

/-- **The last character of a value is not blank**, and neither is the end of an array or an
object. -/
theorem Spells.endsSolid {f : Form} {cs : List Char} (h : Spells f cs) :
    match f with
    | .value _ | .items _ | .members _ => EndsSolid cs
    | .padded _ | .member _ _ => True := by
  induction h with
  | nullName => exact ⟨'l', rfl, by decide⟩
  | trueName | falseName => exact ⟨'e', rfl, by decide⟩
  | number hds => exact hds.endsSolid
  | string ht =>
      obtain ⟨-⟩ := ht
      exact EndsSolid.append ⟨'"', rfl, by decide⟩ _
  | emptyArray | lastItem => exact EndsSolid.append ⟨']', rfl, by decide⟩ _
  | emptyObject | lastMember => exact EndsSolid.append ⟨'\x7d', rfl, by decide⟩ _
  | array _ ih => exact EndsSolid.append ih ['[']
  | object _ ih => exact EndsSolid.append ih ['\x7b']
  | item _ _ _ ih | member _ _ _ ih => exact (EndsSolid.append ih [',']).append _
  | padded | pair => trivial

theorem IsWhole.exists_cons {ds : List Char} (h : IsWhole ds) :
    ∃ d rest, ds = d :: rest ∧ (Text.digit? d).isSome = true := by
  cases h with
  | zero => exact ⟨'0', [], rfl, rfl⟩
  | digits hds _ =>
      obtain ⟨d, rest, rfl⟩ := List.exists_cons_of_ne_nil hds.ne_nil
      exact ⟨d, rest, rfl, hds.digits d List.mem_cons_self⟩

/-- A numeral begins with its sign or a digit. -/
theorem IsNumber.exists_cons {ds : List Char} (h : IsNumber ds) :
    ∃ d rest, ds = d :: rest ∧ (d = '-' ∨ (Text.digit? d).isSome = true) := by
  obtain ⟨hsign, hwhole, -, -⟩ := h
  obtain rfl | rfl := hsign
  · obtain ⟨d, rest, rfl, hd⟩ := hwhole.exists_cons
    exact ⟨d, _, rfl, Or.inr hd⟩
  · exact ⟨'-', _, rfl, Or.inl rfl⟩

/-- **A value begins with a character that is not blank** and does not end an array. -/
theorem Spells.exists_cons {v : Value} {cs : List Char} (h : Spells (.value v) cs) :
    ∃ c rest, cs = c :: rest ∧ Text.isBlank c = false ∧ c ≠ ']' := by
  cases h with
  | nullName => exact ⟨_, _, rfl, by decide, by decide⟩
  | trueName => exact ⟨_, _, rfl, by decide, by decide⟩
  | falseName => exact ⟨_, _, rfl, by decide, by decide⟩
  | number hds =>
      obtain ⟨d, rest, rfl, rfl | hd⟩ := hds.exists_cons
      · exact ⟨_, _, rfl, by decide, by decide⟩
      · refine ⟨_, _, rfl, isBlank_of_digit hd, ?_⟩
        rintro rfl
        exact absurd hd (by decide)
  | string ht =>
      obtain ⟨-⟩ := ht
      exact ⟨_, _, rfl, by decide, by decide⟩
  | emptyArray => exact ⟨_, _, rfl, by decide, by decide⟩
  | array => exact ⟨_, _, rfl, by decide, by decide⟩
  | emptyObject => exact ⟨_, _, rfl, by decide, by decide⟩
  | object => exact ⟨_, _, rfl, by decide, by decide⟩

/-! ## Strings on one line -/

/-- A newline cannot be one of the digits of a code unit. -/
theorem ne_newline_of_codeUnit {a b c d : Char} {n : Nat} (h : codeUnit? a b c d = some n) :
    '\n' ∉ [a, b, c, d] := by
  have hnone : Text.hexDigit? '\n' = none := by decide
  simp only [codeUnit?, Option.pure_def, Option.bind_eq_bind, Option.bind_eq_some_iff] at h
  obtain ⟨w, ha, x, hb, y, hc, z, hd, -⟩ := h
  intro hmem
  simp only [List.mem_cons, List.not_mem_nil, or_false] at hmem
  rcases hmem with rfl | rfl | rfl | rfl
  · simp [hnone] at ha
  · simp [hnone] at hb
  · simp [hnone] at hc
  · simp [hnone] at hd

/-- **A string is spelled without newlines.** -/
theorem SpellsString.newline_not_mem {t : Option String} {cs : List Char}
    (h : SpellsString t cs) : '\n' ∉ cs := by
  obtain ⟨hpieces⟩ := h
  have hmem : ∀ {ps cs}, SpellsPieces ps cs → '\n' ∉ cs := by
    intro ps cs h
    induction h with
    | nil => exact List.not_mem_nil
    | plain _ _ hc _ ih =>
        refine List.not_mem_cons_of_ne_of_not_mem ?_ ih
        rintro rfl
        exact absurd hc (by decide)
    | escape he _ ih =>
        refine List.not_mem_cons_of_ne_of_not_mem (by decide)
          (List.not_mem_cons_of_ne_of_not_mem ?_ ih)
        rintro rfl
        exact absurd he (by simp [simpleEscape?])
    | @unit a b c d n ps cs hn _ ih =>
        have hdigits := ne_newline_of_codeUnit hn
        show '\n' ∉ ['\\', 'u'] ++ ([a, b, c, d] ++ cs)
        simp only [List.mem_append, not_or]
        exact ⟨by decide, hdigits, ih⟩
  simp [hmem hpieces]

/-! ## Texts as strings -/

/-- The pieces of a text are its characters. -/
theorem joinPieces_map_char (cs : List Char) : joinPieces (cs.map .char) = some cs := by
  induction cs with
  | nil => rfl
  | cons c cs ih => rw [List.map_cons, joinPieces, ih, Option.map_some]

/-- A control character is written with four digits. -/
theorem escape_control {c : Char} (hc : c.toNat < 0x20) :
    ∃ a b d e, ['\\', 'u'] ++ List.replicate (4 - (Text.hexDigits c.toNat).length) '0' ++
        Text.hexDigits c.toNat = ['\\', 'u', a, b, d, e] ∧ codeUnit? a b d e = some c.toNat := by
  have hall : ∀ n < 0x20, List.replicate (4 - (Text.hexDigits n).length) '0' ++
      Text.hexDigits n = '0' :: '0' :: Text.hexPair n ∧
      codeUnit? '0' '0' (Nat.digitChar (n / 16)) (Nat.digitChar (n % 16)) = some n := by
    decide +kernel
  obtain ⟨hdigits, hunit⟩ := hall _ hc
  exact ⟨_, _, _, _, by rw [List.append_assoc, hdigits]; rfl, hunit⟩

/-- An escaped character spells the character. -/
theorem SpellsPieces.escaped (c : Char) {ps : List Piece} {cs : List Char}
    (h : SpellsPieces ps cs) : SpellsPieces (.char c :: ps) (Json.escape c ++ cs) := by
  rw [Json.escape.eq_def]
  split
  case h_8 hquote hback _ _ _ _ _ =>
    by_cases hc : c.toNat < 0x20
    · obtain ⟨a, b, d, e, hdigits, hunit⟩ := escape_control hc
      have hpiece : Piece.ofUnit c.toNat = .char c := by
        rw [Piece.ofUnit, if_neg (by simp [isHighHalf, isLowHalf]; omega), Char.ofNat_toNat]
      simp only [if_pos hc, hdigits, ← hpiece]
      exact .unit hunit h
    · rw [if_neg hc]
      exact .plain (fun heq => hquote heq) (fun heq => hback heq) (Nat.le_of_not_lt hc) h
  all_goals exact .escape rfl h

/-- **Every text is spelled by its quotation.** -/
theorem spellsString_quote (s : String) : SpellsString (some s) (quote s).toList := by
  have hpieces : ∀ cs : List Char, SpellsPieces (cs.map .char) (cs.flatMap Json.escape) := by
    intro cs
    induction cs with
    | nil => exact .nil
    | cons c cs ih => exact .escaped c ih
  have hquoted := SpellsString.quoted (hpieces s.toList)
  rw [joinPieces_map_char, Option.map_some, String.ofList_toList] at hquoted
  simp only [quote, String.toList_append, String.toList_ofList]
  exact hquoted

/-! ## Values on one line -/

/-- A value that can be spelled without newlines. -/
def Value.HasLine (v : Value) : Prop :=
  ∃ cs, Spells (.value v) cs ∧ '\n' ∉ cs

theorem hasLine_ofText (s : String) : (Value.ofText s).HasLine :=
  ⟨(quote s).toList, .string (spellsString_quote s), (spellsString_quote s).newline_not_mem⟩

theorem Value.HasLine.exists_member {v : Value} (h : v.HasLine) (key : String) :
    ∃ cs, Spells (.member (some key) v) cs ∧ '\n' ∉ cs := by
  obtain ⟨cs, hcs, hline⟩ := h
  have hkey := spellsString_quote key
  have hnone : Spaces [] := List.forall_mem_nil _
  refine ⟨_, .pair hnone hkey hnone (.padded hnone hcs hnone), ?_⟩
  simp [hline, hkey.newline_not_mem]

/-- **An object with members can be spelled on one line** if its keys have texts and the values of
its members can. -/
theorem hasLine_object {ms : List (Option String × Value)} (hne : ms ≠ [])
    (hms : ∀ p ∈ ms, (∃ key, p.1 = some key) ∧ p.2.HasLine) : (Value.object ms).HasLine := by
  suffices h : ∃ cs, Spells (.members ms) cs ∧ '\n' ∉ cs by
    obtain ⟨cs, hcs, hline⟩ := h
    exact ⟨_, .object hcs, List.not_mem_cons_of_ne_of_not_mem (by decide) hline⟩
  induction ms with
  | nil => exact absurd rfl hne
  | cons p ms ih =>
      obtain ⟨⟨⟨key, hkey⟩, hvalue⟩, hrest⟩ := List.forall_mem_cons.1 hms
      obtain ⟨key', v⟩ := p
      obtain rfl : key' = some key := hkey
      obtain ⟨cs, hcs, hline⟩ := hvalue.exists_member key
      by_cases hnil : ms = []
      · subst hnil
        exact ⟨_, .lastMember hcs, by simp [hline]⟩
      · obtain ⟨ds, hds, hline'⟩ := ih hnil hrest
        exact ⟨_, .member hcs hds, by simp [hline, hline']⟩

end UnitFoundry.Json
