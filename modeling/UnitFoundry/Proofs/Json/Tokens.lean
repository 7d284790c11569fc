import Mathlib.Data.List.TakeWhile
import UnitFoundry.Proofs.Json.Grammar

/-! # Reading strings and numerals

What the readers of strings and numerals take from the front of a text is spelled as the grammar
has it, and whatever is spelled so is taken. A string ends at its closing quote; a numeral ends
where something stands that may stand behind a value.

* **`Json.readText_of_spells`**, **`Json.spells_of_readText`**: strings.
* **`Json.readNumber_of_isNumber`**, **`Json.isNumber_of_readNumber`**: numerals. -/

namespace UnitFoundry.Json

variable {cs rest : List Char}

/-! ## Spaces -/

theorem skipSpace_append {bs : List Char} (hbs : Spaces bs) (cs : List Char) :
    skipSpace (bs ++ cs) = skipSpace cs :=
  List.dropWhile_append_of_pos hbs

theorem skipSpace_cons_of_not {c : Char} (hc : isSpace c = false) (cs : List Char) :
    skipSpace (c :: cs) = c :: cs := by
  rw [skipSpace, List.dropWhile_cons_of_neg (by simp [hc])]

theorem skipSpace_spaces_cons {bs : List Char} {c : Char} (hbs : Spaces bs)
    (hc : isSpace c = false) (cs : List Char) : skipSpace (bs ++ c :: cs) = c :: cs := by
  rw [skipSpace_append hbs, skipSpace_cons_of_not hc]

/-- What is skipped are spaces. -/
theorem exists_spaces (cs : List Char) : ∃ bs, Spaces bs ∧ cs = bs ++ skipSpace cs :=
  ⟨cs.takeWhile isSpace, fun _ hc => List.mem_takeWhile_imp hc,
    (List.takeWhile_append_dropWhile).symm⟩

theorem skipSpace_skipSpace (cs : List Char) : skipSpace (skipSpace cs) = skipSpace cs := by
  obtain ⟨bs, hbs, hcs⟩ := exists_spaces cs
  have hskip := congrArg skipSpace hcs
  rw [skipSpace_append hbs] at hskip
  exact hskip.symm

theorem skipSpace_eq_nil_iff : skipSpace cs = [] ↔ Spaces cs :=
  List.dropWhile_eq_nil_iff

/-! ## Strings -/

/-- A reader that changes what another one has read leaves what that one leaves. -/
theorem exists_of_bind {α β : Type} (f : α → β) {b : β} {read : Option (α × List Char)}
    (h : (read.bind fun x => some (f x.1, x.2)) = some (b, rest)) :
    ∃ a, read = some (a, rest) ∧ f a = b := by
  obtain ⟨⟨a, rest'⟩, ha, h⟩ := Option.bind_eq_some_iff.1 h
  obtain ⟨rfl, rfl⟩ := Prod.mk.inj (Option.some.inj h)
  exact ⟨a, ha, rfl⟩

theorem readPieces_plain {c : Char} (hquote : c ≠ '"') (hback : c ≠ '\\') (hc : 0x20 ≤ c.toNat)
    (cs : List Char) :
    readPieces (c :: cs) = (readPieces cs).map fun (ps, rest) => (.char c :: ps, rest) := by
  rw [readPieces.eq_6 c cs hquote (fun _ _ _ _ _ h => absurd h hback) (fun _ _ h => absurd h hback)
    (fun h => absurd h hback), if_neg (Nat.not_lt_of_le hc)]
  cases readPieces cs <;> rfl

theorem readPieces_escape {c e : Char} (he : simpleEscape? c = some e) (cs : List Char) :
    readPieces ('\\' :: c :: cs) = (readPieces cs).map fun (ps, rest) => (.char e :: ps, rest) := by
  have hu : c ≠ 'u' := by
    rintro rfl
    exact absurd (he.symm.trans (show simpleEscape? 'u' = none by decide)) (by simp)
  rw [readPieces.eq_4 c cs fun _ _ _ _ _ h => absurd h hu, he]
  cases readPieces cs <;> rfl

theorem readPieces_unit {a b c d : Char} {n : Nat} (hn : codeUnit? a b c d = some n)
    (cs : List Char) : readPieces ('\\' :: 'u' :: a :: b :: c :: d :: cs) =
      (readPieces cs).map fun (ps, rest) => (Piece.ofUnit n :: ps, rest) := by
  rw [readPieces, hn]
  cases readPieces cs <;> rfl

/-- Pieces are read up to the closing quote. -/
theorem readPieces_of_spells {ps : List Piece} (h : SpellsPieces ps cs) (rest : List Char) :
    readPieces (cs ++ '"' :: rest) = some (ps, rest) := by
  induction h with
  | nil => rw [List.nil_append, readPieces]
  | plain hquote hback hc _ ih => rw [List.cons_append, readPieces_plain hquote hback hc, ih]; rfl
  | escape he _ ih => rw [List.cons_append, List.cons_append, readPieces_escape he, ih]; rfl
  | unit hn _ ih =>
      simp only [List.cons_append]
      rw [readPieces_unit hn, ih]
      rfl

/-- What is read up to the closing quote are pieces. -/
theorem spells_of_readPieces {ps : List Piece} (h : readPieces cs = some (ps, rest)) :
    ∃ body, cs = body ++ '"' :: rest ∧ SpellsPieces ps body := by
  fun_induction readPieces cs generalizing ps with
  | case1 => exact absurd h (by simp)
  | case2 cs =>
      obtain ⟨rfl, rfl⟩ := Prod.mk.inj (Option.some.inj h)
      exact ⟨[], rfl, .nil⟩
  | case3 a b c d cs ih =>
      obtain ⟨n, hn, h⟩ := Option.bind_eq_some_iff.1 h
      obtain ⟨ps, hps, rfl⟩ := exists_of_bind (_ :: ·) h
      obtain ⟨body, rfl, hbody⟩ := ih hps
      exact ⟨_, rfl, .unit hn hbody⟩
  | case4 c cs _ ih =>
      obtain ⟨e, he, h⟩ := Option.bind_eq_some_iff.1 h
      obtain ⟨ps, hps, rfl⟩ := exists_of_bind (_ :: ·) h
      obtain ⟨body, rfl, hbody⟩ := ih hps
      exact ⟨_, rfl, .escape he hbody⟩
  | case5 => exact absurd h (by simp)
  | case6 => exact absurd h (by simp)
  | case7 c cs hquote _ hback _ hc ih =>
      obtain ⟨ps, hps, rfl⟩ := exists_of_bind (_ :: ·) h
      obtain ⟨body, rfl, hbody⟩ := ih hps
      refine ⟨_, rfl, .plain hquote ?_ (Nat.le_of_not_lt hc) hbody⟩
      rintro rfl
      -- the backslash is followed by something, since the quote is still to come
      obtain ⟨d, ds, hds⟩ := List.exists_cons_of_ne_nil
        (List.append_ne_nil_of_right_ne_nil body (List.cons_ne_nil '"' rest))
      exact hback d ds rfl hds

theorem readText_of_spells {t : Option String} (h : SpellsString t cs) :
    ∃ body, cs = '"' :: body ∧ ∀ rest, readText (body ++ rest) = some (t, rest) := by
  obtain @⟨ps, body, hpieces⟩ := h
  refine ⟨body ++ ['"'], rfl, fun rest => ?_⟩
  rw [readText, List.append_assoc, List.singleton_append, readPieces_of_spells hpieces]
  rfl

theorem spells_of_readText {t : Option String} (h : readText cs = some (t, rest)) :
    ∃ body, cs = body ++ rest ∧ SpellsString t ('"' :: body) := by
  obtain ⟨ps, hps, rfl⟩ := exists_of_bind (fun ps => (joinPieces ps).map String.ofList) h
  obtain ⟨body, rfl, hbody⟩ := spells_of_readPieces hps
  exact ⟨body ++ ['"'], by rw [List.append_assoc, List.singleton_append], .quoted hbody⟩

/-! ## Numbers -/

variable {ds : List Char}

/-- A text does not go on with a digit. -/
def StopsDigits (cs : List Char) : Prop :=
  ∀ c, cs.head? = some c → (Text.digit? c).isSome = false

theorem spanDigits_append (hds : ∀ d ∈ ds, (Text.digit? d).isSome = true)
    (hrest : StopsDigits rest) : Text.spanDigits (ds ++ rest) = (ds, rest) := by
  rw [Text.spanDigits, List.takeWhile_append_of_pos hds, List.dropWhile_append_of_pos hds]
  cases rest with
  | nil => rw [List.takeWhile_nil, List.dropWhile_nil, List.append_nil]
  | cons c rest =>
      have hc : ¬(Text.digit? c).isSome = true := by
        rw [hrest c rfl]
        exact Bool.false_ne_true
      rw [List.takeWhile_cons_of_neg (p := fun c => (Text.digit? c).isSome) hc,
        List.dropWhile_cons_of_neg (p := fun c => (Text.digit? c).isSome) hc, List.append_nil]

/-- Digits that are split off. -/
theorem of_spanDigits (h : Text.spanDigits cs = (ds, rest)) :
    cs = ds ++ rest ∧ ∀ d ∈ ds, (Text.digit? d).isSome = true := by
  have happend := Text.append_spanDigits cs
  rw [h] at happend
  refine ⟨happend.symm, fun d hd => ?_⟩
  have htake : ds = cs.takeWhile (Text.digit? · |>.isSome) := (congrArg Prod.fst h).symm
  rw [htake] at hd
  exact List.mem_takeWhile_imp (p := fun c => (Text.digit? c).isSome) hd

theorem readWhole_of_isWhole (h : IsWhole ds) (hrest : StopsDigits rest) :
    readWhole (ds ++ rest) = some (ds, rest) := by
  cases h with
  | zero =>
      rw [readWhole, spanDigits_append (List.forall_mem_singleton.2 rfl) hrest]
      rfl
  | digits hds hzero =>
      rw [readWhole, spanDigits_append hds.digits hrest]
      split
      · rename_i heq
        exact absurd (congrArg (fun p => p.1.head?) heq) hzero
      · rename_i heq
        exact absurd (congrArg Prod.fst heq) hds.ne_nil
      · rename_i heq
        exact absurd (congrArg (fun p => p.1.head?) heq) hzero
      · rename_i heq
        rw [heq]

theorem isWhole_of_readWhole (h : readWhole cs = some (ds, rest)) :
    cs = ds ++ rest ∧ IsWhole ds := by
  rw [readWhole] at h
  split at h
  · rename_i hspan
    obtain ⟨rfl, rfl⟩ := Prod.mk.inj (Option.some.inj h)
    exact ⟨(of_spanDigits hspan).1, .zero⟩
  · exact absurd h (by simp)
  · exact absurd h (by simp)
  · rename_i hnil hzero hspan
    obtain ⟨rfl, rfl⟩ := Prod.mk.inj (Option.some.inj h)
    obtain ⟨happend, hdigits⟩ := of_spanDigits hspan
    refine ⟨happend, .digits ⟨hnil, hdigits⟩ fun hhead => ?_⟩
    obtain ⟨ds', hds⟩ := List.head?_eq_some_iff.1 hhead
    exact hzero ds' hds

theorem readFraction_of_isFraction (h : IsFraction ds) (hdot : rest.head? ≠ some '.')
    (hrest : StopsDigits rest) : readFraction (ds ++ rest) = some (ds, rest) := by
  cases h with
  | absent =>
      rw [List.nil_append, readFraction.eq_def]
      split
      · exact absurd rfl hdot
      · rfl
  | present hds =>
      rw [List.cons_append, readFraction, spanDigits_append hds.digits hrest]
      split
      · rename_i heq
        exact absurd (congrArg Prod.fst heq) hds.ne_nil
      · rename_i heq
        obtain ⟨rfl, rfl⟩ := Prod.mk.inj heq
        rfl

theorem isFraction_of_readFraction (h : readFraction cs = some (ds, rest)) :
    cs = ds ++ rest ∧ IsFraction ds := by
  rw [readFraction.eq_def] at h
  split at h
  · split at h
    · exact absurd h (by simp)
    · rename_i hnil hspan
      obtain ⟨rfl, rfl⟩ := Prod.mk.inj (Option.some.inj h)
      obtain ⟨rfl, hdigits⟩ := of_spanDigits hspan
      exact ⟨rfl, .present ⟨hnil, hdigits⟩⟩
  · obtain ⟨rfl, rfl⟩ := Prod.mk.inj (Option.some.inj h)
    exact ⟨rfl, .absent⟩

/-- A digit is no sign. -/
theorem ne_sign_of_digit {d : Char} (hd : (Text.digit? d).isSome = true) : d ≠ '+' ∧ d ≠ '-' := by
  constructor
  · rintro rfl
    exact absurd hd (by decide)
  · rintro rfl
    exact absurd hd (by decide)

theorem readExponentDigits_of_areDigits {mark : Char} {sign : List Char}
    (hsign : sign = [] ∨ sign = ['+'] ∨ sign = ['-']) (hds : AreDigits ds)
    (hrest : StopsDigits rest) :
    readExponentDigits mark (sign ++ ds ++ rest) = some (mark :: sign ++ ds, rest) := by
  have hspan := spanDigits_append hds.digits hrest
  obtain ⟨d, ds, rfl⟩ := List.exists_cons_of_ne_nil hds.ne_nil
  obtain rfl | rfl | rfl := hsign
  · obtain ⟨hplus, hminus⟩ := ne_sign_of_digit (hds.digits d List.mem_cons_self)
    rw [List.nil_append, List.cons_append, readExponentDigits.eq_3 mark _
      (fun _ h => hplus (List.cons.inj h).1) (fun _ h => hminus (List.cons.inj h).1),
      ← List.cons_append, hspan]
  · rw [List.append_assoc, List.singleton_append, readExponentDigits, hspan]
  · rw [List.append_assoc, List.singleton_append, readExponentDigits, hspan]

theorem readExponent_of_isExponent (h : IsExponent ds) (hmark : rest.head? ≠ some 'e')
    (hmark' : rest.head? ≠ some 'E') (hrest : StopsDigits rest) :
    readExponent (ds ++ rest) = some (ds, rest) := by
  cases h with
  | absent =>
      rw [List.nil_append, readExponent.eq_def]
      split
      · exact absurd rfl hmark
      · exact absurd rfl hmark'
      · rfl
  | @present mark sign ds hm hsign hds =>
      rw [List.cons_append, List.cons_append]
      obtain rfl | rfl := hm <;> exact readExponentDigits_of_areDigits hsign hds hrest

/-- The digits of an exponent stand behind an optional sign. -/
theorem exists_sign_readExponentDigits (mark : Char) (cs : List Char) : ∃ sign body,
    (sign = [] ∨ sign = ['+'] ∨ sign = ['-']) ∧ cs = sign ++ body ∧
      readExponentDigits mark cs =
        match Text.spanDigits body with
        | ([], _) => none
        | (ds, rest) => some (mark :: sign ++ ds, rest) := by
  rw [readExponentDigits.eq_def]
  split
  rename_i sign body hsplit
  split at hsplit
  all_goals
    obtain ⟨rfl, rfl⟩ := Prod.mk.inj hsplit
    exact ⟨_, _, by simp, rfl, rfl⟩

theorem isExponent_of_readExponentDigits {mark : Char} (hmark : mark = 'e' ∨ mark = 'E')
    (h : readExponentDigits mark cs = some (ds, rest)) :
    mark :: cs = ds ++ rest ∧ IsExponent ds := by
  obtain ⟨sign, body, hsign, rfl, hread⟩ := exists_sign_readExponentDigits mark cs
  rw [hread] at h
  split at h
  · exact absurd h (by simp)
  · rename_i hnil hspan
    obtain ⟨rfl, rfl⟩ := Prod.mk.inj (Option.some.inj h)
    obtain ⟨rfl, hdigits⟩ := of_spanDigits hspan
    exact ⟨by simp, .present hmark hsign ⟨hnil, hdigits⟩⟩

theorem isExponent_of_readExponent (h : readExponent cs = some (ds, rest)) :
    cs = ds ++ rest ∧ IsExponent ds := by
  rw [readExponent.eq_def] at h
  split at h
  · exact isExponent_of_readExponentDigits (Or.inl rfl) h
  · exact isExponent_of_readExponentDigits (Or.inr rfl) h
  · obtain ⟨rfl, rfl⟩ := Prod.mk.inj (Option.some.inj h)
    exact ⟨rfl, .absent⟩

/-- What may stand behind a value: nothing, a space, a comma or the end of an array or an object. -/
def Delimited (cs : List Char) : Prop :=
  ∀ c, cs.head? = some c → isSpace c = true ∨ c = ',' ∨ c = ']' ∨ c = '\x7d'

/-- A numeral does not go on with what may stand behind a value. -/
theorem Delimited.ne {c : Char} (h : Delimited rest)
    (hc : c ∉ [' ', '\t', '\n', '\r', ',', ']', '\x7d']) : rest.head? ≠ some c := by
  intro hhead
  refine hc ?_
  rcases h c hhead with hspace | rfl | rfl | rfl
  · simp only [isSpace, Bool.or_eq_true, beq_iff_eq] at hspace
    rcases hspace with ((rfl | rfl) | rfl) | rfl <;> decide
  all_goals decide

theorem Delimited.stopsDigits (h : Delimited rest) : StopsDigits rest := by
  intro c hhead
  rw [Bool.eq_false_iff]
  intro hdigit
  refine h.ne ?_ hhead
  obtain ⟨hle, hge⟩ := toNat_of_digit hdigit
  intro hmem
  simp only [List.mem_cons, List.not_mem_nil, or_false] at hmem
  rcases hmem with rfl | rfl | rfl | rfl | rfl | rfl | rfl <;> simp at hle hge

/-- An exponent begins with its mark. -/
theorem IsExponent.head?_append (h : IsExponent ds) {c : Char} (hc : c ≠ 'e' ∧ c ≠ 'E')
    (hrest : rest.head? ≠ some c) : (ds ++ rest).head? ≠ some c := by
  cases h with
  | absent => exact hrest
  | present hmark =>
      intro hhead
      have heq := Option.some.inj hhead
      rcases hmark with rfl | rfl
      · exact hc.1 heq.symm
      · exact hc.2 heq.symm

theorem IsFraction.head?_append {c : Char} (h : IsFraction ds) (hc : c ≠ '.')
    (hrest : rest.head? ≠ some c) : (ds ++ rest).head? ≠ some c := by
  cases h with
  | absent => exact hrest
  | present =>
      intro hhead
      exact hc (Option.some.inj hhead).symm

/-- **A numeral is read** up to where it ends. -/
theorem readNumber_of_isNumber (h : IsNumber ds) (hrest : Delimited rest) :
    readNumber (ds ++ rest) = some (ds, rest) := by
  obtain @⟨sign, whole, fraction, exponent, hsign, hwhole, hfraction, hexponent⟩ := h
  have hdigit : ∀ c, (Text.digit? c).isSome = true → c ≠ '.' ∧ c ≠ 'e' ∧ c ≠ 'E' := by
    intro c hc
    refine ⟨?_, ?_, ?_⟩ <;> rintro rfl <;> exact absurd hc (by decide)
  have hstops : StopsDigits (exponent ++ rest) := by
    intro c hhead
    rw [Bool.eq_false_iff]
    intro hc
    obtain ⟨-, hmarks⟩ := hdigit c hc
    exact hexponent.head?_append hmarks (fun heq => by simp [hrest.stopsDigits c heq] at hc) hhead
  have hstops' : StopsDigits (fraction ++ (exponent ++ rest)) := by
    intro c hhead
    rw [Bool.eq_false_iff]
    intro hc
    exact hfraction.head?_append (hdigit c hc).1 (fun heq => by simp [hstops c heq] at hc) hhead
  have hdot : (exponent ++ rest).head? ≠ some '.' :=
    hexponent.head?_append (c := '.') (by decide) (hrest.ne (by decide))
  have hreadWhole := readWhole_of_isWhole hwhole hstops'
  have hreadFraction := readFraction_of_isFraction hfraction hdot hstops
  have hreadExponent := readExponent_of_isExponent hexponent (hrest.ne (by decide))
    (hrest.ne (by decide)) hrest.stopsDigits
  have hassoc : sign ++ whole ++ fraction ++ exponent ++ rest =
      sign ++ (whole ++ (fraction ++ (exponent ++ rest))) := by
    simp only [List.append_assoc]
  rw [hassoc]
  obtain rfl | rfl := hsign
  · -- without a sign the numeral begins with a digit, which is none
    have hminus : ∀ r, whole ++ (fraction ++ (exponent ++ rest)) = '-' :: r → False := by
      intro r hr
      obtain ⟨d, ws, rfl, hd⟩ := hwhole.exists_cons
      exact (ne_sign_of_digit hd).2 (List.cons.inj hr).1
    rw [List.nil_append, readNumber.eq_2 _ hminus, hreadWhole]
    simp only [bind, Option.bind_some, hreadFraction, hreadExponent]
    rfl
  · rw [List.singleton_append, readNumber.eq_1, hreadWhole]
    simp only [bind, Option.bind_some, hreadFraction, hreadExponent]
    rfl

/-- A numeral stands behind an optional sign. -/
theorem exists_sign_readNumber (cs : List Char) : ∃ sign body,
    (sign = [] ∨ sign = ['-']) ∧ cs = sign ++ body ∧ readNumber cs =
      (readWhole body).bind fun w => (readFraction w.2).bind fun f =>
        (readExponent f.2).bind fun e => some (sign ++ w.1 ++ f.1 ++ e.1, e.2) := by
  rw [readNumber.eq_def]
  split
  rename_i sign body hsplit
  split at hsplit
  all_goals
    obtain ⟨rfl, rfl⟩ := Prod.mk.inj hsplit
    exact ⟨_, _, by simp, rfl, rfl⟩

/-- **What is read as a number is a numeral.** -/
theorem isNumber_of_readNumber (h : readNumber cs = some (ds, rest)) :
    cs = ds ++ rest ∧ IsNumber ds := by
  obtain ⟨sign, body, hsign, rfl, hread⟩ := exists_sign_readNumber cs
  rw [hread] at h
  obtain ⟨⟨whole, cs⟩, hreadWhole, h⟩ := Option.bind_eq_some_iff.1 h
  obtain ⟨⟨fraction, cs'⟩, hreadFraction, h⟩ := Option.bind_eq_some_iff.1 h
  obtain ⟨⟨exponent, cs''⟩, hreadExponent, h⟩ := Option.bind_eq_some_iff.1 h
  obtain ⟨rfl, rfl⟩ := Prod.mk.inj (Option.some.inj h)
  obtain ⟨rfl, hwhole⟩ := isWhole_of_readWhole hreadWhole
  obtain ⟨rfl, hfraction⟩ := isFraction_of_readFraction hreadFraction
  obtain ⟨rfl, hexponent⟩ := isExponent_of_readExponent hreadExponent
  exact ⟨by simp only [List.append_assoc], .parts hsign hwhole hfraction hexponent⟩

end UnitFoundry.Json
