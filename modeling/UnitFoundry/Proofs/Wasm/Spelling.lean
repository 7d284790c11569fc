import Mathlib.Data.List.Basic
import UnitFoundry.Engine.Texts
import UnitFoundry.Wasm.Text.Reader

/-! # Reading expressions

The scanner reads one character at a time, and so text can be taken apart into pieces. A piece
starts with a blank or a parenthesis, so that whatever stands before it is complete. Then the tokens
of a text are those of its pieces, one after another, and so are the expressions.

* **`Wasm.Text.Scans`**: the tokens of a piece.
* **`Wasm.Text.Gathers`**: the expressions that tokens make up.
* **`Wasm.Text.Spells.exists_tokens`**: what a text spells is what its tokens make up.
* **`Wasm.Text.Source.read_of_spells`**: a text is read as the expressions that it spells. -/

namespace UnitFoundry.Wasm.Text

variable {m m' m'' : Mode} {c : Char} {cs ds w : List Char} {p ts ts' : List Token}
  {xs ys : List Sexp}

/-! ## Reading characters -/

/-- Whether reading characters leads from one mode to another and completes tokens. -/
inductive Reads : Mode → List Char → List Token → Mode → Prop where
  /-- Nothing is read. -/
  | nil (m : Mode) : Reads m [] [] m
  /-- One more character is read first. -/
  | cons {m m' m'' : Mode} {c : Char} {cs : List Char} {ts ts' : List Token} :
    m.step c = .ok (ts, m') → Reads m' cs ts' m'' → Reads m (c :: cs) (ts ++ ts') m''

namespace Reads

theorem append (h : Reads m cs ts m') (h' : Reads m' ds ts' m'') :
    Reads m (cs ++ ds) (ts ++ ts') m'' := by
  induction h with
  | nil => exact h'
  | cons hstep _ ih =>
      rw [List.append_assoc, List.cons_append]
      exact .cons hstep (ih h')

theorem single (h : m.step c = .ok (ts, m')) : Reads m [c] ts m' :=
  List.append_nil ts ▸ .cons h (.nil m')

theorem scan (h : Reads m cs ts m') (hfinish : m'.finish = .ok ts') :
    scan m cs = .ok (ts ++ ts') := by
  induction h with
  | nil => exact hfinish
  | cons hstep _ ih =>
      rw [Text.scan, hstep]
      simp only [bind, Except.bind, ih hfinish, pure, Except.pure, List.append_assoc]

end Reads

/-! ## Words -/

/-- A word with a character in front of it. -/
theorem IsWord.cons {s : String} (h : IsWord s) {c : Char} (hc : isWordChar c = true) :
    IsWord (String.singleton c ++ s) := by
  have hlist : (String.singleton c ++ s).toList = c :: s.toList := by
    rw [String.toList_append, String.toList_singleton, List.singleton_append]
  rw [IsWord, hlist]
  exact ⟨List.cons_ne_nil _ _, List.forall_mem_cons.2 ⟨hc, h.2⟩⟩

theorem ne_of_isWordChar (h : isWordChar c = true) {d : Char} (hd : isWordChar d = false) :
    c ≠ d := by
  rintro rfl
  rw [h] at hd
  exact Bool.noConfusion hd

theorem isSeparator_iff : isSeparator c = true ↔ c = ' ' ∨ c = '\t' ∨ c = '\n' ∨ c = '\r' := by
  simp only [isSeparator, Bool.or_eq_true, beq_iff_eq, or_assoc]

theorem isWordChar_of_isSeparator (h : isSeparator c = true) : isWordChar c = false := by
  obtain rfl | rfl | rfl | rfl := isSeparator_iff.1 h <;> decide

/-- A character of a word starts one. -/
theorem Mode.fromGap_of_isWordChar (h : isWordChar c = true) :
    Mode.fromGap c = .ok ([], .word [c]) := by
  have hseparator : isSeparator c = false := by
    rw [Bool.eq_false_iff]
    intro hsep
    rw [isWordChar_of_isSeparator hsep] at h
    exact Bool.noConfusion h
  rw [fromGap, hseparator, if_neg Bool.false_ne_true, if_neg (ne_of_isWordChar h (by decide)),
    if_neg (ne_of_isWordChar h (by decide)), if_neg (ne_of_isWordChar h (by decide)),
    if_neg (ne_of_isWordChar h (by decide)), if_pos h]

/-- A word goes on as long as there are characters for it. -/
theorem Reads.word (hw : ∀ c ∈ w, isWordChar c = true) (acc : List Char) :
    Reads (.word acc) w [] (.word (w.reverse ++ acc)) := by
  induction w generalizing acc with
  | nil => exact .nil _
  | cons c w ih =>
      have hstep : (Mode.word acc).step c = .ok ([], .word (c :: acc)) :=
        if_pos (hw c List.mem_cons_self)
      have hrest := ih (fun d hd => hw d (List.mem_cons_of_mem _ hd)) (c :: acc)
      rw [List.reverse_cons, List.append_assoc, List.singleton_append]
      exact .cons hstep hrest

/-! ## Tokens that are complete -/

/-- The tokens that are complete unless they are continued. -/
def Mode.pending? : Mode → Option (List Token)
  | .gap => some []
  | .word acc => some [.word (String.ofList acc.reverse)]
  | .afterText role bytes => some (role.tokens bytes)
  | _ => none

theorem Mode.finish_of_pending? (h : m.pending? = some p) : m.finish = .ok p := by
  cases m with
  | gap | word | afterText =>
      obtain rfl := Option.some.inj h
      rfl
  | _ => exact absurd h (by simp [pending?])

/-- A word is read from where its first character starts one. -/
theorem Reads.of_isWord (m : Mode) (ts : List Token) {s : String} (hs : IsWord s)
    (hfirst : ∀ d ∈ s.toList.head?, m.step d = .ok (ts, .word [d])) :
    ∃ m', Reads m s.toList ts m' ∧ m'.pending? = some [.word s] := by
  obtain ⟨d, w, hlist⟩ := List.exists_cons_of_ne_nil hs.1
  have hrest := Reads.word (fun e he => hs.2 e (hlist ▸ List.mem_cons_of_mem _ he)) [d]
  rw [hlist] at hfirst ⊢
  have hreads := Reads.cons (hfirst d rfl) hrest
  rw [List.append_nil] at hreads
  refine ⟨_, hreads, ?_⟩
  rw [Mode.pending?, List.reverse_append, List.reverse_reverse, List.reverse_singleton,
    List.singleton_append, ← hlist, String.ofList_toList]

/-- What continues neither a word nor a string completes what there is. -/
theorem Mode.step_of_pending? (h : m.pending? = some p) (hc : isWordChar c = false)
    (hquote : c ≠ '"') : m.step c = fromGapAfter p c := by
  cases m with
  | gap =>
      obtain rfl := Option.some.inj h
      rw [step, fromGapAfter]
      cases fromGap c <;> rfl
  | word acc =>
      obtain rfl := Option.some.inj h
      rw [step, hc, if_neg Bool.false_ne_true, if_neg hquote]
  | afterText role bytes =>
      obtain rfl := Option.some.inj h
      rw [step, hc, if_neg Bool.false_ne_true, if_neg hquote]
  | _ => exact absurd h (by simp [pending?])

/-- The tokens of a piece of text. Wherever it stands, what is before it is complete. -/
def Scans (cs : List Char) (ts : List Token) : Prop :=
  ∀ m p, m.pending? = some p →
    ∃ done m' p', Reads m cs done m' ∧ m'.pending? = some p' ∧ done ++ p' = p ++ ts

namespace Scans

theorem nil : Scans [] [] := fun m p h => ⟨[], m, p, .nil m, h, by rw [List.append_nil]; rfl⟩

theorem append (h : Scans cs ts) (h' : Scans ds ts') : Scans (cs ++ ds) (ts ++ ts') := by
  intro m p hp
  obtain ⟨done, m', p', hreads, hp', hdone⟩ := h m p hp
  obtain ⟨done', m'', p'', hreads', hp'', hdone'⟩ := h' m' p' hp'
  refine ⟨done ++ done', m'', p'', hreads.append hreads', hp'', ?_⟩
  rw [List.append_assoc, hdone', ← List.append_assoc, hdone, List.append_assoc]

/-- A piece starts with a character that completes what is before it. -/
theorem of_reads (hc : isWordChar c = false) (hquote : c ≠ '"')
    (hgap : Mode.fromGap c = .ok (ts, m)) (h : Reads m cs ts' m') (hp : m'.pending? = some p) :
    Scans (c :: cs) (ts ++ (ts' ++ p)) := by
  intro m₀ p₀ hp₀
  have hstep : m₀.step c = .ok (p₀ ++ ts, m) := by
    rw [Mode.step_of_pending? hp₀ hc hquote, Mode.fromGapAfter, hgap]
    rfl
  exact ⟨_, m', p, .cons hstep h, hp, by simp only [List.append_assoc]⟩

/-- After a blank, a piece is read from a gap. -/
theorem of_reads_gap (hc : isSeparator c = true) (h : Reads .gap cs ts m)
    (hp : m.pending? = some p) : Scans (c :: cs) (ts ++ p) := by
  have hgap : Mode.fromGap c = .ok ([], .gap) := if_pos hc
  have hquote : c ≠ '"' := by
    rintro rfl
    exact absurd hc (by decide)
  exact of_reads (isWordChar_of_isSeparator hc) hquote hgap h hp

/-- A blank. -/
theorem separator (hc : isSeparator c = true) : Scans [c] [] :=
  of_reads_gap hc (.nil .gap) rfl

/-- A word after a blank. -/
theorem word {s : String} (hc : isSeparator c = true) (hs : IsWord s) :
    Scans (c :: s.toList) [.word s] := by
  obtain ⟨m, hreads, hp⟩ := Reads.of_isWord .gap [] hs fun d hd =>
    Mode.fromGap_of_isWordChar (hs.2 d (List.mem_of_mem_head? hd))
  exact of_reads_gap hc hreads hp

/-- A closing parenthesis. -/
theorem close : Scans [')'] [.close] :=
  of_reads (c := ')') (m := .gap) (p := []) (by decide) (by decide) rfl (.nil .gap) rfl

/-- An opening parenthesis with a keyword. -/
theorem open_ {k : String} (hk : IsWord k) (hnote : k.toList.head? ≠ some '@') :
    Scans ('(' :: k.toList) [.open_, .word k] := by
  obtain ⟨m, hreads, hp⟩ := Reads.of_isWord .paren [.open_] hk fun d hd => by
    have hd' := hk.2 d (List.mem_of_mem_head? hd)
    have hne : d ≠ '@' := fun heq => hnote (heq ▸ hd)
    rw [Mode.step, if_neg (ne_of_isWordChar hd' (by decide)), if_neg hne, Mode.fromGapAfter,
      Mode.fromGap_of_isWordChar hd']
    rfl
  exact of_reads (c := '(') (m := .paren) (by decide) (by decide) rfl hreads hp

end Scans

/-! ## Strings -/

theorem Reads.inText (hw : ∀ c ∈ w, IsPlain c) (role : Role) (acc : List UInt8) :
    Reads (.inText role acc) w [] (.inText role ((bytesOf w).reverse ++ acc)) := by
  induction w generalizing acc with
  | nil => exact .nil _
  | cons c w ih =>
      obtain ⟨hquote, hescape, hplain⟩ := hw c List.mem_cons_self
      have hstep : (Mode.inText role acc).step c =
          .ok ([], .inText role ((String.utf8EncodeChar c).reverse ++ acc)) := by
        rw [Mode.step, Mode.fromText, if_neg hquote, if_neg hescape, if_neg hplain]
      have hrest := ih (fun d hd => hw d (List.mem_cons_of_mem _ hd))
        ((String.utf8EncodeChar c).reverse ++ acc)
      rw [bytesOf, List.flatMap_cons, List.reverse_append, List.append_assoc]
      exact .cons hstep hrest

/-- A string after a blank. -/
theorem Scans.text (hc : isSeparator c = true) (hw : ∀ d ∈ w, IsPlain d) :
    Scans (c :: '"' :: (w ++ ['"'])) [.text (bytesOf w)] := by
  have hopen : Mode.gap.step '"' = .ok ([], .inText .plain []) := rfl
  have hclose : (Mode.inText .plain ((bytesOf w).reverse ++ [])).step '"' =
      .ok ([], .afterText .plain (bytesOf w)) := by
    rw [Mode.step, Mode.fromText, if_pos rfl, List.append_nil, List.reverse_reverse]
  have hreads := Reads.cons hopen ((Reads.inText hw .plain []).append (.single hclose))
  exact of_reads_gap hc hreads (p := [.text (bytesOf w)]) rfl

/-- The bytes of a name give the name. -/
theorem readName_bytesOf (cs : List Char) : readName (bytesOf cs) = .ok (String.ofList cs) := by
  have hbytes : ByteArray.mk (bytesOf cs).toArray = cs.utf8Encode := by
    rw [List.utf8Encode, ByteArray.ext_iff, List.data_toByteArray]
    rfl
  have hvalid : String.fromUTF8? cs.utf8Encode = some (String.ofList cs) := by
    rw [String.fromUTF8?, dif_pos ⟨cs, rfl⟩]
    rfl
  rw [readName, hbytes, hvalid]

/-! ## Gathering tokens -/

/-- The expressions that tokens make up, wherever they stand. -/
def Gathers (ts : List Token) (xs : List Sexp) : Prop :=
  ∀ outer above rest,
    Sexp.gather outer above (ts ++ rest) = Sexp.gather outer (xs.reverse ++ above) rest

namespace Gathers

theorem nil : Gathers [] [] := fun _ _ _ => rfl

theorem append (h : Gathers ts xs) (h' : Gathers ts' ys) : Gathers (ts ++ ts') (xs ++ ys) := by
  intro outer above rest
  rw [List.append_assoc, h, h', List.reverse_append, List.append_assoc]

theorem word (s : String) : Gathers [.word s] [.word s] := fun _ _ _ => rfl

theorem text (bytes : List UInt8) : Gathers [.text bytes] [.text bytes] := fun _ _ _ => rfl

/-- Between parentheses tokens make up one form. -/
theorem form (h : Gathers ts xs) : Gathers (.open_ :: (ts ++ [.close])) [.form xs] := by
  intro outer above rest
  rw [List.cons_append, List.append_assoc, Sexp.gather, h, List.append_nil, List.singleton_append,
    Sexp.gather, List.reverse_reverse]
  rfl

end Gathers

/-! ## Spelling -/

namespace Spells

/-- Blanks spell nothing. -/
theorem separators (hcs : cs.all isSeparator = true) : Spells cs [] := by
  induction cs with
  | nil => exact .nil
  | cons c cs ih =>
      rw [List.all_cons, Bool.and_eq_true] at hcs
      exact (separator hcs.1).append (ih hcs.2)

/-- **What a text spells is what its tokens make up.** -/
theorem exists_tokens (h : Spells cs xs) : ∃ ts, Scans cs ts ∧ Gathers ts xs := by
  induction h with
  | nil => exact ⟨[], .nil, .nil⟩
  | append _ _ ih ih' =>
      obtain ⟨ts, hscans, hgathers⟩ := ih
      obtain ⟨ts', hscans', hgathers'⟩ := ih'
      exact ⟨ts ++ ts', hscans.append hscans', hgathers.append hgathers'⟩
  | separator hc => exact ⟨[], .separator hc, .nil⟩
  | word hc hs => exact ⟨_, .word hc hs, .word _⟩
  | text hc hw => exact ⟨_, .text hc hw, .text _⟩
  | @form k cs xs hk hnote _ ih =>
      obtain ⟨ts, hscans, hgathers⟩ := ih
      refine ⟨.open_ :: (.word k :: ts ++ [.close]), ?_, .form ((Gathers.word k).append hgathers)⟩
      exact (Scans.open_ hk hnote).append (hscans.append .close)

end Spells

/-- **A text is read as the expressions that it spells.** -/
theorem Source.read_of_spells {s : String} (h : Spells s.toList xs) (hne : xs ≠ []) :
    Source.read s = Source.ofSexps xs := by
  obtain ⟨ts, hscans, hgathers⟩ := h.exists_tokens
  obtain ⟨done, m, p, hreads, hp, hdone⟩ := hscans .gap [] rfl
  have htokens : tokens s.toList = .ok ts := by
    rw [tokens, hreads.scan (Mode.finish_of_pending? hp), hdone, List.nil_append]
  have hsexps : Sexp.ofTokens ts = .ok xs := by
    have hgather := hgathers [] [] []
    rw [List.append_nil, List.append_nil] at hgather
    rw [Sexp.ofTokens, hgather, Sexp.gather, List.reverse_reverse]
    rfl
  have hts : ts.isEmpty = false := by
    cases ts with
    | nil => exact absurd (Except.ok.inj hsexps).symm hne
    | cons => rfl
  rw [Source.read, htokens]
  simp only [bind, Except.bind, hts, hsexps, Bool.false_eq_true, if_false]

end UnitFoundry.Wasm.Text
