import UnitFoundry.Proofs.Emit.OpenBlocks
import UnitFoundry.Proofs.Emit.Trees

/-! # How templates fail

A template is written line by line. A line may open a block or close one, and it fails if it closes
a block where none is open. Which line that is can be told from the text: the blocks that are open
in front of a line are those of the writer, and those that the lines before it open, without those
that they close.

* **`Emit.reads_iff`**: what a line asks for, told from its text.
* **`Emit.Unmatched`**: whether a line closes a block where none is open.
* **`Emit.outcome_templateLines`**: lines fail at the first such line, and not otherwise.
* **`Text.lines_append_newline`**: the lines of two texts with a newline between them.
* **`Emit.Writer.write_exact`**: how writing a template fails, and how it goes on with another
  one. -/

namespace UnitFoundry

/-! ## Lines -/

namespace Text

variable {acc cs ds : List Char}

/-- Lines that have been read up to a newline are not changed by what comes behind it, unless the
newline ends an empty line or takes a carriage return away. -/
theorem go_append_line {c : Char} (hlast : (acc.reverse ++ cs).getLast? = some c) (hn : c ≠ '\n')
    (hr : c ≠ '\r') : lines.go acc (cs ++ '\n' :: ds) = lines.go acc cs ++ lines ds := by
  induction cs generalizing acc with
  | nil =>
      rw [List.append_nil, List.getLast?_reverse] at hlast
      have hended : endedLine acc = acc.reverse := by
        have hreturn : acc.reverse.getLast? ≠ some '\r' := by
          rw [List.getLast?_reverse, hlast]
          exact fun h => hr (Option.some.inj h)
        have hline := endedLine_reverse hreturn
        rwa [List.reverse_reverse] at hline
      have hne : acc.isEmpty = false := by
        cases acc with
        | nil => exact absurd hlast (by simp)
        | cons d acc => rfl
      rw [List.nil_append, lines.go, lines.go, if_pos rfl, hended, hne]
      rfl
  | cons d cs ih =>
      rw [List.cons_append, lines.go, lines.go]
      split
      · rename_i hd
        subst hd
        rw [List.getLast?_append_cons] at hlast
        have hrest : ([].reverse ++ cs).getLast? = some c := by
          cases cs with
          | nil => exact absurd (Option.some.inj hlast).symm hn
          | cons e cs => exact hlast
        rw [ih hrest, List.cons_append]
      · refine ih ?_
        rw [List.reverse_cons, List.append_assoc]
        exact hlast

/-- **The lines of two texts with a newline between them**, if the first one does not end in what
belongs to the end of a line. -/
theorem lines_append_newline {c : Char} (hlast : cs.getLast? = some c) (hn : c ≠ '\n')
    (hr : c ≠ '\r') : lines (cs ++ '\n' :: ds) = lines cs ++ lines ds :=
  go_append_line (by simpa using hlast) hn hr

end Text

namespace Emit

open TemplateLine

variable {l bs cs rest : List Char} {x : TemplateLine}

/-! ## What a line asks for -/

/-- Whether a line opens a block: behind blanks it starts with the marker. -/
def Opens (l : List Char) : Prop :=
  ∃ bs rest, (∀ c ∈ bs, Text.isBlank c = true) ∧ l = bs ++ openMarker ++ rest

/-- Whether a line closes a block: behind blanks it starts with the marker, and the marker is a
word of its own. -/
def Closes (l : List Char) : Prop :=
  ∃ bs rest, (∀ c ∈ bs, Text.isBlank c = true) ∧ l = bs ++ endMarker ++ rest ∧
    ∀ c ∈ rest.head?, continuesWord c = false

/-- What a line asks for, told from its text. -/
inductive Reads : List Char → TemplateLine → Prop where
  /-- Nothing but blanks is an empty line. -/
  | blank {l : List Char} : (∀ c ∈ l, Text.isBlank c = true) → Reads l .blank
  /-- The header of a block stands behind the marker that opens it. -/
  | opening {bs header : List Char} : (∀ c ∈ bs, Text.isBlank c = true) →
    Reads (bs ++ openMarker ++ header) (.opening (String.ofList (Text.trim (header.map unquote))))
  /-- What trails a block stands behind the marker that closes it. -/
  | closing {bs trailing : List Char} : (∀ c ∈ bs, Text.isBlank c = true) →
    (∀ c ∈ trailing.head?, continuesWord c = false) →
    Reads (bs ++ endMarker ++ trailing)
      (.closing (String.ofList (Text.trim (trailing.map unquote))))
  /-- Any other line is text. -/
  | text {l : List Char} : ¬(∀ c ∈ l, Text.isBlank c = true) → ¬Opens l → ¬Closes l →
    Reads l (.text (String.ofList (l.map unquote)))

theorem isBlank_unquote (c : Char) : Text.isBlank (unquote c) = Text.isBlank c := by
  rw [unquote]
  split
  · rename_i h
    rw [h]
    decide
  · rfl

theorem continuesWord_unquote (c : Char) : continuesWord (unquote c) = continuesWord c := by
  rw [unquote]
  split
  · rename_i h
    rw [h]
    decide +kernel
  · rfl

theorem trimStart_map_unquote (l : List Char) :
    Text.trimStart (l.map unquote) = (Text.trimStart l).map unquote := by
  rw [Text.trimStart, List.dropWhile_map, Text.trimStart]
  congr 2
  exact funext isBlank_unquote

theorem after?_eq_some_iff {marker : List Char} : after? marker cs = some rest ↔
    cs = marker ++ rest := by
  rw [after?]
  constructor
  · intro h
    split at h
    · rename_i hmarker
      obtain ⟨t, rfl⟩ := List.isPrefixOf_iff_prefix.1 hmarker
      rw [List.drop_left, Option.some.injEq] at h
      rw [h]
    · exact absurd h (by simp)
  · rintro rfl
    rw [if_pos (List.isPrefixOf_iff_prefix.2 (List.prefix_append _ _)), List.drop_left]

/-- Behind the blanks in front of a line stands what trimming leaves. -/
theorem exists_eq_append_iff (marker : List Char) {P : List Char → Prop} {b : Char}
    {m : List Char} (hmarker : marker = b :: m) (hb : Text.isBlank b = false) :
    (∃ bs rest, (∀ c ∈ bs, Text.isBlank c = true) ∧ l = bs ++ marker ++ rest ∧ P rest) ↔
      ∃ rest, Text.trimStart l = marker ++ rest ∧ P rest := by
  constructor
  · rintro ⟨bs, rest, hbs, rfl, hrest⟩
    refine ⟨rest, ?_, hrest⟩
    rw [List.append_assoc, Text.trimStart_append hbs, hmarker, List.cons_append,
      Text.trimStart_cons, hb]
    rfl
  · rintro ⟨rest, htrim, hrest⟩
    refine ⟨l.takeWhile Text.isBlank, rest, fun c hc => List.mem_takeWhile_imp hc, ?_, hrest⟩
    rw [List.append_assoc, ← htrim, Text.trimStart, List.takeWhile_append_dropWhile]

theorem opens_iff : Opens l ↔ (after? openMarker (Text.trimStart l)).isSome = true := by
  have h := exists_eq_append_iff (l := l) openMarker (P := fun _ => True) rfl (by decide)
  simp only [and_true] at h
  rw [Opens, h, Option.isSome_iff_exists]
  simp only [after?_eq_some_iff]

theorem afterEnd?_eq_some_iff : afterEnd? cs = some rest ↔
    cs = endMarker ++ rest ∧ ∀ c ∈ rest.head?, continuesWord c = false := by
  rw [← after?_eq_some_iff, afterEnd?]
  cases after? endMarker cs with
  | none => simp
  | some t =>
      cases t with
      | nil =>
          simp only [Option.some.injEq]
          exact ⟨by rintro rfl; simp, And.left⟩
      | cons c t =>
          by_cases hc : continuesWord c = true
          · simp only [hc, if_true, Option.some.injEq]
            exact ⟨fun h => absurd h (by simp), by rintro ⟨rfl, h⟩; simpa [hc] using h c rfl⟩
          · rw [Bool.not_eq_true] at hc
            simp only [hc, Bool.false_eq_true, if_false, Option.some.injEq]
            exact ⟨by rintro rfl; simpa using hc, And.left⟩

theorem closes_iff : Closes l ↔ (afterEnd? (Text.trimStart l)).isSome = true := by
  rw [Closes, exists_eq_append_iff endMarker rfl (by decide),
    Option.isSome_iff_exists]
  simp only [afterEnd?_eq_some_iff]

instance : DecidablePred Opens := fun _ => decidable_of_iff _ opens_iff.symm

instance : DecidablePred Closes := fun _ => decidable_of_iff _ closes_iff.symm

/-- A marker has no quotes, so it is the same where a grave accent stands for a quote. -/
theorem map_unquote_eq_append_iff {marker : List Char} (hquote : '"' ∉ marker)
    (hgrave : '\x60' ∉ marker) : cs.map unquote = marker ++ rest ↔
      ∃ rest', cs = marker ++ rest' ∧ rest'.map unquote = rest := by
  constructor
  · intro h
    obtain ⟨m, rest', rfl, hm, hrest⟩ := List.map_eq_append_iff.1 h
    refine ⟨rest', ?_, hrest⟩
    rw [← hm] at hquote
    have hplain : '\x60' ∉ m := fun hmem =>
      hquote (List.mem_map.2 ⟨'\x60', hmem, if_pos rfl⟩)
    rw [← hm, map_unquote hplain]
  · rintro ⟨rest', rfl, rfl⟩
    rw [List.map_append, map_unquote hgrave]

theorem after?_map_unquote (marker : List Char) (hquote : '"' ∉ marker)
    (hgrave : '\x60' ∉ marker) (cs : List Char) :
    after? marker (cs.map unquote) = (after? marker cs).map (·.map unquote) := by
  refine Option.ext fun rest => ?_
  rw [after?_eq_some_iff, map_unquote_eq_append_iff hquote hgrave, Option.map_eq_some_iff]
  simp only [after?_eq_some_iff]

theorem afterEnd?_map_unquote (cs : List Char) :
    afterEnd? (cs.map unquote) = (afterEnd? cs).map (·.map unquote) := by
  refine Option.ext fun rest => ?_
  rw [afterEnd?_eq_some_iff, map_unquote_eq_append_iff (by decide) (by decide),
    Option.map_eq_some_iff]
  simp only [afterEnd?_eq_some_iff]
  constructor
  · rintro ⟨⟨rest', hcs, rfl⟩, hword⟩
    refine ⟨rest', ⟨hcs, fun c hc => ?_⟩, rfl⟩
    rw [← continuesWord_unquote]
    exact hword _ (by rw [List.head?_map]; exact Option.mem_map_of_mem unquote hc)
  · rintro ⟨rest', ⟨hcs, hword⟩, rfl⟩
    refine ⟨⟨rest', hcs, rfl⟩, fun c hc => ?_⟩
    rw [List.head?_map, Option.mem_def, Option.map_eq_some_iff] at hc
    obtain ⟨d, hd, rfl⟩ := hc
    rw [continuesWord_unquote]
    exact hword d hd

/-- What a line asks for is told by what stands behind the blanks in front of it. -/
theorem classify_eq (l : List Char) : classify l =
    if (Text.trimStart l).isEmpty then .blank
    else
      match after? openMarker (Text.trimStart l) with
      | some header => .opening (String.ofList (Text.trim (header.map unquote)))
      | none =>
        match afterEnd? (Text.trimStart l) with
        | some trailing => .closing (String.ofList (Text.trim (trailing.map unquote)))
        | none => .text (String.ofList (l.map unquote)) := by
  rw [classify, trimStart_map_unquote, List.isEmpty_map]
  simp only [after?_map_unquote openMarker (by decide) (by decide),
    afterEnd?_map_unquote]
  cases after? openMarker (Text.trimStart l) with
  | some header => rfl
  | none => cases afterEnd? (Text.trimStart l) <;> rfl

/-- A line that opens a block does not close one. -/
theorem Opens.not_closes (h : Opens l) : ¬Closes l := by
  rw [opens_iff, Option.isSome_iff_exists] at h
  rw [closes_iff, Option.isSome_iff_exists]
  rintro ⟨rest', hclose⟩
  obtain ⟨rest, hopen⟩ := h
  rw [after?_eq_some_iff] at hopen
  rw [afterEnd?_eq_some_iff, hopen] at hclose
  exact absurd (List.head_eq_of_cons_eq hclose.1) (by decide)

/-- A line of blanks neither opens a block nor closes one. -/
theorem not_opens_of_blank (h : ∀ c ∈ l, Text.isBlank c = true) : ¬Opens l ∧ ¬Closes l := by
  rw [opens_iff, closes_iff, Text.trimStart_eq_nil_iff.2 h]
  decide

/-- **What a line asks for is what its text tells.** -/
theorem reads_classify (l : List Char) : Reads l (classify l) := by
  have hsplit : l = l.takeWhile Text.isBlank ++ Text.trimStart l :=
    List.takeWhile_append_dropWhile.symm
  have hblank : ∀ c ∈ l.takeWhile Text.isBlank, Text.isBlank c = true :=
    fun c hc => List.mem_takeWhile_imp hc
  rw [classify_eq]
  by_cases hnil : (Text.trimStart l).isEmpty = true
  · rw [if_pos hnil]
    exact .blank (Text.trimStart_eq_nil_iff.1 (List.isEmpty_iff.1 hnil))
  rw [if_neg hnil]
  cases hopen : after? openMarker (Text.trimStart l) with
  | some header =>
      have hline := hsplit
      rw [after?_eq_some_iff.1 hopen, ← List.append_assoc] at hline
      rw [hline]
      exact .opening hblank
  | none =>
      cases hclose : afterEnd? (Text.trimStart l) with
      | some trailing =>
          obtain ⟨htrim, hword⟩ := afterEnd?_eq_some_iff.1 hclose
          have hline := hsplit
          rw [htrim, ← List.append_assoc] at hline
          rw [hline]
          exact .closing hblank hword
      | none =>
          refine .text (fun hall => hnil ?_) ?_ ?_
          · rw [Text.trimStart_eq_nil_iff.2 hall]
            rfl
          · rw [opens_iff, hopen]
            decide
          · rw [closes_iff, hclose]
            decide

/-- **What a line asks for**, told from its text. -/
theorem reads_iff : Reads l x ↔ classify l = x := by
  refine ⟨fun h => ?_, fun h => h ▸ reads_classify l⟩
  rw [classify_eq]
  cases h with
  | blank hblank => rw [Text.trimStart_eq_nil_iff.2 hblank]; rfl
  | @opening bs header hbs =>
      have htrim : Text.trimStart (bs ++ openMarker ++ header) = openMarker ++ header := by
        rw [List.append_assoc, Text.trimStart_append hbs]
        rfl
      rw [htrim, after?_eq_some_iff.2 rfl]
      rfl
  | @closing bs trailing hbs hword =>
      have htrim : Text.trimStart (bs ++ endMarker ++ trailing) = endMarker ++ trailing := by
        rw [List.append_assoc, Text.trimStart_append hbs]
        rfl
      have hopen : after? openMarker (endMarker ++ trailing) = none :=
        if_neg (by simp [openMarker, endMarker])
      rw [htrim, hopen, afterEnd?_eq_some_iff.2 ⟨rfl, hword⟩]
      rfl
  | text hblank hopens hcloses =>
      rw [opens_iff, Option.not_isSome_iff_eq_none] at hopens
      rw [closes_iff, Option.not_isSome_iff_eq_none] at hcloses
      rw [if_neg, hopens, hcloses]
      exact fun hnil => hblank (Text.trimStart_eq_nil_iff.1 (List.isEmpty_iff.1 hnil))

/-! ## Lines one after another -/

/-- One writer comes of another by writing lines one after another. -/
inductive Writes : Writer → List (List Char) → Writer → Prop where
  /-- No line at all. -/
  | nil (w : Writer) : Writes w [] w
  /-- An empty line. -/
  | blank {w w' : Writer} {l : List Char} {ls : List (List Char)} : Reads l .blank →
    Writes w.blank ls w' → Writes w (l :: ls) w'
  /-- The header of a block, which is opened under it. -/
  | opening {w w' : Writer} {l : List Char} {ls : List (List Char)} {header : String} :
    Reads l (.opening header) → Writes ((w.line header).openBlock header) ls w' →
    Writes w (l :: ls) w'
  /-- The end of the innermost block. -/
  | closing {w w₁ w' : Writer} {l : List Char} {ls : List (List Char)} {trailing : String} :
    Reads l (.closing trailing) → w.finish trailing = .ok w₁ → Writes w₁ ls w' →
    Writes w (l :: ls) w'
  /-- A line of text. -/
  | text {w w' : Writer} {l : List Char} {ls : List (List Char)} {s : String} :
    Reads l (.text s) → Writes (w.line s) ls w' → Writes w (l :: ls) w'

/-- Whether a line closes a block where none is open, when `d` blocks are open in front of the first
one: as many blocks have been closed by the lines before it as were open or have been opened. -/
def Unmatched (d : Nat) (ls : List (List Char)) (k : Nat) : Prop :=
  ∃ l, ls[k]? = some l ∧ Closes l ∧
    d + (ls.take k).countP (Opens ·) = (ls.take k).countP (Closes ·)

instance (d : Nat) (ls : List (List Char)) (k : Nat) : Decidable (Unmatched d ls k) :=
  match h : ls[k]? with
  | none => isFalse fun ⟨_, hl, _⟩ => nomatch h.symm.trans hl
  | some l =>
    decidable_of_iff
      (Closes l ∧ d + (ls.take k).countP (Opens ·) = (ls.take k).countP (Closes ·))
      ⟨fun hl => ⟨l, h, hl⟩, fun ⟨_, hl, hcloses⟩ => Option.some.inj (h.symm.trans hl) ▸ hcloses⟩

section

variable {d e : Nat} {l : List Char} {ls : List (List Char)} {k : Nat} {w w' : Writer}

theorem not_unmatched_nil : ¬Unmatched d [] k := by
  rintro ⟨l, hl, -⟩
  exact absurd hl (by simp)

theorem unmatched_zero : Unmatched d (l :: ls) 0 ↔ Closes l ∧ d = 0 := by
  simp [Unmatched]

theorem countP_cons_first (q : List Char → Prop) [DecidablePred q] (l : List Char)
    (ls : List (List Char)) : (l :: ls).countP (q ·) = [l].countP (q ·) + ls.countP (q ·) := by
  rw [← List.singleton_append, List.countP_append]

/-- Behind a first line the lines are matched as they are on their own, with the blocks that are
open then. -/
theorem unmatched_succ (h : e + [l].countP (Closes ·) = d + [l].countP (Opens ·)) :
    Unmatched d (l :: ls) (k + 1) ↔ Unmatched e ls k := by
  have hcount : d + ((l :: ls).take (k + 1)).countP (Opens ·) =
      ((l :: ls).take (k + 1)).countP (Closes ·) ↔
        e + (ls.take k).countP (Opens ·) = (ls.take k).countP (Closes ·) := by
    rw [List.take_succ_cons, countP_cons_first Opens, countP_cons_first Closes]
    omega
  rw [Unmatched, Unmatched, List.getElem?_cons_succ, hcount]

end

/-- What comes of writing lines: they fail at the first one that closes a block where none is open,
and what has been written then are the lines before it; or all of them are written, and those that
open a block and those that close one tell how many blocks are open. -/
inductive Outcome (w : Writer) (ls : List (List Char)) : Writer × Option EmitError → Prop where
  /-- A line is unmatched. -/
  | fails {k : Nat} {w' : Writer} : Unmatched w.level ls k → (∀ j < k, ¬Unmatched w.level ls j) →
    Writes w (ls.take k) w' → Outcome w ls (w', some .closeWithoutOpen)
  /-- All lines are matched. -/
  | succeeds {w' : Writer} : (∀ k, ¬Unmatched w.level ls k) → Writes w ls w' →
    w'.level + ls.countP (Closes ·) = w.level + ls.countP (Opens ·) → Outcome w ls (w', none)

namespace Outcome

variable {w w₁ : Writer} {l : List Char} {ls : List (List Char)} {r : Writer × Option EmitError}

/-- A line in front that is written leaves it to the other lines whether they fail. -/
theorem cons (hwrites : ∀ ls w', Writes w₁ ls w' → Writes w (l :: ls) w')
    (hlevel : w₁.level + [l].countP (Closes ·) = w.level + [l].countP (Opens ·))
    (hfirst : ¬Unmatched w.level (l :: ls) 0) (h : Outcome w₁ ls r) : Outcome w (l :: ls) r := by
  cases h with
  | fails hk hleast hbefore =>
      refine .fails ((unmatched_succ hlevel).2 hk) (fun j hj => ?_) (hwrites _ _ hbefore)
      cases j with
      | zero => exact hfirst
      | succ j => exact mt (unmatched_succ hlevel).1 (hleast j (Nat.lt_of_succ_lt_succ hj))
  | succeeds hnone hall hcount =>
      refine .succeeds (fun k => ?_) (hwrites _ _ hall) ?_
      · cases k with
        | zero => exact hfirst
        | succ k => exact mt (unmatched_succ hlevel).1 (hnone k)
      · rw [countP_cons_first Opens, countP_cons_first Closes]
        omega

/-- A line in front that neither opens a block nor closes one. -/
theorem cons_plain (hwrites : ∀ ls w', Writes w₁ ls w' → Writes w (l :: ls) w')
    (hblocks : w₁.level = w.level) (hopens : ¬Opens l) (hcloses : ¬Closes l)
    (h : Outcome w₁ ls r) : Outcome w (l :: ls) r := by
  refine h.cons hwrites ?_ fun hfirst => hcloses (unmatched_zero.1 hfirst).1
  simp [hblocks, hopens, hcloses]

end Outcome

/-- **Template lines fail at the first line that closes a block where none is open**, and not
otherwise. -/
theorem outcome_templateLines (w : Writer) (ls : List (List Char)) :
    Outcome w ls (w.templateLines (ls.map classify)) := by
  induction ls generalizing w with
  | nil => exact .succeeds (fun _ => not_unmatched_nil) (.nil w) rfl
  | cons l ls ih =>
      rw [List.map_cons, Writer.templateLines]
      have hl := reads_classify l
      cases hx : classify l with
      | blank =>
          rw [hx] at hl
          cases hl with
          | blank hblank =>
              obtain ⟨hopens, hcloses⟩ := not_opens_of_blank hblank
              exact (ih w.blank).cons_plain (fun _ _ => .blank (.blank hblank)) rfl hopens hcloses
      | text s =>
          rw [hx] at hl
          have hline := hl
          cases hl with
          | text hblank hopens hcloses =>
              exact (ih (w.line _)).cons_plain (fun _ _ => .text hline) rfl hopens hcloses
      | opening header =>
          rw [hx] at hl
          have hopens : Opens l := by
            cases hl with
            | opening hbs => exact ⟨_, _, hbs, rfl⟩
          refine (ih (w.openUnder header)).cons (fun _ _ => .opening hl) ?_
            fun hfirst => hopens.not_closes (unmatched_zero.1 hfirst).1
          simp [Writer.level, hopens, hopens.not_closes]
      | closing trailing =>
          rw [hx] at hl
          have hcloses : Closes l := by
            cases hl with
            | closing hbs hword => exact ⟨_, _, hbs, rfl, hword⟩
          have hopens : ¬Opens l := fun h => h.not_closes hcloses
          rw [Writer.templateLine]
          cases hfinish : w.finish trailing with
          | error e =>
              -- the line itself is unmatched
              obtain ⟨hnil, rfl⟩ := Writer.finish_eq_error_iff.1 hfinish
              have hlevel : w.level = 0 := by rw [Writer.level, hnil]; rfl
              exact .fails (unmatched_zero.2 ⟨hcloses, hlevel⟩)
                (fun j hj => absurd hj (Nat.not_lt_zero j)) (.nil w)
          | ok w₁ =>
              obtain ⟨label, outer, hblocks, -⟩ := Writer.finish_eq_ok hfinish
              have hafter := Writer.openBlocks_of_finish hfinish
              refine (ih w₁).cons (fun _ _ => .closing hl hfinish) ?_ fun hfirst => ?_
              · simp [Writer.level, hafter, hblocks, hopens, hcloses]
              · have hlevel := (unmatched_zero.1 hfirst).2
                rw [Writer.level, hblocks] at hlevel
                exact absurd hlevel (Nat.succ_ne_zero _)

/-! ## Templates -/

namespace Writer

variable {w w' : Writer} {text : String}

/-- Where a template line fails, the lines behind it are not looked at. -/
theorem templateLines_append_of_error {xs ys : List TemplateLine} {e : EmitError}
    (h : w.templateLines xs = (w', some e)) : w.templateLines (xs ++ ys) = (w', some e) := by
  induction xs generalizing w with
  | nil => exact absurd (congrArg Prod.snd h) (by simp [templateLines])
  | cons x xs ih =>
      rw [templateLines] at h
      rw [List.cons_append, templateLines]
      cases hx : w.templateLine x with
      | ok w₁ =>
          rw [hx] at h
          exact ih h
      | error e' =>
          rw [hx] at h
          exact h

/-- A template that is not empty asks for what its lines ask for. -/
theorem write_eq (w : Writer) (hne : text ≠ "") :
    w.write text = w.templateLines ((Text.lines text.toList).map classify) := by
  rw [write, Emit.templateLines, if_neg]
  rw [String.isEmpty_iff]
  exact hne

/-- **Writing two templates with a newline between them** is writing one after the other, unless
the first one ends in what belongs to the end of a line. -/
theorem write_append_newline (w : Writer) {more : String} (hne : text ≠ "") (hmore : more ≠ "")
    (hn : text.toList.getLast? ≠ some '\n') (hr : text.toList.getLast? ≠ some '\r') :
    w.write (text ++ "\n" ++ more) =
      match w.write text with
      | (w', none) => w'.write more
      | (w', some e) => (w', some e) := by
  have hchars : (text ++ "\n" ++ more).toList = text.toList ++ '\n' :: more.toList := by
    rw [String.toList_append, String.toList_append, List.append_assoc]
    rfl
  have hboth : text ++ "\n" ++ more ≠ "" := by
    rw [Ne, ← String.toList_eq_nil_iff, hchars]
    simp
  obtain ⟨c, hlast⟩ : ∃ c, text.toList.getLast? = some c := by
    rw [← Option.isSome_iff_exists, List.getLast?_isSome, Ne, String.toList_eq_nil_iff]
    exact hne
  rw [hlast] at hn hr
  rw [w.write_eq hboth, hchars, Text.lines_append_newline hlast (fun h => hn (h ▸ rfl))
    (fun h => hr (h ▸ rfl)), List.map_append, w.write_eq hne]
  cases h : w.templateLines ((Text.lines text.toList).map classify) with
  | mk w' error =>
      cases error with
      | none =>
          rw [templateLines_append h, ← w'.write_eq hmore]
      | some e => rw [templateLines_append_of_error h]

/-- **How writing a template fails.** It fails exactly if some line closes a block where none is
open, which is told by the blocks that were open and by the lines before it. What has been written
then are the lines before the first such line, one by one. Otherwise all lines are written, and the
lines that open and close blocks tell how many are open afterwards. A template with a newline in it
is written as the one before the newline and then, unless that fails, the one behind it. -/
theorem write_exact (w : Writer) (text : String) (hne : text ≠ "") :
    let ls := Text.lines text.toList
    ((w.write text).2 = some .closeWithoutOpen ↔ ∃ k, Unmatched w.level ls k) ∧
    (∀ k, Unmatched w.level ls k → (∀ j < k, ¬Unmatched w.level ls j) →
      ∃ w', Writes w (ls.take k) w' ∧ w.write text = (w', some .closeWithoutOpen)) ∧
    ((∀ k, ¬Unmatched w.level ls k) →
      ∃ w', Writes w ls w' ∧ w.write text = (w', none) ∧
        w'.level + ls.countP (Closes ·) = w.level + ls.countP (Opens ·)) ∧
    ∀ more, more ≠ "" → text.toList.getLast? ≠ some '\n' → text.toList.getLast? ≠ some '\r' →
      w.write (text ++ "\n" ++ more) =
        match w.write text with
        | (w', none) => w'.write more
        | (w', some e) => (w', some e) := by
  intro ls
  have houtcome : Outcome w ls (w.write text) := by
    rw [w.write_eq hne]
    exact outcome_templateLines w ls
  refine ⟨?_, fun k hk hleast => ?_, fun hnone => ?_, fun more => w.write_append_newline hne⟩
  all_goals generalize w.write text = result at houtcome ⊢
  · cases houtcome with
    | fails hk _ _ => exact ⟨fun _ => ⟨_, hk⟩, fun _ => rfl⟩
    | succeeds hnone _ _ => exact ⟨nofun, fun ⟨k, hk⟩ => absurd hk (hnone k)⟩
  · cases houtcome with
    | @fails j w' hj hleast' hwrites =>
        -- both are the first line that is not matched
        obtain rfl : k = j := by
          rcases Nat.lt_trichotomy k j with h | h | h
          · exact absurd hk (hleast' k h)
          · exact h
          · exact absurd hj (hleast j h)
        exact ⟨w', hwrites, rfl⟩
    | succeeds hnone _ _ => exact absurd hk (hnone k)
  · cases houtcome with
    | fails hk _ _ => exact absurd hk (hnone _)
    | @succeeds w' _ hwrites hlevel => exact ⟨w', hwrites, rfl, hlevel⟩

/-- A template whose second end has nothing to close. -/
def surplusTemplate : String := "BLOCK: a\n  END;\n\x60x\x60\nEND\nENDING"

/-- What has been written is everything before that end, and nothing comes behind it, neither from
the same template nor from a second one. -/
theorem write_exact_surplus : ∃ w',
    Writes {} ["BLOCK: a".toList, "  END;".toList, "\x60x\x60".toList] w' ∧
      w'.text = "a\n\x7b\n\x7d;\n\n\"x\"\n" ∧
      ({} : Writer).write surplusTemplate = (w', some .closeWithoutOpen) ∧
      ({} : Writer).write (surplusTemplate ++ "\n" ++ "b") = (w', some .closeWithoutOpen) := by
  have hlines : Text.lines surplusTemplate.toList =
      ["BLOCK: a".toList, "  END;".toList, "\x60x\x60".toList, "END".toList,
        "ENDING".toList] := by
    decide +kernel
  obtain ⟨-, hfails, -, happend⟩ := write_exact {} surplusTemplate (by decide)
  rw [hlines] at hfails
  obtain ⟨w', hwrites, hwrite⟩ := hfails 3 (by decide +kernel) (by decide +kernel)
  have hmore := happend "b" (by decide) (by decide) (by decide)
  rw [hwrite] at hmore
  have htext : (({} : Writer).write surplusTemplate).1.text =
      "a\n\x7b\n\x7d;\n\n\"x\"\n" := by
    decide +kernel
  rw [hwrite] at htext
  exact ⟨w', hwrites, htext, hwrite, hmore⟩

end Writer

end Emit

end UnitFoundry
