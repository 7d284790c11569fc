import Mathlib.Data.List.Basic
import UnitFoundry.Proofs.Emit.Scripts
import UnitFoundry.Proofs.Text.Lines

/-! # Trees of blocks

Text with blocks is a tree. It can be emitted in three ways: each block by a line, an opening and
a closing of its own, each block through a guard, or the whole by a template with markers. All of
them write the same text, which is the tree laid out at the current depth, and leave the open
blocks as they were.

* **`Emit.Tree.layout`**: the text of a tree at a depth.
* **`Emit.Emits`**: the steps that emit trees, by pairs of operations and by guards.
* **`Emit.Describes`**: the templates that emit trees.
* **`Emit.emission_agrees`**: all of them write the layout of the trees. -/

namespace UnitFoundry.Emit

/-! ## Trees -/

/-- A line of text that is not blank and that a template keeps as it is. -/
structure TextLine where
  /-- The text. -/
  text : String
  /-- Something in it is not blank. -/
  not_blank : ¬∀ c ∈ text.toList, Text.isBlank c = true
  /-- It is one line. -/
  newline_notMem : '\n' ∉ text.toList
  /-- Nothing in it stands for a quote. -/
  grave_notMem : '\x60' ∉ text.toList
  /-- It does not end in what belongs to the end of a line. -/
  no_return : text.toList.getLast? ≠ some '\r'
  /-- It does not open a block. -/
  not_opening : TemplateLine.after? TemplateLine.openMarker (Text.trimStart text.toList) = none
  /-- It does not close a block. -/
  not_closing : TemplateLine.afterEnd? (Text.trimStart text.toList) = none

/-- A text at a delimiter: a header, or what trails the end of a block. -/
structure Label where
  /-- The text. -/
  text : String
  /-- There is a text. -/
  ne_nil : text.toList ≠ []
  /-- No blanks stand at its ends. -/
  trimmed : Text.trim text.toList = text.toList
  /-- It is one line. -/
  newline_notMem : '\n' ∉ text.toList
  /-- Nothing in it stands for a quote. -/
  grave_notMem : '\x60' ∉ text.toList

/-- Text with blocks. -/
inductive Tree where
  /-- A line of text. -/
  | text (l : TextLine)
  /-- An empty line. -/
  | blank
  /-- A block under a header, with what trails its end and what is inside. -/
  | block (header : Label) (trailing : Option Label) (children : List Tree)

/-- What trails the end of a block. -/
def trailingText : Option Label → String
  | none => ""
  | some t => t.text

namespace Tree

/-- A line at a depth. -/
def row (n : Nat) (s : String) : String :=
  String.ofList (List.replicate (4 * n) ' ') ++ s ++ "\n"

mutual

/-- The text of a tree at a depth. -/
def layout (d : Dialect) (n : Nat) : Tree → String
  | .text l => row n l.text
  | .blank => "\n"
  | .block header trailing children =>
    row n header.text ++ (match d with | .rust => row n "\x7b" | .wat => "") ++
      layoutAll d (n + 1) children ++
        row n ((match d with | .rust => "\x7d" | .wat => ")") ++ trailingText trailing) ++ "\n"

/-- The text of trees, one after another. -/
def layoutAll (d : Dialect) (n : Nat) : List Tree → String
  | [] => ""
  | t :: ts => layout d n t ++ layoutAll d n ts

end

end Tree

/-- The writer after the layout of trees at its depth has been added. -/
def Writer.emit (w : Writer) (ts : List Tree) : Writer :=
  { w with text := w.text ++ Tree.layoutAll w.dialect w.level ts }

/-! ## Emitting by steps -/

/-- Whether steps emit trees: each block by a line, an opening and a closing, or through a guard
that is closed by hand or dropped. -/
inductive Emits : List Tree → List Step → Prop where
  /-- Nothing emits nothing. -/
  | nil : Emits [] []
  /-- A line of text is written. -/
  | text {l : TextLine} {tried : Bool} {ts : List Tree} {steps : List Step} : Emits ts steps →
    Emits (.text l :: ts) (.act (.line l.text) tried :: steps)
  /-- An empty line is written. -/
  | blank {tried : Bool} {ts : List Tree} {steps : List Step} : Emits ts steps →
    Emits (.blank :: ts) (.act .blank tried :: steps)
  /-- A block is opened after its header and closed by hand. -/
  | pair {header : Label} {trailing : Option Label} {tried tried' tried'' : Bool}
    {children ts : List Tree} {body steps : List Step} : Emits children body → Emits ts steps →
    Emits (.block header trailing children :: ts)
      (.act (.line header.text) tried :: .act .start tried' ::
        (body ++ .act (.finish (trailingText trailing)) tried'' :: steps))
  /-- A block is guarded. -/
  | guarded {header : Label} {trailing : Option Label} {closes tried : Bool}
    {children ts : List Tree} {body steps : List Step} : Emits children body → Emits ts steps →
    Emits (.block header trailing children :: ts)
      (.guarded (.scoped (some header.text)) (trailingText trailing) body closes tried :: steps)

variable {w : Writer} {s : Session} {strict : Bool} {steps : List Step} {t : Tree} {ts : List Tree}

namespace Writer

@[simp] theorem emit_nil (w : Writer) : w.emit [] = w := by
  rw [emit, Tree.layoutAll, String.append_empty]

theorem emit_cons (w : Writer) (t : Tree) (ts : List Tree) :
    w.emit (t :: ts) = (w.emit [t]).emit ts := by
  simp only [emit, Tree.layoutAll, String.append_empty, String.append_assoc, level]

theorem emit_text (w : Writer) (l : TextLine) : w.emit [.text l] = w.line l.text := by
  simp only [emit, line, Tree.layoutAll, Tree.layout, Tree.row, indentation, String.append_empty,
    String.append_assoc]

theorem emit_blank (w : Writer) : w.emit [.blank] = w.blank := by
  simp only [emit, blank, Tree.layoutAll, Tree.layout, String.append_empty]

/-- **Closing the block of a header after its children have been emitted** completes the layout of
the block, whatever its label. -/
theorem finish_emit (w : Writer) (header : Label) (label : String) (trailing : Option Label)
    (children : List Tree) :
    (((w.line header.text).openBlock label).emit children).finish (trailingText trailing) =
      .ok (w.emit [.block header trailing children]) := by
  obtain ⟨d, text, blocks⟩ := w
  cases d <;>
    simp only [finish, emit, openBlock, Dialect.openDelimiter?, line, blank, level, indentation,
      Dialect.closeDelimiter, List.length_cons, Tree.layoutAll, Tree.layout, Tree.row,
      String.append_empty, String.append_assoc]

end Writer

theorem Opening.apply_scoped (w : Writer) (header : Label) :
    Opening.apply w (.scoped (some header.text)) = w.openUnder header.text := by
  have hheader : header.text.isEmpty = false := by
    rw [Bool.eq_false_iff, Ne, String.isEmpty_iff, ← String.toList_eq_nil_iff]
    exact header.ne_nil
  rw [apply, hheader]
  rfl

/-! ## Running steps -/

/-- Whether steps lead from one writer to another, without leaving the script and without a
warning. -/
def Runs (strict : Bool) (w : Writer) (xs : List Step) (w' : Writer) : Prop :=
  ∀ s : Session, s.writer = w → s.left = none →
    (Step.runAll strict s xs).writer = w' ∧ (Step.runAll strict s xs).left = none ∧
      (Step.runAll strict s xs).warnings = s.warnings

namespace Runs

variable {w' w'' : Writer} {step : Step} {xs ys : List Step} {trailing : String}

theorem nil (strict : Bool) (w : Writer) : Runs strict w [] w := by
  intro s hw hs
  rw [Step.runAll]
  exact ⟨hw, hs, rfl⟩

theorem append (h : Runs strict w xs w') (h' : Runs strict w' ys w'') :
    Runs strict w (xs ++ ys) w'' := by
  intro s hw hs
  obtain ⟨hw', hs', hwarnings⟩ := h s hw hs
  obtain ⟨hw'', hs'', hwarnings'⟩ := h' _ hw' hs'
  rw [Step.runAll_append hs']
  exact ⟨hw'', hs'', hwarnings'.trans hwarnings⟩

theorem cons (h : Runs strict w [step] w') (h' : Runs strict w' xs w'') :
    Runs strict w (step :: xs) w'' :=
  h.append h'

/-- A single step is run by itself. -/
theorem of_run (h : ∀ s : Session, s.writer = w → s.left = none → (step.run strict s).writer = w' ∧
    (step.run strict s).left = none ∧ (step.run strict s).warnings = s.warnings) :
    Runs strict w [step] w' := by
  intro s hw hs
  have hstep := h s hw hs
  rw [Step.runAll_cons hstep.2.1, Step.runAll]
  exact hstep

theorem line (strict : Bool) (w : Writer) (text : String) (tried : Bool) :
    Runs strict w [.act (.line text) tried] (w.line text) :=
  of_run fun _ hw hs => ⟨hw ▸ rfl, hs, rfl⟩

theorem blank (strict : Bool) (w : Writer) (tried : Bool) :
    Runs strict w [.act .blank tried] w.blank :=
  of_run fun _ hw hs => ⟨hw ▸ rfl, hs, rfl⟩

theorem start (strict : Bool) (w : Writer) (tried : Bool) :
    Runs strict w [.act .start tried] w.start :=
  of_run fun _ hw hs => ⟨hw ▸ rfl, hs, rfl⟩

theorem finish (strict : Bool) (h : w.finish trailing = .ok w') (tried : Bool) :
    Runs strict w [.act (.finish trailing) tried] w' := by
  refine of_run fun s hw hs => ?_
  subst hw
  rw [Step.run, Session.act]
  simp only [h]
  exact ⟨rfl, hs, rfl⟩

/-- **A guarded block** runs like its body between an opening and a closing, if the body comes
back to the depth of the guard. -/
theorem guarded {o : Opening} {closes tried : Bool} (hbody : Runs strict (o.apply w) xs w')
    (hlevel : w'.level = (o.apply w).level) (h : w'.finish trailing = .ok w'') :
    Runs strict w [.guarded o trailing xs closes tried] w'' := by
  refine of_run fun s hw hs => ?_
  subst hw
  obtain ⟨hw', hs', hwarnings⟩ :=
    hbody (s.record (o.apply s.writer) (.opened o)) rfl hs
  -- the block of the guard is still open, and it is the innermost one
  have hrelease : Guard.release ⟨(o.apply s.writer).level, trailing⟩ w' = .ok w'' := by
    rw [Guard.release, if_neg (hlevel ▸ Nat.lt_irrefl _), h]
  rw [Step.run_guarded]
  -- closed by hand or dropped, the guard closes this block
  cases closes with
  | true =>
      simp only [Bool.true_and, hs', Option.isNone_none, if_true]
      rw [Session.close_of_release (hw' ▸ hrelease)]
      exact ⟨rfl, hs', hwarnings⟩
  | false =>
      simp only [Bool.false_and, Bool.false_eq_true, if_false]
      rw [Session.drop_of_release (hw' ▸ hrelease)]
      exact ⟨rfl, hs', hwarnings⟩

end Runs

/-- **Steps that emit trees write their layout**, and the open blocks are as before. -/
theorem Emits.runs (h : Emits ts steps) (strict : Bool) (w : Writer) :
    Runs strict w steps (w.emit ts) := by
  induction h generalizing w with
  | nil => exact w.emit_nil.symm ▸ .nil strict w
  | text _ ih =>
      rw [Writer.emit_cons, Writer.emit_text]
      exact (Runs.line strict w _ _).cons (ih _)
  | blank _ ih =>
      rw [Writer.emit_cons, Writer.emit_blank]
      exact (Runs.blank strict w _).cons (ih _)
  | @pair header trailing _ _ _ children _ _ _ _ _ ihbody ih =>
      rw [Writer.emit_cons]
      refine (Runs.line strict w _ _).cons ((Runs.start strict _ _).cons ((ihbody _).append ?_))
      exact (Runs.finish strict (w.finish_emit header _ trailing children) _).cons (ih _)
  | @guarded header trailing _ _ children _ _ _ _ _ ihbody ih =>
      rw [Writer.emit_cons]
      refine (Runs.guarded (ihbody _) rfl ?_).cons (ih _)
      rw [Opening.apply_scoped]
      exact w.finish_emit header header.text trailing children

/-! ## Emitting by a template -/

/-- Whether characters are blanks that can stand in a line. -/
def Blanks (bs : List Char) : Prop :=
  ∀ c ∈ bs, Text.isBlank c = true ∧ c ≠ '\n'

-- decided along the text, not over all characters
instance (bs : List Char) : Decidable (Blanks bs) :=
  List.decidableBAll (fun c => Text.isBlank c = true ∧ c ≠ '\n') bs

/-- The line of a template that opens a block. -/
def openLine (header : Label) : List Char :=
  TemplateLine.openMarker ++ ' ' :: header.text.toList

/-- The line of a template that closes a block. -/
def endLine : Option Label → List Char
  | none => TemplateLine.endMarker
  | some t => TemplateLine.endMarker ++ ' ' :: t.text.toList

/-- Whether lines are those of a template that emits trees: a text stands for itself, and blocks
stand between markers, before which there may be blanks. -/
inductive Marked : List Tree → List (List Char) → Prop where
  /-- No line stands for nothing. -/
  | nil : Marked [] []
  /-- A line of text stands for itself. -/
  | text {l : TextLine} {ts : List Tree} {ls : List (List Char)} : Marked ts ls →
    Marked (.text l :: ts) (l.text.toList :: ls)
  /-- A line with nothing but blanks is an empty one. -/
  | blank {bs : List Char} {ts : List Tree} {ls : List (List Char)} : Blanks bs → Marked ts ls →
    Marked (.blank :: ts) (bs :: ls)
  /-- A block stands between its markers. -/
  | block {header : Label} {trailing : Option Label} {bs bs' : List Char}
    {children ts : List Tree} {body ls : List (List Char)} : Blanks bs → Blanks bs' →
    Marked children body → Marked ts ls →
    Marked (.block header trailing children :: ts)
      ((bs ++ openLine header) :: (body ++ (bs' ++ endLine trailing) :: ls))

/-- Whether a template emits trees: its lines are those of the trees, and each ends in a
newline. -/
def Describes (template : String) (ts : List Tree) : Prop :=
  ∃ ls, Marked ts ls ∧ template.toList = ls.flatMap (· ++ ['\n'])

/-- What a line of a template asks for, once what belongs to its end has been removed. -/
def asked (l : List Char) : TemplateLine :=
  TemplateLine.classify (Text.endedLine l.reverse)

/-- Whether a text is a line of a template that asks for something. -/
structure Asks (l : List Char) (x : TemplateLine) : Prop where
  /-- It is one line. -/
  newline_notMem : '\n' ∉ l
  /-- What it asks for. -/
  asked : asked l = x

namespace Blanks

variable {bs : List Char}

theorem isBlank (h : Blanks bs) : ∀ c ∈ bs, Text.isBlank c = true :=
  fun c hc => (h c hc).1

theorem newline_notMem (h : Blanks bs) : '\n' ∉ bs :=
  fun hc => (h _ hc).2 rfl

theorem grave_notMem (h : Blanks bs) : '\x60' ∉ bs :=
  fun hc => absurd (h _ hc).1 (by decide)

end Blanks

theorem map_unquote {l : List Char} (h : '\x60' ∉ l) : l.map TemplateLine.unquote = l := by
  refine (List.map_congr_left fun c hc => ?_).trans (List.map_id l)
  rw [TemplateLine.unquote, if_neg]
  · rfl
  · rintro rfl
    exact h hc

theorem Label.no_return (t : Label) : t.text.toList.getLast? ≠ some '\r' :=
  fun h => absurd (Text.isBlank_eq_false_of_trim t.trimmed h) (by decide)

/-- The blank between a marker and a label is removed. -/
theorem Label.trim_cons (t : Label) : Text.trim (' ' :: t.text.toList) = t.text.toList := by
  rw [Text.trim, Text.trimStart_cons, if_pos (by decide)]
  exact t.trimmed

/-- Whether a text is a line that starts with a marker. Nothing in it is changed. -/
structure IsMarker (cs : List Char) : Prop where
  /-- It has a marker. -/
  ne_nil : cs ≠ []
  /-- It is one line. -/
  newline_notMem : '\n' ∉ cs
  /-- Nothing in it stands for a quote. -/
  grave_notMem : '\x60' ∉ cs
  /-- It does not end in what belongs to the end of a line. -/
  no_return : cs.getLast? ≠ some '\r'
  /-- It starts with its marker. -/
  trimStart : Text.trimStart cs = cs

namespace IsMarker

variable {bs cs : List Char}

/-- A marker with a label. -/
theorem of_label {c : Char} {marker : List Char} (hc : Text.isBlank c = false)
    (hnewline : '\n' ∉ c :: marker) (hgrave : '\x60' ∉ c :: marker) (t : Label) :
    IsMarker (c :: marker ++ ' ' :: t.text.toList) where
  ne_nil := List.cons_ne_nil _ _
  newline_notMem := by simpa [t.newline_notMem] using hnewline
  grave_notMem := by simpa [t.grave_notMem] using hgrave
  no_return := by
    rw [List.getLast?_append_cons, List.getLast?_cons_of_ne_nil t.ne_nil]
    exact t.no_return
  trimStart := by
    rw [List.cons_append, Text.trimStart_cons, hc]
    rfl

theorem openLine (header : Label) : IsMarker (openLine header) :=
  of_label rfl (by decide) (by decide) header

theorem endLine : ∀ trailing, IsMarker (endLine trailing)
  | none => ⟨by decide, by decide, by decide, by decide, rfl⟩
  | some t => of_label rfl (by decide) (by decide) t

/-- **What a marked line asks for** is seen once the blanks in front of it have been removed. -/
theorem trimStart_endedLine (hbs : Blanks bs) (h : IsMarker cs) :
    Text.trimStart ((Text.endedLine (bs ++ cs).reverse).map TemplateLine.unquote) = cs := by
  have hreturn : (bs ++ cs).getLast? ≠ some '\r' := by
    rw [List.getLast?_append_of_ne_nil bs h.ne_nil]
    exact h.no_return
  have hgrave : '\x60' ∉ bs ++ cs := fun hmem =>
    (List.mem_append.1 hmem).elim hbs.grave_notMem h.grave_notMem
  rw [Text.endedLine_reverse hreturn, map_unquote hgrave, Text.trimStart_append hbs.isBlank,
    h.trimStart]

end IsMarker

namespace Asks

theorem text (l : TextLine) : Asks l.text.toList (.text l.text) where
  newline_notMem := l.newline_notMem
  asked := by
    rw [Emit.asked, Text.endedLine_reverse l.no_return, TemplateLine.classify]
    have hne : Text.trimStart l.text.toList ≠ [] := mt Text.trimStart_eq_nil_iff.1 l.not_blank
    simp only [map_unquote l.grave_notMem, List.isEmpty_iff, hne, if_false, l.not_opening,
      l.not_closing, String.ofList_toList]

theorem blank {bs : List Char} (h : Blanks bs) : Asks bs .blank where
  newline_notMem := h.newline_notMem
  asked := by
    have hsub := (Text.endedLine_sublist bs.reverse).subset
    rw [List.reverse_reverse] at hsub
    have hended : Blanks (Text.endedLine bs.reverse) := fun c hc => h c (hsub hc)
    rw [Emit.asked, TemplateLine.classify]
    simp only [map_unquote hended.grave_notMem, Text.trimStart_eq_nil_iff.2 hended.isBlank,
      List.isEmpty_nil, if_true]

theorem opening {bs : List Char} (h : Blanks bs) (header : Label) :
    Asks (bs ++ openLine header) (.opening header.text) where
  newline_notMem := by
    simpa [h.newline_notMem] using (IsMarker.openLine header).newline_notMem
  asked := by
    have hafter : TemplateLine.after? TemplateLine.openMarker (openLine header) =
        some (' ' :: header.text.toList) := rfl
    rw [Emit.asked, TemplateLine.classify]
    simp only [(IsMarker.openLine header).trimStart_endedLine h, hafter, header.trim_cons,
      String.ofList_toList]
    rfl

theorem closing {bs : List Char} (h : Blanks bs) (trailing : Option Label) :
    Asks (bs ++ endLine trailing) (.closing (trailingText trailing)) where
  newline_notMem := by
    simpa [h.newline_notMem] using (IsMarker.endLine trailing).newline_notMem
  asked := by
    rw [Emit.asked, TemplateLine.classify]
    simp only [(IsMarker.endLine trailing).trimStart_endedLine h]
    cases trailing with
    | none => rfl
    | some t =>
        have hmarker : TemplateLine.after? TemplateLine.endMarker (endLine (some t)) =
            some (' ' :: t.text.toList) := rfl
        have hword : TemplateLine.continuesWord ' ' = false := by decide +kernel
        have hafter : TemplateLine.afterEnd? (endLine (some t)) =
            some (' ' :: t.text.toList) := by
          rw [TemplateLine.afterEnd?, hmarker]
          simp only [hword, Bool.false_eq_true, if_false]
        have hopen : TemplateLine.after? TemplateLine.openMarker (endLine (some t)) = none :=
          if_neg (by simp [endLine, TemplateLine.openMarker, TemplateLine.endMarker])
        simp only [hafter, hopen, t.trim_cons, String.ofList_toList]
        rfl

end Asks

/-! ## Running a template -/

theorem Writer.templateLines_append {xs ys : List TemplateLine} {w' : Writer}
    (h : w.templateLines xs = (w', none)) :
    w.templateLines (xs ++ ys) = w'.templateLines ys := by
  induction xs generalizing w with
  | nil =>
      obtain ⟨rfl, -⟩ := Prod.mk.inj h
      rfl
  | cons x xs ih =>
      rw [Writer.templateLines] at h
      rw [List.cons_append, Writer.templateLines]
      cases hx : w.templateLine x with
      | ok w₁ =>
          rw [hx] at h
          exact ih h
      | error e =>
          rw [hx] at h
          exact absurd (congrArg Prod.snd h) (by simp)

namespace Marked

variable {ls : List (List Char)}

theorem newline_notMem (h : Marked ts ls) : ∀ l ∈ ls, '\n' ∉ l := by
  induction h with
  | nil => exact fun l hl => absurd hl List.not_mem_nil
  | @text l _ _ _ ih => exact List.forall_mem_cons.2 ⟨(Asks.text l).newline_notMem, ih⟩
  | blank hbs _ ih => exact List.forall_mem_cons.2 ⟨(Asks.blank hbs).newline_notMem, ih⟩
  | @block header trailing _ _ _ _ _ _ hbs hbs' _ _ ihbody ih =>
      refine List.forall_mem_cons.2 ⟨(Asks.opening hbs header).newline_notMem, ?_⟩
      exact List.forall_mem_append.2 ⟨ihbody,
        List.forall_mem_cons.2 ⟨(Asks.closing hbs' trailing).newline_notMem, ih⟩⟩

/-- **The lines of a template write the layout of the trees.** -/
theorem templateLines (h : Marked ts ls) (w : Writer) :
    w.templateLines (ls.map asked) = (w.emit ts, none) := by
  induction h generalizing w with
  | nil => rw [Writer.emit_nil]; rfl
  | @text l ts ls _ ih =>
      rw [List.map_cons, (Asks.text l).asked, Writer.emit_cons, Writer.emit_text]
      exact ih _
  | @blank _ ts ls hbs _ ih =>
      rw [List.map_cons, (Asks.blank hbs).asked, Writer.emit_cons, Writer.emit_blank]
      exact ih _
  | @block header trailing _ _ children ts body ls hbs hbs' _ _ ihbody ih =>
      -- the lines inside are asked for between those of the markers
      rw [List.map_cons, List.map_append, List.map_cons, (Asks.opening hbs header).asked,
        (Asks.closing hbs' trailing).asked, Writer.emit_cons]
      -- the header opens the block, its children are written inside, and the end closes it
      show (w.openUnder header.text).templateLines (_ ++ _) = _
      rw [Writer.templateLines_append (ihbody _), Writer.templateLines, Writer.templateLine,
        Writer.openUnder, w.finish_emit header header.text trailing children]
      exact ih _

end Marked

/-- **A template that describes trees writes their layout**, and the open blocks are as before. -/
theorem Describes.write {template : String} (h : Describes template ts) (hts : ts ≠ [])
    (w : Writer) : w.write template = (w.emit ts, none) := by
  obtain ⟨ls, hmarked, htemplate⟩ := h
  have hne : template.isEmpty = false := by
    rw [Bool.eq_false_iff, Ne, String.isEmpty_iff, ← String.toList_eq_nil_iff, htemplate]
    cases hmarked with
    | nil => exact absurd rfl hts
    | text _ => simp
    | blank _ _ => simp
    | block _ _ _ _ => simp
  rw [Writer.write, Emit.templateLines, hne, htemplate,
    Text.lines_flatMap hmarked.newline_notMem, List.map_map]
  exact hmarked.templateLines w

/-! ## All ways agree -/

mutual

/-- Trees can be emitted by steps, and described by a template, with one more in front. -/
theorem Tree.exists_ways : ∀ (t : Tree) {ts : List Tree} {steps : List Step}
    {ls : List (List Char)}, Emits ts steps → Marked ts ls →
      (∃ steps', Emits (t :: ts) steps') ∧ ∃ ls', Marked (t :: ts) ls'
  | .text l, _, steps, _, h, h' => by
      have hsteps : Emits _ (.act (.line l.text) false :: steps) := .text h
      exact ⟨⟨_, hsteps⟩, _, .text h'⟩
  | .blank, _, steps, ls, h, h' => by
      have hsteps : Emits _ (.act .blank false :: steps) := .blank h
      have hlines : Marked _ ([] :: ls) := .blank (fun _ hc => absurd hc List.not_mem_nil) h'
      exact ⟨⟨_, hsteps⟩, _, hlines⟩
  | .block header trailing children, _, steps, _, h, h' => by
      obtain ⟨⟨body, hbody⟩, _, hbody'⟩ := exists_ways children
      have hsteps : Emits _ (.guarded (.scoped (some header.text)) (trailingText trailing) body
          false false :: steps) := .guarded hbody h
      have hnone : Blanks [] := fun _ hc => absurd hc List.not_mem_nil
      exact ⟨⟨_, hsteps⟩, _, .block hnone hnone hbody' h'⟩

/-- **Every tree can be emitted** by steps, and described by a template. -/
theorem exists_ways : ∀ ts : List Tree, (∃ steps, Emits ts steps) ∧ ∃ ls, Marked ts ls
  | [] => ⟨⟨[], .nil⟩, [], .nil⟩
  | t :: ts => by
      obtain ⟨⟨_, h⟩, _, h'⟩ := exists_ways ts
      exact t.exists_ways h h'

end

theorem exists_describes (ts : List Tree) : ∃ template, Describes template ts := by
  obtain ⟨-, ls, h⟩ := exists_ways ts
  exact ⟨String.ofList (ls.flatMap (· ++ ['\n'])), ls, h, String.toList_ofList⟩

/-- **All ways to emit trees agree.** From any writer, whether each block is closed by hand or
through a guard, or the whole is a template with markers, what is written is the layout of the
trees at the current depth, and the open blocks are as before. Every tree can be emitted in these
ways. -/
theorem emission_agrees (ts : List Tree) (hts : ts ≠ []) (w : Writer) :
    (∀ steps, Emits ts steps → ∀ strict, Runs strict w steps (w.emit ts)) ∧
    (∀ template, Describes template ts → w.write template = (w.emit ts, none)) ∧
    (w.emit ts).text = w.text ++ Tree.layoutAll w.dialect w.level ts ∧
    (w.emit ts).openBlocks = w.openBlocks ∧
    (∃ steps, Emits ts steps) ∧ ∃ template, Describes template ts :=
  ⟨fun _ h strict => h.runs strict w, fun _ h => h.write hts w, rfl, rfl, (exists_ways ts).1,
    exists_describes ts⟩

/-- A function with one line and an empty one. -/
def exampleTree : Tree :=
  .block
    { text := "fn f()", ne_nil := by decide, trimmed := by decide, newline_notMem := by decide
      grave_notMem := by decide }
    (some { text := ";", ne_nil := by decide, trimmed := by decide, newline_notMem := by decide
            grave_notMem := by decide })
    [.text
      { text := "g();", not_blank := fun h => absurd (h 'g' (by decide)) (by decide)
        newline_notMem := by decide, grave_notMem := by decide, no_return := by decide
        not_opening := by decide, not_closing := by decide },
      .blank]

/-- The function is written by pairs, through a guard and by a template. -/
theorem emission_agrees_function :
    Runs true {} [.act (.line "fn f()") false, .act .start false, .act (.line "g();") false,
        .act .blank false, .act (.finish ";") false] (Writer.emit {} [exampleTree]) ∧
      Runs true {} [.guarded (.scoped (some "fn f()")) ";"
        [.act (.line "g();") false, .act .blank false] true false]
          (Writer.emit {} [exampleTree]) ∧
      Writer.write {} " BLOCK: fn f()\ng();\n\t\nEND ;\n" =
        (Writer.emit {} [exampleTree], none) ∧
      (Writer.emit {} [exampleTree]).text = "fn f()\n\x7b\n    g();\n\n\x7d;\n\n" := by
  obtain ⟨hsteps, htemplate, -⟩ := emission_agrees [exampleTree] (List.cons_ne_nil _ _) {}
  have hindent : Blanks [' '] := by decide
  have hblank : Blanks ['\t'] := by decide
  have hnone : Blanks [] := by decide
  exact ⟨hsteps _ (.pair (.text (.blank .nil)) .nil) true,
    hsteps _ (.guarded (.text (.blank .nil)) .nil) true,
    htemplate _ ⟨_, .block hindent hnone (.text (.blank hblank .nil)) .nil, by decide +kernel⟩,
    by decide +kernel⟩

end UnitFoundry.Emit
