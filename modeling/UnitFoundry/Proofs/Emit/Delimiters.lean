import UnitFoundry.Proofs.Emit.Scripts
import UnitFoundry.Proofs.Text.Lines

/-! # Delimiters in emitted text

How many delimiters a text leaves open is a matter of counting, and counts add up along a text. In
the form dialect a block is opened by its header, so the parentheses of the text follow the open
blocks as long as each header leaves one of them open and all other texts leave none. The headers
of namespaces and members do so if nothing in their names and types is a parenthesis.

* **`Emit.Leads`**: a text leads from a number of open delimiters to another.
* **`Emit.leads_form`**, **`Emit.leads_namespaceHeader`**: the headers of members and namespaces.
* **`Emit.Part.Forms`**: the parts of a script on which parentheses follow the open blocks.
* **`Emit.kept_forms`**: every operation keeps the parentheses and the open blocks in step. -/

namespace UnitFoundry.Emit

/-! ## Texts without some characters -/

/-- Whether none of some characters is in a text. -/
def Free (bad : List Char) (s : String) : Prop :=
  ∀ c ∈ s.toList, c ∉ bad

-- decided along the text, not over all characters
instance (bad : List Char) (s : String) : Decidable (Free bad s) :=
  List.decidableBAll (· ∉ bad) s.toList

variable {bad : List Char} {s t : String}

theorem free_append : Free bad (s ++ t) ↔ Free bad s ∧ Free bad t := by
  rw [Free, String.toList_append, List.forall_mem_append]
  rfl

theorem Free.intercalate (hs : Free bad s) : ∀ {ts : List String}, (∀ t ∈ ts, Free bad t) →
    Free bad (s.intercalate ts)
  | [], _ => by
      rw [String.intercalate_nil]
      exact fun c hc => absurd hc List.not_mem_nil
  | [t], h => by
      rw [String.intercalate_singleton]
      exact h t List.mem_cons_self
  | t :: u :: ts, h => by
      rw [String.intercalate_cons_cons, free_append, free_append]
      obtain ⟨ht, hrest⟩ := List.forall_mem_cons.1 h
      exact ⟨⟨ht, hs⟩, hs.intercalate hrest⟩

/-- Whether none of some characters is in the names and types of a member. -/
structure Member.Free (bad : List Char) (m : Member) : Prop where
  /-- They are not in its name. -/
  name : Emit.Free bad m.name
  /-- They are not in the names and types of its arguments. -/
  arguments : ∀ a ∈ m.arguments, Emit.Free bad a.name ∧ Emit.Free bad a.type.text
  /-- They are not in the type of its result. -/
  returns : ∀ t, m.returns = some t → Emit.Free bad t.text

instance (bad : List Char) (m : Member) : Decidable (m.Free bad) :=
  decidable_of_iff (Emit.Free bad m.name ∧
      (∀ a ∈ m.arguments, Emit.Free bad a.name ∧ Emit.Free bad a.type.text) ∧
      ∀ t ∈ m.returns, Emit.Free bad t.text)
    ⟨fun h => ⟨h.1, h.2.1, h.2.2⟩, fun h => ⟨h.name, h.arguments, h.returns⟩⟩

/-! ## Counting delimiters -/

/-- Whether a text leads from `m` to `n` open delimiters, as far as counting goes. -/
def Leads (o c : Char) (m n : Nat) (s : String) : Prop :=
  m + s.toList.count o = n + s.toList.count c

instance (o c : Char) (m n : Nat) (s : String) : Decidable (Leads o c m n s) :=
  inferInstanceAs (Decidable (m + s.toList.count o = n + s.toList.count c))

variable {o c : Char} {k m n : Nat}

theorem Leads.append (h : Leads o c k m s) (h' : Leads o c m n t) : Leads o c k n (s ++ t) := by
  unfold Leads at *
  rw [String.toList_append, List.count_append, List.count_append]
  omega

/-- A text does the same on top of what is open already. -/
theorem Leads.add (h : Leads o c m n s) (k : Nat) : Leads o c (k + m) (k + n) s := by
  unfold Leads at *
  omega

/-- A text without delimiters changes nothing. -/
theorem Free.leads (h : Free bad s) (ho : o ∈ bad) (hc : c ∈ bad) (n : Nat) :
    Leads o c n n s := by
  rw [Leads, List.count_eq_zero.2 fun hmem => h o hmem ho,
    List.count_eq_zero.2 fun hmem => h c hmem hc]

theorem leads_join : ∀ {ts : List String}, (∀ t ∈ ts, Leads o c n n t) →
    Leads o c n n (String.join ts)
  | [], _ => by
      rw [String.join_nil]
      rfl
  | t :: ts, h => by
      obtain ⟨ht, hrest⟩ := List.forall_mem_cons.1 h
      rw [String.join_cons]
      exact ht.append (leads_join hrest)

/-! ## Headers of forms -/

/-- The header of a namespace leaves one form open. -/
theorem leads_namespaceHeader {name : String} (h : Free ['(', ')'] name) :
    Leads '(' ')' 0 1 (Dialect.wat.namespaceHeader name) := by
  have hopen : Leads '(' ')' 0 1 "(module $" := by decide
  exact hopen.append (h.leads (by decide) (by decide) 1)

/-- An argument of a member is a form of its own. -/
theorem leads_render {a : Argument} (hname : Free ['(', ')'] a.name)
    (htype : Free ['(', ')'] a.type.text) : Leads '(' ')' 1 1 (a.render .wat) := by
  have hopen : Leads '(' ')' 1 2 "(param $" := by decide
  have hblank : Leads '(' ')' 2 2 " " := by decide
  have hclose : Leads '(' ')' 2 1 ")" := by decide
  exact (((hopen.append (hname.leads (by decide) (by decide) 2)).append hblank).append
    (htype.leads (by decide) (by decide) 2)).append hclose

/-- **The header of a member leaves one form open**, whatever its arguments are. -/
theorem leads_form {m : Member} (h : m.Free ['(', ')']) : Leads '(' ')' 0 1 m.form := by
  have hname : ∀ n, Leads '(' ')' n n m.name := h.name.leads (by decide) (by decide)
  have hopen : Leads '(' ')' 0 1 "(func $" := by decide
  have hexport : Leads '(' ')' 1 1
      (if m.access = .everyone then " (export \"" ++ m.name ++ "\")" else "") := by
    split
    · have hopen : Leads '(' ')' 1 2 " (export \"" := by decide
      have hclose : Leads '(' ')' 2 1 "\")" := by decide
      exact (hopen.append (hname 2)).append hclose
    · decide
  have harguments : Leads '(' ')' 1 1
      (String.join (m.arguments.map fun a => " " ++ a.render .wat)) := by
    refine leads_join fun t ht => ?_
    obtain ⟨a, ha, rfl⟩ := List.mem_map.1 ht
    obtain ⟨hname, htype⟩ := h.arguments a ha
    have hblank : Leads '(' ')' 1 1 " " := by decide
    exact hblank.append (leads_render hname htype)
  rw [Member.form]
  refine (((hopen.append (hname 1)).append hexport).append harguments).append ?_
  -- the result, if there is one, is a form of its own
  cases hr : m.returns with
  | none => decide
  | some t =>
      have hopen : Leads '(' ')' 1 2 " (result " := by decide
      have hclose : Leads '(' ')' 2 1 ")" := by decide
      exact (hopen.append ((h.returns t hr).leads (by decide) (by decide) 2)).append hclose

/-! ## Scripts of forms -/

/-- Whether parentheses follow the open blocks in a template. Each header leaves one form open,
and what is written as text has been balanced whenever a block is closed and at the end. -/
def TemplateLine.Forms : List TemplateLine → String → Prop
  | [], written => Leads '(' ')' 0 0 written
  | .blank :: ls, written => Forms ls written
  | .text s :: ls, written => Forms ls (written ++ s)
  | .opening header :: ls, written => Leads '(' ')' 0 1 header ∧ Forms ls written
  | .closing trailing :: ls, written =>
    Leads '(' ')' 0 0 written ∧ Leads '(' ')' 0 0 trailing ∧ Forms ls ""

/-- Whether parentheses follow the open blocks in an operation. -/
def Action.Forms : Action → Prop
  | .write template => TemplateLine.Forms (templateLines template) ""
  | .line s => Leads '(' ')' 0 0 s
  | .start => False
  | .finish trailing => Leads '(' ')' 0 0 trailing
  | .startNamespace name => Leads '(' ')' 0 1 (Dialect.wat.namespaceHeader name)
  | .blank | .render | .bail => True

/-- Whether a guarded block is opened by a header that leaves one form open. -/
def Opening.Forms : Opening → Prop
  | .scoped none => False
  | .scoped (some d) | .typed d => Leads '(' ')' 0 1 d
  | .member m => Leads '(' ')' 0 1 (m.declaration .wat).header

/-- **The parts of a script of forms**: every block is opened by a header that leaves one form
open, and the parentheses of all other texts are balanced. -/
def Part.Forms : Part → Prop
  | .action a => a.Forms
  | .guard o trailing => o.Forms ∧ Leads '(' ')' 0 0 trailing

instance TemplateLine.decidableForms :
    ∀ (ls : List TemplateLine) (written : String), Decidable (TemplateLine.Forms ls written)
  | [], written => inferInstanceAs (Decidable (Leads '(' ')' 0 0 written))
  | .blank :: ls, written => decidableForms ls written
  | .text s :: ls, written => decidableForms ls (written ++ s)
  | .opening header :: ls, written =>
    have := decidableForms ls written
    inferInstanceAs (Decidable (Leads '(' ')' 0 1 header ∧ Forms ls written))
  | .closing trailing :: ls, written =>
    have := decidableForms ls ""
    inferInstanceAs (Decidable
      (Leads '(' ')' 0 0 written ∧ Leads '(' ')' 0 0 trailing ∧ Forms ls ""))

instance : DecidablePred Action.Forms
  | .write template => inferInstanceAs (Decidable (TemplateLine.Forms (templateLines template) ""))
  | .line s | .finish s => inferInstanceAs (Decidable (Leads '(' ')' 0 0 s))
  | .start => .isFalse id
  | .startNamespace name =>
    inferInstanceAs (Decidable (Leads '(' ')' 0 1 (Dialect.wat.namespaceHeader name)))
  | .blank | .render | .bail => .isTrue trivial

instance : DecidablePred Opening.Forms
  | .scoped none => .isFalse id
  | .scoped (some d) | .typed d => inferInstanceAs (Decidable (Leads '(' ')' 0 1 d))
  | .member m => inferInstanceAs (Decidable (Leads '(' ')' 0 1 (m.declaration .wat).header))

instance : DecidablePred Part.Forms
  | .action a => inferInstanceAs (Decidable a.Forms)
  | .guard o trailing => inferInstanceAs (Decidable (o.Forms ∧ Leads '(' ')' 0 0 trailing))

/-- Whether as many delimiters have been left open as there are open blocks. -/
def Writer.Tracks (o c : Char) (w : Writer) : Prop :=
  Leads o c 0 w.level w.text

variable {w w' : Writer} {trailing : String}

theorem free_indentation (hspace : ' ' ∉ bad) (n : Nat) : Free bad (Writer.indentation n) := by
  intro c hc
  rw [Writer.indentation, String.toList_ofList, List.mem_replicate] at hc
  exact hc.2 ▸ hspace

theorem leads_blank (hw : Leads '(' ')' k m w.text) : Leads '(' ')' k m w.blank.text := by
  have hnewline : Free ['(', ')'] "\n" := by decide
  exact hw.append (hnewline.leads (by decide) (by decide) m)

/-- A line leads to where its text leads to. -/
theorem leads_line (hw : Leads '(' ')' k m w.text) (hs : Leads '(' ')' m n s) :
    Leads '(' ')' k n (w.line s).text := by
  have hindent : Free ['(', ')'] (Writer.indentation w.level) :=
    free_indentation (by decide) w.level
  have hnewline : Free ['(', ')'] "\n" := by decide
  rw [Writer.text_line]
  exact ((hw.append (hindent.leads (by decide) (by decide) m)).append hs).append
    (hnewline.leads (by decide) (by decide) n)

/-- What is known of a writer of forms: its parentheses follow its open blocks. -/
structure Writer.InStep (w : Writer) : Prop where
  /-- It writes forms. -/
  dialect : w.dialect = .wat
  /-- As many parentheses have been left open as there are open blocks. -/
  tracks : w.Tracks '(' ')'

/-- In the form dialect the header itself opens the block. -/
theorem Writer.text_openUnder (hd : w.dialect = .wat) (header : String) :
    (w.openUnder header).text = (w.line header).text := by
  rw [openUnder, openBlock, dialect_line, hd]
  rfl

namespace Writer.InStep

theorem line (h : w.InStep) (hs : Leads '(' ')' 0 0 s) : (w.line s).InStep :=
  ⟨h.dialect, leads_line h.tracks (hs.add w.level)⟩

theorem blank (h : w.InStep) : w.blank.InStep :=
  ⟨h.dialect, leads_blank h.tracks⟩

/-- A header opens a block. -/
theorem openUnder (h : w.InStep) (hs : Leads '(' ')' 0 1 s) : (w.openUnder s).InStep := by
  refine ⟨(w.dialect_openUnder s).trans h.dialect, ?_⟩
  rw [Tracks, level, openBlocks_openUnder, List.length_cons, text_openUnder h.dialect]
  exact leads_line h.tracks (hs.add w.level)

/-- The delimiter closes the innermost block. -/
theorem finish (h : w.InStep) (ht : Leads '(' ')' 0 0 trailing)
    (hfinish : w.finish trailing = .ok w') : w'.InStep := by
  obtain ⟨label, outer, hblocks, rfl⟩ := finish_eq_ok hfinish
  refine ⟨h.dialect, ?_⟩
  have htext : Leads '(' ')' 0 (outer.length + 1) w.text := by
    have htracks := h.tracks
    rwa [Tracks, level, hblocks, List.length_cons] at htracks
  have hclose : Leads '(' ')' 1 0 (w.dialect.closeDelimiter ++ trailing) := by
    rw [h.dialect]
    have hdelimiter : Leads '(' ')' 1 0 ")" := by decide
    exact hdelimiter.append ht
  exact leads_blank (leads_line (w := { w with openBlocks := outer }) htext
    (hclose.add outer.length))

/-- What has been written is balanced again. -/
theorem of_balanced {written : String} (hd : w.dialect = .wat)
    (hw : Leads '(' ')' (written.toList.count ')') (w.level + written.toList.count '(') w.text)
    (h : Leads '(' ')' 0 0 written) : w.InStep := by
  refine ⟨hd, ?_⟩
  unfold Tracks Leads at *
  omega

theorem nothing_written (h : w.InStep) :
    Leads '(' ')' ("".toList.count ')') (w.level + "".toList.count '(') w.text :=
  h.tracks

/-- **A template of forms keeps the parentheses in step**, even if it fails at the end of a
block. -/
theorem templateLines {ls : List TemplateLine} {written : String} (hd : w.dialect = .wat)
    (hw : Leads '(' ')' (written.toList.count ')') (w.level + written.toList.count '(') w.text)
    (h : TemplateLine.Forms ls written) : (w.templateLines ls).1.InStep := by
  -- what has been written since the last end of a block is carried along, since it need not be
  -- balanced line by line
  induction ls generalizing w written with
  | nil => exact of_balanced hd hw h
  | cons l ls ih =>
      rw [Writer.templateLines]
      cases l with
      | blank => exact ih (w := w.blank) hd (leads_blank hw) h
      | text s =>
          have hrest : TemplateLine.Forms ls (written ++ s) := h
          refine ih (w := w.line s) hd ?_ hrest
          -- the parentheses of the line count as written
          have hs : Leads '(' ')' (s.toList.count ')' + (w.level + written.toList.count '('))
              (w.level + (written ++ s).toList.count '(') s := by
            rw [Leads, String.toList_append, List.count_append]
            omega
          have hline := leads_line (hw.add (s.toList.count ')')) hs
          rwa [Nat.add_comm, ← List.count_append, ← String.toList_append] at hline
      | opening header =>
          refine ih (w := w.openUnder header) ((w.dialect_openUnder header).trans hd) ?_ h.2
          rw [text_openUnder hd, level, openBlocks_openUnder, List.length_cons]
          have hline := leads_line hw (h.1.add (w.level + written.toList.count '('))
          rwa [Nat.add_right_comm] at hline
      | closing trailing =>
          obtain ⟨hwritten, htrailing, hrest⟩ := h
          have hstep := of_balanced hd hw hwritten
          rw [templateLine]
          cases hfinish : w.finish trailing with
          | error e => exact hstep
          | ok w' =>
              have hstep' := hstep.finish htrailing hfinish
              exact ih hstep'.dialect hstep'.nothing_written hrest

end Writer.InStep

/-- **Every operation keeps the parentheses and the open blocks in step.** -/
theorem kept_forms : Kept Writer.InStep Part.Forms where
  action := by
    intro w a ha h
    cases a with
    | write template => exact .templateLines h.dialect h.nothing_written ha
    | line s => exact h.line ha
    | blank => exact h.blank
    | start => exact absurd ha id
    | finish trailing =>
        rw [Action.after]
        cases hfinish : w.finish trailing with
        | error e => exact h
        | ok w' => exact h.finish ha hfinish
    | startNamespace name =>
        rw [Action.after, Writer.startNamespace, h.dialect]
        exact h.openUnder ha
    | render | bail => exact h
  opening := by
    intro w o trailing hp h
    have ho : o.Forms := hp.1
    -- a header that opens a form is not empty, so it is written
    have hheader : ∀ {d : String}, Leads '(' ')' 0 1 d →
        (if d.isEmpty then w.start else w.openUnder d).InStep := by
      intro d hd
      have hne : ¬d.isEmpty = true := by
        rw [String.isEmpty_iff]
        rintro rfl
        exact absurd hd (by decide)
      rw [if_neg hne]
      exact h.openUnder hd
    obtain (_ | d) | d | m := o
    · exact absurd ho id
    · exact hheader ho
    · exact hheader ho
    · rw [Opening.apply, h.dialect]
      exact h.openUnder ho
  closing := fun hp h hfinish => h.finish hp.2 hfinish

end UnitFoundry.Emit
