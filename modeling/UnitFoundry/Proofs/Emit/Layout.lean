import UnitFoundry.Generator.Basic
import UnitFoundry.Proofs.Emit.Delimiters

/-! # The layout of braced text

Text in the braced dialect can be read back without the writer: as long as no supplied text has a
brace, the braces alone tell how many blocks are open, and how far each line is indented.

* **`Emit.Laid`**: rows of text that are laid out by their braces.
* **`Emit.Laid.count_eq`**, **`Emit.Laid.count_le`**: braces are opened before they are closed.
* **`Emit.Laid.indented`**: each row is indented by the braces before it.
* **`Emit.kept_laidOut`**: every operation keeps the text laid out.
* **`Emit.delimiters_track`**: in both dialects the delimiters follow the open blocks. -/

namespace UnitFoundry.Emit

/-! ## Rows -/

/-- What may not be in a text that is supplied for a line of braced text. -/
def structural : List Char := ['\x7b', '\x7d', '\n']

/-- The blanks in front of a row inside `n` blocks. -/
def indent (n : Nat) : List Char :=
  List.replicate (4 * n) ' '

/-- A row of braced text between `m` open blocks before it and `n` after it. What stands behind the
blanks in front of it satisfies a condition. -/
inductive Row (C : String → Prop) : Nat → Nat → List Char → Prop where
  /-- An empty row. -/
  | blank (n : Nat) : Row C n n []
  /-- A row inside the open blocks. -/
  | text {s : String} (n : Nat) : Free structural s → C s → Row C n n (indent n ++ s.toList)
  /-- A row that opens a block. -/
  | opens (n : Nat) : C "\x7b" → Row C n (n + 1) (indent n ++ ['\x7b'])
  /-- A row that closes the innermost block, and is outside of it. -/
  | closes {t : String} (n : Nat) : Free structural t → C ("\x7d" ++ t) →
    Row C (n + 1) n (indent n ++ '\x7d' :: t.toList)

/-- Rows of braced text, from the first one on, and the number of blocks that they leave open. -/
inductive Laid (C : String → Prop) : List (List Char) → Nat → Prop where
  /-- At first there is no row, and no block is open. -/
  | nil : Laid C [] 0
  /-- One more row. -/
  | concat {rows : List (List Char)} {row : List Char} {m n : Nat} : Laid C rows m →
    Row C m n row → Laid C (rows ++ [row]) n

/-- What stands in a list with one more element is that element or stands in the list. -/
theorem append_singleton_eq_append_cons {α : Type} {xs before after : List α} {x y : α}
    (h : xs ++ [x] = before ++ y :: after) :
    (xs = before ∧ x = y) ∨ ∃ after', xs = before ++ y :: after' := by
  rcases List.eq_nil_or_concat after with rfl | ⟨after, last, rfl⟩
  · obtain ⟨hxs, hx⟩ := List.append_inj' h rfl
    exact .inl ⟨hxs, List.singleton_inj.1 hx⟩
  · rw [List.concat_eq_append, ← List.cons_append, ← List.append_assoc] at h
    exact .inr ⟨after, (List.append_inj' h rfl).1⟩

/-- The text of rows, each ended by a newline. -/
def joinRows (rows : List (List Char)) : List Char :=
  rows.flatMap (· ++ ['\n'])

theorem joinRows_concat (rows : List (List Char)) (row : List Char) :
    joinRows (rows ++ [row]) = joinRows rows ++ (row ++ ['\n']) := by
  rw [joinRows, List.flatMap_append, List.flatMap_singleton, joinRows]

/-- Newlines apart, the text of rows has the characters of the rows. -/
theorem count_joinRows {c : Char} (hc : c ≠ '\n') (rows : List (List Char)) :
    (joinRows rows).count c = rows.flatten.count c := by
  have hnewline : ['\n'].count c = 0 :=
    List.count_eq_zero.2 fun hmem => hc (List.mem_singleton.1 hmem)
  induction rows with
  | nil => rfl
  | cons row rows ih =>
      rw [joinRows] at ih ⊢
      rw [List.flatMap_cons, List.flatten_cons, List.count_append, List.count_append,
        List.count_append, hnewline, Nat.add_zero, ih]

/-- The lines of the text of rows are the rows, and an empty one behind the last newline. -/
theorem splitOn_joinRows {rows : List (List Char)} (h : ∀ row ∈ rows, '\n' ∉ row) :
    (joinRows rows).splitOn '\n' = rows ++ [[]] := by
  induction rows with
  | nil => rfl
  | cons row rows ih =>
      obtain ⟨hrow, hrest⟩ := List.forall_mem_cons.1 h
      rw [joinRows] at ih ⊢
      rw [List.flatMap_cons, List.append_assoc, List.singleton_append,
        List.splitOn_append_cons_self_of_not_mem hrow, ih hrest, List.cons_append]

variable {C : String → Prop} {rows : List (List Char)} {row : List Char} {m n : Nat}
  {s t : String}

theorem notMem_indent {c : Char} (hc : c ≠ ' ') (n : Nat) : c ∉ indent n :=
  fun hmem => hc (List.eq_of_mem_replicate hmem)

theorem Free.notMem {bad : List Char} {c : Char} (h : Free bad s) (hc : c ∈ bad) :
    c ∉ s.toList :=
  fun hmem => h c hmem hc

namespace Row

/-- A row has a brace if it opens or closes a block, and no other one. -/
theorem counts (h : Row C m n row) :
    (row.count '\x7b' = 0 ∧ row.count '\x7d' = 0 ∧ n = m) ∨
    (row.count '\x7b' = 1 ∧ row.count '\x7d' = 0 ∧ n = m + 1) ∨
    (row.count '\x7b' = 0 ∧ row.count '\x7d' = 1 ∧ m = n + 1) := by
  have hindent : ∀ n, (indent n).count '\x7b' = 0 ∧ (indent n).count '\x7d' = 0 := fun n =>
    ⟨List.count_eq_zero.2 (notMem_indent (by decide) n),
      List.count_eq_zero.2 (notMem_indent (by decide) n)⟩
  have hfree : ∀ {s : String}, Free structural s →
      s.toList.count '\x7b' = 0 ∧ s.toList.count '\x7d' = 0 := fun hs =>
    ⟨List.count_eq_zero.2 (hs.notMem (by decide)), List.count_eq_zero.2 (hs.notMem (by decide))⟩
  cases h with
  | blank => simp
  | text _ hs => simp [hindent m, hfree hs]
  | opens => simp [hindent m]
  | closes _ ht => simp [hindent n, hfree ht]

theorem newline_notMem (h : Row C m n row) : '\n' ∉ row := by
  have hindent : ∀ n, '\n' ∉ indent n := notMem_indent (by decide)
  cases h with
  | blank => exact List.not_mem_nil
  | text _ hs => simp [hindent m, hs.notMem (show '\n' ∈ structural by decide)]
  | opens => simp [hindent m]
  | closes _ ht => simp [hindent n, ht.notMem (show '\n' ∈ structural by decide)]

/-- **A row is indented by the blocks that are open before it**, without the one that it closes. -/
theorem indented (h : Row C m n row) (hne : row ≠ []) :
    ∃ k s, C s ∧ row = indent k ++ s.toList ∧ m = row.count '\x7d' + k := by
  have hcounts := h.counts
  cases h with
  | blank => exact absurd rfl hne
  | @text s _ _ hs => exact ⟨m, s, hs, rfl, by omega⟩
  | opens _ hs => exact ⟨m, _, hs, rfl, by omega⟩
  | closes _ _ hs =>
      refine ⟨n, _, hs, ?_, by omega⟩
      rw [String.toList_append]
      rfl

end Row

namespace Laid

/-- **As many braces have been left open as there are open blocks.** -/
theorem count_eq (h : Laid C rows n) :
    rows.flatten.count '\x7b' = rows.flatten.count '\x7d' + n := by
  induction h with
  | nil => rfl
  | concat _ hrow ih =>
      have hcounts := hrow.counts
      rw [List.flatten_concat, List.count_append, List.count_append]
      omega

/-- **Nowhere have more braces been closed than opened.** -/
theorem count_le (h : Laid C rows n) {p : List Char} (hp : p <+: joinRows rows) :
    p.count '\x7d' ≤ p.count '\x7b' := by
  induction h with
  | nil =>
      rw [List.prefix_nil.1 hp]
      exact Nat.le_refl _
  | @concat rows row m n h hrow ih =>
      rw [joinRows_concat] at hp
      -- a prefix ends before the new row or within it
      obtain hold | ⟨q, rfl⟩ := List.prefix_or_prefix_of_prefix hp (List.prefix_append _ _)
      · exact ih hold
      · -- what is closed in the new row was open before it
        have hq := ((List.prefix_append_right_inj _).1 hp).sublist.count_le '\x7d'
        have hclosed : (row ++ ['\n']).count '\x7d' ≤ m := by
          have hcounts := hrow.counts
          rw [List.count_append, show ['\n'].count '\x7d' = 0 from rfl]
          omega
        have hopen := h.count_eq
        rw [List.count_append, List.count_append, count_joinRows (by decide),
          count_joinRows (by decide)]
        omega

theorem newline_notMem (h : Laid C rows n) : ∀ row ∈ rows, '\n' ∉ row := by
  induction h with
  | nil => exact fun row hrow => absurd hrow List.not_mem_nil
  | concat _ hrow ih =>
      rw [List.forall_mem_append]
      exact ⟨ih, fun row hmem => List.mem_singleton.1 hmem ▸ hrow.newline_notMem⟩

/-- **Each row that is not empty is indented by the braces before it.** -/
theorem indented (h : Laid C rows n) {before after : List (List Char)} {line : List Char}
    (hrows : rows = before ++ line :: after) (hne : line ≠ []) :
    ∃ k s, C s ∧ line = indent k ++ s.toList ∧
      before.flatten.count '\x7b' = before.flatten.count '\x7d' + line.count '\x7d' + k := by
  induction h generalizing after with
  | nil => exact absurd hrows (by simp)
  | concat h hrow ih =>
      obtain ⟨rfl, rfl⟩ | ⟨after', hold⟩ := append_singleton_eq_append_cons hrows
      · obtain ⟨k, s, hs, hline, hk⟩ := hrow.indented hne
        exact ⟨k, s, hs, hline, by rw [h.count_eq, hk, Nat.add_assoc]⟩
      · exact ih hold

end Laid

/-! ## Supplied texts -/

/-- Whether none of some characters is in what a line of a template supplies. -/
def TemplateLine.Free (bad : List Char) : TemplateLine → Prop
  | .blank => True
  | .opening s | .closing s | .text s => Emit.Free bad s

/-- Whether the texts, names and types that an operation supplies have no braces and, templates
apart, no newlines. -/
def Action.Plain : Action → Prop
  | .write template => Emit.Free ['\x7b', '\x7d'] template
  | .line s | .finish s | .startNamespace s => Emit.Free structural s
  | .blank | .start | .render | .bail => True

/-- Whether the texts, names and types that open a guarded block have no braces and no newlines. -/
def Opening.Plain : Opening → Prop
  | .scoped none => True
  | .scoped (some d) | .typed d => Emit.Free structural d
  | .member m => m.Free structural

/-- Whether the texts, names and types that a part of a script supplies have no braces and,
templates apart, no newlines. -/
def Part.Plain : Part → Prop
  | .action a => a.Plain
  | .guard o trailing => o.Plain ∧ Emit.Free structural trailing

instance : DecidablePred Action.Plain
  | .write template => inferInstanceAs (Decidable (Emit.Free ['\x7b', '\x7d'] template))
  | .line s | .finish s | .startNamespace s => inferInstanceAs (Decidable (Emit.Free structural s))
  | .blank | .start | .render | .bail => .isTrue trivial

instance : DecidablePred Opening.Plain
  | .scoped none => .isTrue trivial
  | .scoped (some d) | .typed d => inferInstanceAs (Decidable (Emit.Free structural d))
  | .member m => inferInstanceAs (Decidable (m.Free structural))

instance : DecidablePred Part.Plain
  | .action a => inferInstanceAs (Decidable a.Plain)
  | .guard o trailing => inferInstanceAs (Decidable (o.Plain ∧ Emit.Free structural trailing))

/-- What stands behind the blanks in front of the rows that a line of a template writes. -/
def TemplateLine.contents (d : Dialect) : TemplateLine → List String
  | .blank => []
  | .opening header => header :: d.openDelimiter?.toList
  | .closing trailing => [d.closeDelimiter ++ trailing]
  | .text s => [s]

/-- What stands behind the blanks in front of the rows that an operation writes. -/
def Action.contents (d : Dialect) : Action → List String
  | .write template => (templateLines template).flatMap (·.contents d)
  | .line s => [s]
  | .start => d.openDelimiter?.toList
  | .finish trailing => [d.closeDelimiter ++ trailing]
  | .startNamespace name => d.namespaceHeader name :: d.openDelimiter?.toList
  | .blank | .render | .bail => []

/-- What stands behind the blanks in front of the rows that open a guarded block. -/
def Opening.contents (d : Dialect) : Opening → List String
  | .scoped none => d.openDelimiter?.toList
  | .scoped (some s) | .typed s =>
    (if s.isEmpty then [] else [s]) ++ d.openDelimiter?.toList
  | .member m => (m.declaration d).lines ++ d.openDelimiter?.toList

/-- What stands behind the blanks in front of the rows that a part of a script writes. -/
def Part.contents (d : Dialect) : Part → List String
  | .action a => a.contents d
  | .guard o trailing => o.contents d ++ [d.closeDelimiter ++ trailing]

namespace TemplateLine

variable {bad cs rest marker : List Char}

theorem sublist_of_after? (h : after? marker cs = some rest) : rest.Sublist cs := by
  rw [after?] at h
  split at h
  · exact Option.some.inj h ▸ List.drop_sublist _ cs
  · exact absurd h (by simp)

theorem sublist_of_afterEnd? (h : afterEnd? cs = some rest) : rest.Sublist cs := by
  rw [afterEnd?] at h
  split at h
  · exact Option.some.inj h ▸ List.nil_sublist cs
  · rename_i hafter
    split at h
    · exact absurd h (by simp)
    · exact Option.some.inj h ▸ sublist_of_after? hafter
  · exact absurd h (by simp)

/-- **What a line of a template supplies has no characters of its own**, except for quotes. -/
theorem free_classify (hquote : '"' ∉ bad) (h : ∀ c ∈ cs, c ∉ bad) :
    (classify cs).Free bad := by
  have hline : ∀ c ∈ cs.map unquote, c ∉ bad := by
    rw [List.forall_mem_map]
    intro c hc
    rw [unquote]
    split
    · exact hquote
    · exact h c hc
  have hfree : ∀ {l : List Char}, l.Sublist (cs.map unquote) →
      Emit.Free bad (String.ofList l) := by
    intro l hl c hc
    rw [String.toList_ofList] at hc
    exact hline c (hl.subset hc)
  have htrimmed : (Text.trimStart (cs.map unquote)).Sublist (cs.map unquote) :=
    List.dropWhile_sublist _
  rw [classify]
  split
  · trivial
  · split
    · rename_i hafter
      exact hfree ((Text.trim_sublist _).trans ((sublist_of_after? hafter).trans htrimmed))
    · split
      · rename_i hafter
        exact hfree ((Text.trim_sublist _).trans ((sublist_of_afterEnd? hafter).trans htrimmed))
      · exact hfree (List.Sublist.refl _)

/-- The lines of a template without braces supply neither braces nor newlines. -/
theorem free_of_mem_templateLines {template : String}
    (h : Emit.Free ['\x7b', '\x7d'] template) : ∀ l ∈ templateLines template,
      l.Free structural := by
  rw [templateLines]
  split
  · exact fun l hl => List.mem_singleton.1 hl ▸ trivial
  · rw [List.forall_mem_map]
    intro cs hcs
    refine free_classify (by decide) (Text.forall_of_mem_lines (fun c hc hnewline => ?_) hcs)
    have hbrace := h c hc
    simp only [List.mem_cons, not_or, structural] at hbrace ⊢
    exact ⟨hbrace.1, hbrace.2.1, hnewline, hbrace.2.2⟩

end TemplateLine

/-- **The declaration of a member has no braces** if there are none in its names and types. -/
theorem free_declaration {m : Member} (h : m.Free structural) :
    ∀ s ∈ (m.declaration .rust).lines, Free structural s := by
  have harguments : Free structural (", ".intercalate (m.arguments.map (·.render .rust))) := by
    refine Free.intercalate (by decide) ?_
    rw [List.forall_mem_map]
    intro a ha
    obtain ⟨hname, htype⟩ := h.arguments a ha
    rw [Argument.render, free_append, free_append]
    exact ⟨⟨hname, by decide⟩, htype⟩
  have hsignature : Free structural m.signature := by
    rw [Member.signature, free_append, free_append, free_append, free_append]
    refine ⟨⟨⟨⟨h.name, by decide⟩, harguments⟩, by decide⟩, ?_⟩
    cases hr : m.returns with
    | none => decide
    | some t => exact free_append.2 ⟨by decide, h.returns t hr⟩
  have hheader : ∀ {s : String}, Free structural s → Free structural (s ++ m.signature) :=
    fun hs => free_append.2 ⟨hs, hsignature⟩
  rw [Member.declaration, Declaration.lines]
  cases m.access with
  | everyone =>
      rw [List.forall_mem_append, List.forall_mem_singleton, List.forall_mem_singleton]
      exact ⟨by decide, hheader (by decide)⟩
  | own => exact List.forall_mem_singleton.2 (hheader (by decide))
  | internal => exact List.forall_mem_singleton.2 (hheader (by decide))

/-! ## Writers of braced text -/

/-- What is known of a writer of braced text: its text is laid out by its braces, and they leave
its open blocks open. -/
structure Writer.LaidOut (C : String → Prop) (w : Writer) : Prop where
  /-- It writes braced text. -/
  dialect : w.dialect = .rust
  /-- Its text is that of rows that are laid out. -/
  laid : ∃ rows, w.text.toList = joinRows rows ∧ Laid C rows w.level

namespace Writer.LaidOut

variable {w w' : Writer} {trailing : String}

/-- At first there is no text. -/
theorem start (C : String → Prop) : LaidOut C { dialect := .rust } :=
  ⟨rfl, [], rfl, .nil⟩

/-- A row is added. -/
theorem concat (h : w.LaidOut C) (hrow : Row C w.level w'.level row)
    (htext : w'.text.toList = w.text.toList ++ (row ++ ['\n'])) (hd : w'.dialect = .rust) :
    w'.LaidOut C := by
  obtain ⟨rows, hrows, hlaid⟩ := h.laid
  exact ⟨hd, rows ++ [row], by rw [htext, hrows, joinRows_concat], hlaid.concat hrow⟩

theorem toList_text_line (w : Writer) (s : String) : (w.line s).text.toList =
    w.text.toList ++ (indent w.level ++ s.toList ++ ['\n']) := by
  rw [text_line, String.toList_append, String.toList_append, String.toList_append, indentation,
    String.toList_ofList, List.append_assoc, List.append_assoc, List.append_assoc]
  rfl

theorem blank (h : w.LaidOut C) : w.blank.LaidOut C := by
  refine h.concat (.blank w.level) ?_ h.dialect
  rw [text_blank, String.toList_append]
  rfl

theorem line (h : w.LaidOut C) (hs : Free structural s) (hC : C s) : (w.line s).LaidOut C :=
  h.concat (.text w.level hs hC) (toList_text_line w s) h.dialect

theorem lines (h : w.LaidOut C) {ss : List String}
    (hss : ∀ s ∈ ss, Free structural s ∧ C s) : (ss.foldl Writer.line w).LaidOut C := by
  induction ss generalizing w with
  | nil => exact h
  | cons s ss ih =>
      obtain ⟨⟨hs, hC⟩, hrest⟩ := List.forall_mem_cons.1 hss
      exact ih (h.line hs hC) hrest

/-- The delimiter opens a block. -/
theorem openBlock (h : w.LaidOut C) (hC : C "\x7b") (label : String) :
    (w.openBlock label).LaidOut C := by
  have hopen : w.openBlock label =
      { w.line "\x7b" with openBlocks := label :: w.openBlocks } := by
    rw [Writer.openBlock, h.dialect]
    rfl
  rw [hopen]
  exact h.concat (.opens w.level hC) (toList_text_line w "\x7b") h.dialect

/-- The delimiter closes the innermost block. -/
theorem finish (h : w.LaidOut C) (ht : Free structural trailing) (hC : C ("\x7d" ++ trailing))
    (hfinish : w.finish trailing = .ok w') : w'.LaidOut C := by
  obtain ⟨label, outer, hblocks, rfl⟩ := finish_eq_ok hfinish
  rw [h.dialect]
  have hlevel : w.level = outer.length + 1 := by rw [level, hblocks, List.length_cons]
  -- the block has been closed before the row is indented
  have hrow : Row C w.level outer.length (indent outer.length ++ '\x7d' :: trailing.toList) := by
    rw [hlevel]
    exact .closes outer.length ht hC
  refine LaidOut.blank (h.concat hrow ?_ rfl)
  rw [toList_text_line, String.toList_append]
  rfl

/-- Lines of a template that supply neither braces nor newlines keep the text laid out, up to the
first that fails. -/
theorem templateLines (h : w.LaidOut C) {ls : List TemplateLine}
    (hls : ∀ l ∈ ls, l.Free structural ∧ ∀ s ∈ l.contents .rust, C s) :
    (w.templateLines ls).1.LaidOut C := by
  induction ls generalizing w with
  | nil => exact h
  | cons l ls ih =>
      obtain ⟨⟨hfree, hC⟩, hrest⟩ := List.forall_mem_cons.1 hls
      rw [Writer.templateLines]
      cases l with
      | blank => exact ih h.blank hrest
      | text s => exact ih (h.line hfree (hC s List.mem_cons_self)) hrest
      | opening header =>
          have hline := h.line hfree (hC header List.mem_cons_self)
          exact ih (hline.openBlock (hC _ (List.mem_cons_of_mem _ List.mem_cons_self)) header) hrest
      | closing trailing =>
          rw [templateLine]
          cases hfinish : w.finish trailing with
          | error e => exact h
          | ok w' => exact ih (h.finish hfree (hC _ List.mem_cons_self) hfinish) hrest

end Writer.LaidOut

/-- **Every operation keeps the text laid out**, if it supplies neither braces nor, templates
apart, newlines. -/
theorem kept_laidOut (C : String → Prop) :
    Kept (Writer.LaidOut C) fun p => p.Plain ∧ ∀ s ∈ p.contents .rust, C s where
  action := by
    rintro w a ⟨hplain, hC⟩ h
    cases a with
    | write template =>
        refine h.templateLines fun l hl => ⟨TemplateLine.free_of_mem_templateLines hplain l hl, ?_⟩
        exact fun s hs => hC s (List.mem_flatMap.2 ⟨l, hl, hs⟩)
    | line s => exact h.line hplain (hC s List.mem_cons_self)
    | blank => exact h.blank
    | start => exact h.openBlock (hC _ List.mem_cons_self) _
    | finish trailing =>
        rw [Action.after]
        cases hfinish : w.finish trailing with
        | error e => exact h
        | ok w' => exact h.finish hplain (hC _ List.mem_cons_self) hfinish
    | startNamespace name =>
        rw [Action.after, Writer.startNamespace, h.dialect]
        have hheader : Free structural (Dialect.rust.namespaceHeader name) :=
          free_append.2 ⟨by decide, hplain⟩
        exact (h.line hheader (hC _ List.mem_cons_self)).openBlock
          (hC _ (List.mem_cons_of_mem _ List.mem_cons_self)) _
    | render | bail => exact h
  opening := by
    rintro w o trailing ⟨⟨hplain, -⟩, hC⟩ h
    have hC' : ∀ s ∈ o.contents .rust, C s := fun s hs => hC s (List.mem_append_left _ hs)
    -- an empty header is not written, but its block is opened
    have hheader : ∀ {d : String}, Free structural d →
        (∀ s ∈ (if d.isEmpty then [] else [d]) ++ ["\x7b"], C s) →
          (if d.isEmpty then w.start else w.openUnder d).LaidOut C := by
      intro d hd hC
      have hbrace := hC _ (List.mem_append_right _ List.mem_cons_self)
      by_cases hempty : d.isEmpty
      · rw [if_pos hempty]
        exact h.openBlock hbrace _
      · rw [if_neg hempty] at hC ⊢
        exact (h.line hd (hC d List.mem_cons_self)).openBlock hbrace _
    obtain (_ | d) | d | m := o
    · exact h.openBlock (hC' _ List.mem_cons_self) _
    · exact hheader hplain hC'
    · exact hheader hplain hC'
    · -- the lines before the header are written first
      rw [Opening.apply, h.dialect]
      have hfree := free_declaration hplain
      have hlines : ∀ s ∈ (m.declaration .rust).lines, C s :=
        fun s hs => hC' s (List.mem_append_left _ hs)
      rw [Declaration.lines, List.forall_mem_append, List.forall_mem_singleton] at hfree hlines
      have hattributes := h.lines fun s hs => ⟨hfree.1 s hs, hlines.1 s hs⟩
      exact (hattributes.line hfree.2 hlines.2).openBlock
        (hC' _ (List.mem_append_right _ List.mem_cons_self)) _
  closing := by
    rintro w w' o trailing ⟨hplain, hC⟩ h hfinish
    exact h.finish hplain.2 (hC _ (List.mem_append_right _ List.mem_cons_self)) hfinish

/-! ## Delimiters and open blocks -/

/-- Whether nowhere in a text more delimiters have been closed than opened. -/
def NeverShort (o c : Char) (text : String) : Prop :=
  ∀ p, p <+: text.toList → p.count c ≤ p.count o

/-- Whether each line of a text that is not empty is indented by four blanks for each brace that has
been left open before it, without one that the line itself closes. What stands behind the blanks is
one of some contents. -/
def Indented (contents : List String) (text : String) : Prop :=
  ∀ before line after, text.toList.splitOn '\n' = before ++ line :: after → line ≠ [] →
    ∃ k, ∃ s ∈ contents, line = List.replicate (4 * k) ' ' ++ s.toList ∧
      before.flatten.count '\x7b' = before.flatten.count '\x7d' + line.count '\x7d' + k

/-- **Text that is laid out** never closes a brace that is not open, and is indented. -/
theorem Writer.LaidOut.spec {contents : List String} {w : Writer}
    (h : w.LaidOut (· ∈ contents)) :
    w.Tracks '\x7b' '\x7d' ∧ NeverShort '\x7b' '\x7d' w.text ∧ Indented contents w.text := by
  obtain ⟨rows, hrows, hlaid⟩ := h.laid
  refine ⟨?_, fun p hp => hlaid.count_le (hrows ▸ hp), fun before line after hsplit hne => ?_⟩
  · rw [Tracks, Leads, hrows, count_joinRows (by decide), count_joinRows (by decide),
      hlaid.count_eq, Nat.zero_add, Nat.add_comm]
  · rw [hrows, splitOn_joinRows hlaid.newline_notMem] at hsplit
    obtain ⟨-, hline⟩ | ⟨after', hold⟩ := append_singleton_eq_append_cons hsplit
    · exact absurd hline.symm hne
    · obtain ⟨k, s, hs, hline, hcount⟩ := hlaid.indented hold hne
      exact ⟨k, s, hs, hline, hcount⟩

/-- Whether the source that a script builds, if it builds one, satisfies a condition. This is the
source that is handed to the compiler, whatever the generator is; without one, nothing is. -/
def HandsOver (d : Dialect) (steps : List Step) (Q : String → Prop) : Prop :=
  ∀ (E : Engine) (g : Generator E) (files : Files) (ending : String),
    (∃ e, (build d steps).1 = .error e ∧
      (g.generateWith files ending d steps).result = .error (.emit e)) ∨
    ∃ source, (build d steps).1 = .ok source ∧ Q source ∧
      (g.generateWith files ending d steps).result =
        (g.generate files ending .library source).result.mapError .compile

/-- A script gives no source, or it gives the text that it has written, with no block open. -/
theorem build_cases (d : Dialect) (steps : List Step) :
    (∃ e late, build d steps = (.error e, late)) ∨
    ∃ late, build d steps = (.ok (runScript true d steps).writer.text, late) ∧
      (runScript true d steps).writer.level = 0 := by
  rw [build]
  cases (runScript true d steps).left with
  | some e => exact .inl ⟨e, _, rfl⟩
  | none =>
      cases hblocks : (runScript true d steps).writer.openBlocks with
      | nil =>
          refine .inr ⟨(runScript true d steps).warnings, ?_, ?_⟩
          · simp only [Writer.rendered, hblocks, List.isEmpty_nil, if_true]
          · rw [Writer.level, hblocks, List.length_nil]
      | cons label outer =>
          refine .inl ⟨.unclosedBlocks (label :: outer).reverse,
            (runScript true d steps).warnings, ?_⟩
          simp only [Writer.rendered, hblocks, List.isEmpty_cons, Bool.false_eq_true, if_false]

/-- **What is handed over is the text at the end of the run**, where no block is open. -/
theorem handsOver_of_level {d : Dialect} {steps : List Step} {Q : String → Prop}
    (h : (runScript true d steps).writer.level = 0 → Q (runScript true d steps).writer.text) :
    HandsOver d steps Q := by
  intro E g files ending
  rw [Generator.generateWith]
  obtain ⟨e, late, hbuild⟩ | ⟨late, hbuild, hlevel⟩ := build_cases d steps
  · rw [hbuild]
    exact .inl ⟨e, rfl, rfl⟩
  · rw [hbuild]
    exact .inr ⟨_, rfl, h hlevel, rfl⟩

/-- **Delimiters follow the open blocks** at each moment of a run.

* In the braced dialect, if no supplied text has a brace or, templates apart, a newline, as many
  braces have been left open as there are open blocks, none is closed before it has been opened,
  and each line is indented by the braces that are open before it.
* In the form dialect, if every block is opened by a header that leaves one form open and all other
  texts are balanced, as many forms have been left open as there are open blocks. The headers of
  namespaces and members are such headers if their names and types have no parentheses.

So a source that is handed to the compiler is balanced. -/
theorem delimiters_track (strict : Bool) (steps : List Step) :
    ((∀ p ∈ Step.partsAll steps, p.Plain) →
      (∀ s, Passes strict { writer := { dialect := .rust } } steps s →
        s.writer.Tracks '\x7b' '\x7d' ∧ NeverShort '\x7b' '\x7d' s.writer.text ∧
          Indented ((Step.partsAll steps).flatMap (·.contents .rust)) s.writer.text) ∧
      HandsOver .rust steps fun source =>
        Leads '\x7b' '\x7d' 0 0 source ∧ NeverShort '\x7b' '\x7d' source) ∧
    ((∀ p ∈ Step.partsAll steps, p.Forms) →
      (∀ s, Passes strict { writer := { dialect := .wat } } steps s →
        s.writer.Tracks '(' ')') ∧
      HandsOver .wat steps fun source => Leads '(' ')' 0 0 source) ∧
    (∀ name, Free ['(', ')'] name → (Action.startNamespace name).Forms) ∧
    ∀ m : Member, m.Free ['(', ')'] → (Opening.member m).Forms := by
  refine ⟨fun hplain => ?_, fun hforms => ?_, fun name => leads_namespaceHeader,
    fun m => leads_form⟩
  · have hparts : ∀ p ∈ Step.partsAll steps, p.Plain ∧ ∀ s ∈ p.contents .rust,
        s ∈ (Step.partsAll steps).flatMap (·.contents .rust) :=
      fun p hp => ⟨hplain p hp, fun s hs => List.mem_flatMap.2 ⟨p, hp, hs⟩⟩
    have hspec : ∀ strict s, Passes strict { writer := { dialect := .rust } } steps s →
        s.writer.Tracks '\x7b' '\x7d' ∧ NeverShort '\x7b' '\x7d' s.writer.text ∧
          Indented ((Step.partsAll steps).flatMap (·.contents .rust)) s.writer.text :=
      fun strict s hs => ((kept_laidOut _).of_passes hs hparts (.start _)).spec
    refine ⟨hspec strict, handsOver_of_level fun hlevel => ?_⟩
    obtain ⟨htracks, hnever, -⟩ :=
      hspec true (runScript true .rust steps) (passes_runAll true _ steps)
    rw [Writer.Tracks, hlevel] at htracks
    exact ⟨htracks, hnever⟩
  · -- a header of forms opens its block by itself, so the text needs no layout
    have htracks : ∀ strict s, Passes strict { writer := { dialect := .wat } } steps s →
        s.writer.Tracks '(' ')' :=
      fun strict s hs => (kept_forms.of_passes hs hforms ⟨rfl, rfl⟩).tracks
    refine ⟨htracks strict, handsOver_of_level fun hlevel => ?_⟩
    have hend := htracks true (runScript true .wat steps) (passes_runAll true _ steps)
    rwa [Writer.Tracks, hlevel] at hend

/-- A namespace with a function, whose block is closed before its guard is dropped, and a
template. -/
def exampleSteps : List Step :=
  [.act (.startNamespace "counter") false,
    .guarded
      (.member
        { name := "step", arguments := [⟨"by", .value .i32⟩], returns := some (.value .i32) })
      "" [.act (.line "(get by)") false, .act (.finish "") false] false false,
    .act (.write "BLOCK: (start\nstep\nEND ;") false, .act (.finish "") false]

/-- The script builds braced text and forms, so what it hands over is balanced in both dialects. -/
theorem delimiters_track_counter :
    (∀ p ∈ Step.partsAll exampleSteps, p.Plain ∧ p.Forms) ∧
      (build .rust exampleSteps).1.isOk ∧ (build .wat exampleSteps).1.isOk ∧
      (HandsOver .rust exampleSteps fun source =>
        Leads '\x7b' '\x7d' 0 0 source ∧ NeverShort '\x7b' '\x7d' source) ∧
      HandsOver .wat exampleSteps fun source => Leads '(' ')' 0 0 source := by
  have hparts : ∀ p ∈ Step.partsAll exampleSteps, p.Plain ∧ p.Forms := by decide +kernel
  obtain ⟨hrust, hwat, -, -⟩ := delimiters_track true exampleSteps
  exact ⟨hparts, by decide +kernel, by decide +kernel, (hrust fun p hp => (hparts p hp).1).2,
    (hwat fun p hp => (hparts p hp).2).2⟩

end UnitFoundry.Emit
