import UnitFoundry.Proofs.Emit.OpenBlocks

/-! # Guards and the blocks around them

A guard remembers how many blocks were open with its own, and its release closes the innermost
block as long as that many are open. So it never closes a block around its own, whatever its body
has done; but it closes its own block only if that is the innermost one by then.

* **`Emit.Step.closingsAll`**: the moments of a run at which a block has just been closed by hand.
* **`Emit.Step.suffix_runAll`**: blocks that are not closed by hand stay open, since no guard that
  is released on the way closes them.
* **`Emit.guard_closes_innermost`**: which block the guard closes, and when it is its own.
* **`Emit.guard_keeps_outer`**: the blocks around a guard stay open, and what a release writes. -/

namespace UnitFoundry.Emit

variable {strict : Bool} {s : Session} {w w' : Writer} {g : Guard} {outer : List String}

/-! ## Closing by hand -/

/-- The writers right after each line of a template that closes a block. -/
def Writer.closings (w : Writer) : List TemplateLine → List Writer
  | [] => []
  | l :: ls =>
    match w.templateLine l with
    | .ok w' =>
      match l with
      | .closing _ => w' :: w'.closings ls
      | _ => w'.closings ls
    | .error _ => []

/-- The writers right after each block that an operation closes. -/
def Action.closings (w : Writer) : Action → List Writer
  | .write template => w.closings (templateLines template)
  | .finish trailing => (w.finish trailing).toOption.toList
  | _ => []

mutual

/-- The writers right after each block that a step closes by hand, in the body of a guarded block
as well. -/
def Step.closings (strict : Bool) (s : Session) : Step → List Writer
  | .act a _ => a.closings s.writer
  | .guarded o _ body _ _ => Step.closingsAll strict (s.record (o.apply s.writer) (.opened o)) body

/-- The writers right after each block that steps close by hand, up to the step that leaves the
script. -/
def Step.closingsAll (strict : Bool) (s : Session) : List Step → List Writer
  | [] => []
  | step :: steps =>
    step.closings strict s ++
      if (step.run strict s).left.isSome then []
      else Step.closingsAll strict (step.run strict s) steps

end

/-- Whether no closing by hand leaves fewer than `n` blocks open. -/
def KeepsOpen (strict : Bool) (n : Nat) (s : Session) (steps : List Step) : Prop :=
  ∀ w ∈ Step.closingsAll strict s steps, n ≤ w.level

instance (strict : Bool) (n : Nat) (s : Session) (steps : List Step) :
    Decidable (KeepsOpen strict n s steps) :=
  inferInstanceAs (Decidable (∀ w ∈ Step.closingsAll strict s steps, n ≤ w.level))

/-! ## Blocks that stay open -/

/-- Closing a block leaves those open that are outside of it. -/
theorem Writer.suffix_of_finish {trailing : String} (hfinish : w.finish trailing = .ok w')
    (hlevel : outer.length ≤ w'.level) (h : outer <:+ w.openBlocks) : outer <:+ w'.openBlocks := by
  rw [level, openBlocks_of_finish hfinish] at hlevel
  rw [openBlocks_of_finish hfinish]
  exact List.suffix_of_suffix_length_le h (List.tail_suffix _) hlevel

theorem Writer.suffix_templateLines {ls : List TemplateLine}
    (hclosings : ∀ w' ∈ w.closings ls, outer.length ≤ w'.level) (h : outer <:+ w.openBlocks) :
    outer <:+ (w.templateLines ls).1.openBlocks := by
  induction ls generalizing w with
  | nil => exact h
  | cons l ls ih =>
      rw [closings] at hclosings
      rw [templateLines]
      cases hline : w.templateLine l with
      | error e => exact h
      | ok w' =>
          rw [hline] at hclosings
          cases l with
          | blank | text =>
              obtain rfl := Except.ok.inj hline
              exact ih hclosings h
          | opening header =>
              obtain rfl := Except.ok.inj hline
              refine ih hclosings ?_
              rw [openBlocks_openUnder]
              exact h.trans (List.suffix_cons _ _)
          | closing trailing =>
              obtain ⟨hhead, hrest⟩ := List.forall_mem_cons.1 hclosings
              exact ih hrest (suffix_of_finish hline hhead h)

/-- An operation leaves the blocks open that it does not close. -/
theorem Action.suffix_after {a : Action}
    (hclosings : ∀ w' ∈ a.closings w, outer.length ≤ w'.level) (h : outer <:+ w.openBlocks) :
    outer <:+ (a.after w).openBlocks := by
  cases a with
  | write template => exact Writer.suffix_templateLines hclosings h
  | start =>
      rw [after, Writer.start, Writer.openBlocks_openBlock]
      exact h.trans (List.suffix_cons _ _)
  | startNamespace name =>
      rw [after, Writer.startNamespace, Writer.openBlocks_openUnder]
      exact h.trans (List.suffix_cons _ _)
  | finish trailing =>
      rw [closings] at hclosings
      rw [after]
      cases hfinish : w.finish trailing with
      | error e => exact h
      | ok w' =>
          rw [hfinish] at hclosings
          exact Writer.suffix_of_finish hfinish (hclosings w' List.mem_cons_self) h
  | line | blank | render | bail => exact h

/-- Opening a guarded block adds one to the level. -/
theorem Opening.level_apply (o : Opening) (w : Writer) : (o.apply w).level = w.level + 1 := by
  rw [Writer.level, (o.openBlocks_apply w).1, List.length_cons, Writer.level]

/-- **A guard closes no block outside of its own.** -/
theorem Guard.suffix_after (hdepth : outer.length < g.depth) (h : outer <:+ w.openBlocks) :
    outer <:+ (g.after w).openBlocks := by
  rw [(g.openBlocks_after w).1]
  split
  · exact h
  · rename_i hlevel
    refine List.suffix_of_suffix_length_le h (List.tail_suffix _) ?_
    rw [Writer.level] at hlevel
    rw [List.length_tail]
    omega

/-- The session at the end of the body of a guarded block, before its guard is released. -/
def Session.afterBody (strict : Bool) (s : Session) (o : Opening) (body : List Step) : Session :=
  Step.runAll strict (s.record (o.apply s.writer) (.opened o)) body

/-- A guarded block leaves the writer of the end of its body, once the guard has been released. -/
theorem Step.writer_run_guarded (strict : Bool) (s : Session) (o : Opening) (trailing : String)
    (body : List Step) (closes tried : Bool) :
    ((guarded o trailing body closes tried).run strict s).writer =
      (⟨s.writer.level + 1, trailing⟩ : Guard).after (s.afterBody strict o body).writer := by
  rw [run_guarded, o.level_apply]
  dsimp only
  split
  · exact Session.writer_close ..
  · exact Session.writer_drop ..

namespace Step

mutual

/-- A step leaves the blocks open that it does not close by hand. -/
theorem suffix_run (strict : Bool) : ∀ (step : Step) {s : Session},
    (∀ w ∈ step.closings strict s, outer.length ≤ w.level) → outer <:+ s.writer.openBlocks →
      outer <:+ (step.run strict s).writer.openBlocks
  | .act a tried, s, hclosings, h => by
      rw [closings] at hclosings
      rw [run, Session.writer_act]
      exact Action.suffix_after hclosings h
  | .guarded o trailing body closes tried, s, hclosings, h => by
      rw [closings] at hclosings
      rw [writer_run_guarded]
      -- the guard is deeper than all of these blocks
      refine Guard.suffix_after (Nat.lt_succ_of_le h.length_le) ?_
      refine suffix_runAll strict body hclosings ?_
      rw [Session.record, (o.openBlocks_apply s.writer).1]
      exact h.trans (List.suffix_cons _ _)

/-- **Steps leave the blocks open that they do not close by hand**, whatever guards are released on
the way. -/
theorem suffix_runAll (strict : Bool) : ∀ (steps : List Step) {s : Session},
    KeepsOpen strict outer.length s steps → outer <:+ s.writer.openBlocks →
      outer <:+ (runAll strict s steps).writer.openBlocks
  | [], s, _, h => by rwa [runAll]
  | step :: steps, s, hkeeps, h => by
      rw [KeepsOpen, closingsAll] at hkeeps
      obtain ⟨hstep, hrest⟩ := List.forall_mem_append.1 hkeeps
      have hsuffix := suffix_run strict step hstep h
      rw [runAll]
      split
      · exact hsuffix
      · rename_i hleft
        rw [if_neg hleft] at hrest
        exact suffix_runAll strict steps hrest hsuffix

end

end Step

/-- The block of a guard is open at the end of the body, unless it has been closed by hand. -/
theorem suffix_afterBody {o : Opening} {body : List Step}
    (hkeeps : KeepsOpen strict (s.writer.level + 1)
      (s.record (o.apply s.writer) (.opened o)) body) :
    (o.label s.writer.dialect :: s.writer.openBlocks) <:+
      (s.afterBody strict o body).writer.openBlocks :=
  Step.suffix_runAll strict body hkeeps ⟨[], (o.openBlocks_apply s.writer).1.symm⟩

/-! ## Bodies that leave nothing open -/

/-- Whether a part of a script leaves no block open besides those that it finds. A guarded block
does not, as long as the parts of its body do not. -/
def Part.OpensNothing : Part → Prop
  | .action a => ∀ w : Writer, (a.after w).level ≤ w.level
  | .guard _ _ => True

theorem Guard.level_after_le {n : Nat} (hdepth : g.depth = n + 1) (h : w.level ≤ n + 1) :
    (g.after w).level ≤ n := by
  rw [Writer.level, (g.openBlocks_after w).1, hdepth]
  split
  · rename_i hlevel
    exact Nat.le_of_lt_succ hlevel
  · rw [Writer.level] at h
    rw [List.length_tail]
    omega

namespace Step

mutual

/-- A step whose parts open nothing leaves no more blocks open than it finds. -/
theorem level_run_le (strict : Bool) : ∀ (step : Step) (s : Session),
    (∀ p ∈ step.parts, p.OpensNothing) → (step.run strict s).writer.level ≤ s.writer.level
  | .act a tried, s, hparts => by
      rw [parts] at hparts
      rw [run, Session.writer_act]
      exact hparts _ List.mem_cons_self s.writer
  | .guarded o trailing body closes tried, s, hparts => by
      rw [parts] at hparts
      rw [writer_run_guarded]
      refine Guard.level_after_le rfl ?_
      have hbody := level_runAll_le strict body (s.record (o.apply s.writer) (.opened o))
        fun p hp => hparts p (List.mem_cons_of_mem _ hp)
      exact le_of_le_of_eq hbody (o.level_apply s.writer)

/-- **Steps whose parts open nothing leave no more blocks open than they find**, whether or not
they are left early. -/
theorem level_runAll_le (strict : Bool) : ∀ (steps : List Step) (s : Session),
    (∀ p ∈ partsAll steps, p.OpensNothing) →
      (runAll strict s steps).writer.level ≤ s.writer.level
  | [], s, _ => Nat.le_of_eq (by rw [runAll])
  | step :: steps, s, hparts => by
      rw [partsAll] at hparts
      obtain ⟨hstep, hrest⟩ := List.forall_mem_append.1 hparts
      have hlevel := level_run_le strict step s hstep
      rw [runAll]
      split
      · exact hlevel
      · exact Nat.le_trans (level_runAll_le strict steps _ hrest) hlevel

end

end Step

/-! ## Which block a guard closes -/

/-- **A guard closes the innermost block.** Where the body of a guarded block does not close the
block by hand, the block is still open at its end, inside of it the blocks that the body has left
open, and the guard closes one block, the innermost of these, however the body has ended. So the
level is that from before exactly if the body has left no block open; and it has not if its
operations leave none open, those within nested guards included. -/
theorem guard_closes_innermost (strict : Bool) (s : Session) (o : Opening) (trailing : String)
    (body : List Step) (closes tried : Bool)
    (hkeeps : KeepsOpen strict (s.writer.level + 1)
      (s.record (o.apply s.writer) (.opened o)) body) :
    ∃ inner, (s.afterBody strict o body).writer.openBlocks =
        inner ++ o.label s.writer.dialect :: s.writer.openBlocks ∧
      ((Step.guarded o trailing body closes tried).run strict s).writer.openBlocks =
        (inner ++ o.label s.writer.dialect :: s.writer.openBlocks).tail ∧
      (((Step.guarded o trailing body closes tried).run strict s).writer.level = s.writer.level ↔
        inner = []) ∧
      ((∀ p ∈ Step.partsAll body, p.OpensNothing) → inner = []) := by
  obtain ⟨inner, hinner⟩ := suffix_afterBody hkeeps
  have hlevel : (s.afterBody strict o body).writer.level = inner.length + (s.writer.level + 1) := by
    rw [Writer.level, ← hinner, List.length_append, List.length_cons, Writer.level]
  have hreleased : ((Step.guarded o trailing body closes tried).run strict s).writer.openBlocks =
      (inner ++ o.label s.writer.dialect :: s.writer.openBlocks).tail := by
    rw [Step.writer_run_guarded, (Guard.openBlocks_after _ _).1,
      if_neg (by rw [hlevel]; exact Nat.not_lt_of_le (Nat.le_add_left _ _)), hinner]
  refine ⟨inner, hinner.symm, hreleased, ?_, fun hparts => ?_⟩
  · rw [Writer.level, hreleased, List.length_tail, List.length_append, List.length_cons,
      Writer.level, ← List.length_eq_zero_iff]
    omega
  · have hle := Step.level_runAll_le strict body (s.record (o.apply s.writer) (.opened o)) hparts
    have hsmall : (s.afterBody strict o body).writer.level ≤ s.writer.level + 1 :=
      le_of_le_of_eq hle (o.level_apply s.writer)
    rw [hlevel] at hsmall
    exact List.length_eq_zero_iff.1 (by omega)

/-- A function under way whose block has just been opened, in a text that was empty. -/
def inFunction : Session :=
  Session.record { writer := {} } ((Opening.scoped (some "fn f()")).apply {})
    (.opened (.scoped (some "fn f()")))

/-- A nested guard and an early exit: both blocks are closed on the way out. -/
theorem guard_closes_innermost_early :
    KeepsOpen false 1 inFunction [.guarded (.typed "if x") "" [.act .bail false] true false] ∧
    ((Step.guarded (.scoped (some "fn f()")) ""
      [.guarded (.typed "if x") "" [.act .bail false] true false] false false).run false
      { writer := {} }).writer.level = 0 := by
  have hkeeps : KeepsOpen false 1 inFunction
      [.guarded (.typed "if x") "" [.act .bail false] true false] := by
    decide +kernel
  obtain ⟨inner, -, -, hlevel, hnothing⟩ :=
    guard_closes_innermost false { writer := {} } (.scoped (some "fn f()")) ""
      [.guarded (.typed "if x") "" [.act .bail false] true false] false false hkeeps
  refine ⟨hkeeps, hlevel.2 (hnothing ?_)⟩
  intro p hp
  simp only [Step.partsAll, Step.parts, List.append_nil, List.mem_cons, List.not_mem_nil,
    or_false] at hp
  rcases hp with rfl | rfl
  · trivial
  · exact fun w => Nat.le_refl w.level

/-- The body opens a block by hand and leaves early: its guard closes that block and leaves its own
open, although nothing has closed that by hand. -/
theorem guard_leaves_own_open :
    KeepsOpen false 1 inFunction [.act .start false, .act .bail false] ∧
    ((Step.guarded (.scoped (some "fn f()")) "" [.act .start false, .act .bail false] false
      false).run false { writer := {} }).writer.openBlocks = ["fn f()"] := by
  decide +kernel

/-! ## What a guard leaves alone -/

theorem Guard.foldl_withTrailing (g : Guard) (texts : List String) :
    texts.foldl withTrailing g = ⟨g.depth, texts.getLast?.getD g.trailing⟩ := by
  induction texts generalizing g with
  | nil => rfl
  | cons text texts ih =>
      rw [List.foldl_cons, ih, List.getLast?_cons]
      rfl

/-- A release writes nothing, or one closing line and an empty one. -/
theorem Guard.after_eq (g : Guard) (w : Writer) : g.after w =
    if w.level < g.depth ∨ w.level = 0 then w
    else { w with
      openBlocks := w.openBlocks.tail
      text := w.text ++ Writer.indentation (w.level - 1) ++
        (w.dialect.closeDelimiter ++ g.trailing) ++ "\n" ++ "\n" } := by
  by_cases hlate : w.level < g.depth ∨ w.level = 0
  · rw [if_pos hlate, after,
      ClosesNothing.release_eq_error (hlate.imp_right List.length_eq_zero_iff.1)]
  · rw [if_neg hlate]
    rw [not_or] at hlate
    obtain ⟨label, outer, hblocks⟩ := List.exists_cons_of_ne_nil
      fun hnil => hlate.2 (List.length_eq_zero_iff.2 hnil)
    rw [after, release, if_neg hlate.1, Writer.finish, Writer.level, hblocks]
    rfl

/-- **A guard never closes a block around its own.** Where no closing by hand in the body leaves
fewer blocks open than there were before the guard, these are all still open after its release and
that of all guards within, with their labels. If none is open beyond them at the end of the body,
its own block has been closed by hand, and its release changes nothing. And each release of a guard,
by hand or not, changes nothing or closes the innermost block: it writes one line, the delimiter
with the text that was given last, and an empty one. -/
theorem guard_keeps_outer (strict : Bool) (s : Session) (o : Opening) (trailing : String)
    (body : List Step) (closes tried : Bool)
    (hkeeps : KeepsOpen strict s.writer.level (s.record (o.apply s.writer) (.opened o)) body) :
    s.writer.openBlocks <:+
        ((Step.guarded o trailing body closes tried).run strict s).writer.openBlocks ∧
      ((s.afterBody strict o body).writer.level ≤ s.writer.level →
        ((Step.guarded o trailing body closes tried).run strict s).writer =
          (s.afterBody strict o body).writer ∧
        ∃ w ∈ Step.closingsAll strict (s.record (o.apply s.writer) (.opened o)) body,
          w.level = s.writer.level) ∧
      ∀ (t : Session) (tried : Bool) (g : Guard) (texts : List String),
        (t.close tried (texts.foldl Guard.withTrailing g)).writer =
          (t.drop (texts.foldl Guard.withTrailing g)).writer ∧
        (t.drop (texts.foldl Guard.withTrailing g)).writer =
          if t.writer.level < g.depth ∨ t.writer.level = 0 then t.writer
          else { t.writer with
            openBlocks := t.writer.openBlocks.tail
            text := t.writer.text ++ Writer.indentation (t.writer.level - 1) ++
              (t.writer.dialect.closeDelimiter ++ texts.getLast?.getD g.trailing) ++
              "\n" ++ "\n" } := by
  refine ⟨?_, fun hlevel => ⟨?_, ?_⟩, fun t tried g texts => ⟨?_, ?_⟩⟩
  · exact Step.suffix_run strict (.guarded o trailing body closes tried)
      (by rw [Step.closings]; exact hkeeps) List.suffix_rfl
  · rw [Step.writer_run_guarded, Guard.after_eq, if_pos (.inl (Nat.lt_succ_of_le hlevel))]
  · -- otherwise the guard's own block would be open too
    refine Classical.byContradiction fun hnone => ?_
    have hown := suffix_afterBody fun w hw =>
      Nat.lt_of_le_of_ne (hkeeps w hw) fun heq => hnone ⟨w, hw, heq.symm⟩
    have hlength := hown.length_le
    rw [List.length_cons] at hlength
    exact absurd hlength (Nat.not_le_of_lt (Nat.lt_succ_of_le hlevel))
  · rw [Session.writer_close, Session.writer_drop]
  · rw [Session.writer_drop, Guard.foldl_withTrailing, Guard.after_eq]

/-- The body of a guard closes its block by hand, and an early exit from a guard at the same depth
releases both of them. -/
def reopenedBody : List Step :=
  [.act (.finish "") false, .guarded (.scoped (some "b")) ";" [.act .bail false] true false]

/-- The block around them is still open; the outer guard finds its block closed and nothing open
at its depth. -/
theorem guard_keeps_outer_reopened : ∃ s : Session, s.writer.openBlocks = ["<block>"] ∧
    KeepsOpen false 1 (s.record ((Opening.scoped (some "a")).apply s.writer)
      (.opened (.scoped (some "a")))) reopenedBody ∧
    ["<block>"] <:+ ((Step.guarded (.scoped (some "a")) "" reopenedBody false false).run
      false s).writer.openBlocks ∧
    ((Step.guarded (.scoped (some "a")) "" reopenedBody false false).run false s).writer =
      (s.afterBody false (.scoped (some "a")) reopenedBody).writer := by
  let s : Session := Step.runAll false { writer := {} } [.act .start false]
  have hkeeps : KeepsOpen false s.writer.level (s.record
      ((Opening.scoped (some "a")).apply s.writer) (.opened (.scoped (some "a"))))
      reopenedBody := by
    decide +kernel
  obtain ⟨hopen, hclosed, -⟩ :=
    guard_keeps_outer false s (.scoped (some "a")) "" reopenedBody false false hkeeps
  exact ⟨s, by decide +kernel, hkeeps, hopen, (hclosed (by decide +kernel)).1⟩

end UnitFoundry.Emit
