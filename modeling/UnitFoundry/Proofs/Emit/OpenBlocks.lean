import UnitFoundry.Proofs.Emit.Scripts

/-! # The open blocks of a script

What a script did tells which blocks are open, without a look at the writer: each opening pushes
the label of its block, and each closing pops one while there is one. A guard is remembered by its
depth, and its release pops a block only if that many are open.

* **`Emit.Step.events_runAll`**: the record of a run lists every operation that was run.
* **`Emit.Ledger.note`**: what one operation does to the blocks.
* **`Emit.Follows.runAll`**: the writer's blocks follow the record along a run.
* **`Emit.Session.Alike.runAll`**: a run depends on the writer alone, and not on the record.
* **`Emit.openBlocks_follow`**: at each moment the open blocks are those that the record tells, the
  text can be read exactly if there are none, and a failed closing leaves no trace. -/

namespace UnitFoundry.Emit

variable {strict : Bool} {d : Dialect} {s s' t : Session} {w w' : Writer} {g : Guard}
  {o : Opening} {depths : List Nat}

/-! ## The record -/

namespace Session

/-- The operations on record, in order. -/
def events (s : Session) : List Event :=
  s.entries.map (·.event)

theorem events_record (s : Session) (w : Writer) (e : Event) (error : Option EmitError)
    (text : Option String) : (s.record w e error text).events = s.events ++ [e] :=
  List.map_append

theorem events_leaveIf (s : Session) (tried : Bool) (error : Option EmitError) :
    (s.leaveIf tried error).events = s.events := by
  cases tried <;> rfl

/-- An operation is put on record, whether or not it fails. -/
theorem events_act (s : Session) (tried : Bool) (a : Action) :
    (s.act tried a).events = s.events ++ [.acted a] := by
  cases a with
  | write text => exact (events_leaveIf _ _ _).trans (events_record ..)
  | finish trailing =>
      rw [act]
      cases s.writer.finish trailing with
      | ok w => exact events_record ..
      | error e => exact (events_leaveIf _ _ _).trans (events_record ..)
  | render =>
      rw [act]
      cases s.writer.rendered with
      | ok text => exact events_record ..
      | error e => exact (events_leaveIf _ _ _).trans (events_record ..)
  | line | blank | start | startNamespace | bail => exact events_record ..

theorem events_close (s : Session) (tried : Bool) (g : Guard) :
    (s.close tried g).events = s.events ++ [.closed] := by
  rw [close]
  cases g.release s.writer with
  | ok w => exact events_record ..
  | error e => exact (events_leaveIf _ _ _).trans (events_record ..)

theorem events_drop (s : Session) (g : Guard) :
    (s.drop g).events = s.events ++ [.dropped] := by
  rw [drop]
  cases g.release s.writer with
  | ok w => exact events_record ..
  | error e => exact events_record ..

end Session

mutual

/-- The operations that a step carries out from a session, in order. -/
def Step.performed (strict : Bool) (s : Session) : Step → List Event
  | .act a _ => [.acted a]
  | .guarded o _ body closes _ =>
    let s := s.record (o.apply s.writer) (.opened o)
    .opened o :: (Step.performedAll strict s body ++
      [if closes && (Step.runAll strict s body).left.isNone then .closed else .dropped])

/-- The operations that steps carry out, up to the step that leaves the script. -/
def Step.performedAll (strict : Bool) (s : Session) : List Step → List Event
  | [] => []
  | step :: steps =>
    step.performed strict s ++
      if (step.run strict s).left.isSome then []
      else Step.performedAll strict (step.run strict s) steps

end

mutual

/-- A step adds to the record just what it carries out. -/
theorem Step.events_run (strict : Bool) : ∀ (step : Step) (s : Session),
    (step.run strict s).events = s.events ++ step.performed strict s
  | .act a tried, s => by
      rw [run, performed]
      exact s.events_act _ a
  | .guarded o trailing body closes tried, s => by
      have hbody := events_runAll strict body (s.record (o.apply s.writer) (.opened o))
      rw [Session.events_record] at hbody
      rw [run_guarded, performed]
      dsimp only
      split
      · rw [Session.events_close, hbody, List.append_assoc, List.append_assoc]
        rfl
      · rw [Session.events_drop, hbody, List.append_assoc, List.append_assoc]
        rfl

/-- **The record of a run lists every operation that was run**, in order, and no other. -/
theorem Step.events_runAll (strict : Bool) : ∀ (steps : List Step) (s : Session),
    (runAll strict s steps).events = s.events ++ performedAll strict s steps
  | [], s => by rw [runAll, performedAll, List.append_nil]
  | step :: steps, s => by
      have hstep := events_run strict step s
      rw [runAll, performedAll]
      split
      · rw [hstep, List.append_nil]
      · rw [events_runAll strict steps, hstep, List.append_assoc]

end

/-- What a step adds to the record stays there. -/
theorem Step.exists_events_cons (strict : Bool) (s : Session) (step : Step) (steps : List Step) :
    ∃ more, (runAll strict s (step :: steps)).events = (step.run strict s).events ++ more := by
  rw [runAll]
  split
  · exact ⟨[], (List.append_nil _).symm⟩
  · exact ⟨_, events_runAll strict steps _⟩

/-- **At each moment of a run the record lists the operations up to there.** -/
theorem Passes.exists_events {steps : List Step} (h : Passes strict s steps s') :
    ∃ more, (Step.runAll strict s steps).events = s'.events ++ more := by
  induction h with
  | here s steps => exact ⟨_, Step.events_runAll strict steps s⟩
  | @inside s s' o trailing body steps closes tried _ ih =>
      obtain ⟨inner, hinner⟩ := ih
      obtain ⟨more, hmore⟩ :=
        Step.exists_events_cons strict s (.guarded o trailing body closes tried) steps
      rw [hmore, Step.run_guarded]
      dsimp only
      split
      · exact ⟨inner ++ [.closed] ++ more, by simp [Session.events_close, hinner]⟩
      · exact ⟨inner ++ [.dropped] ++ more, by simp [Session.events_drop, hinner]⟩
  | after s step steps => exact Step.exists_events_cons strict s step steps
  | next hleft _ ih =>
      rw [Step.runAll_cons hleft]
      exact ih

/-! ## Blocks by the record -/

/-- What a record of operations tells about blocks. -/
structure Ledger where
  /-- The labels of the open blocks, the innermost first. -/
  blocks : List String := []
  /-- The depths of the guards that have not been released, the innermost first. -/
  guards : List Nat := []
deriving DecidableEq, Repr

/-- The label of a guarded block: the last line of its declaration, if it has one. -/
def Opening.label (d : Dialect) : Opening → String
  | .scoped none => Writer.unlabelled
  | .scoped (some s) | .typed s => if s.isEmpty then Writer.unlabelled else s
  | .member m => (m.declaration d).header

namespace Ledger

/-- Pushes a label. -/
def push (l : Ledger) (label : String) : Ledger :=
  { l with blocks := label :: l.blocks }

/-- Pops the innermost block, if there is one. -/
def pop (l : Ledger) : Ledger :=
  { l with blocks := l.blocks.tail }

/-- Follows the lines of a template, up to one that closes a block where none is open. -/
def template (l : Ledger) : List TemplateLine → Ledger
  | [] => l
  | .opening header :: ls => (l.push header).template ls
  | .closing _ :: ls => if l.blocks.isEmpty then l else l.pop.template ls
  | .blank :: ls | .text _ :: ls => l.template ls

/-- Releases the innermost guard. It pops a block if as many are open as there were with its own. -/
def release (l : Ledger) : Ledger :=
  match l.guards with
  | [] => l
  | depth :: guards =>
    let l := { l with guards }
    if l.blocks.length < depth then l else l.pop

/-- Follows one operation. -/
def note (d : Dialect) (l : Ledger) : Event → Ledger
  | .acted (.write text) => l.template (templateLines text)
  | .acted .start => l.push Writer.unlabelled
  | .acted (.startNamespace name) => l.push (d.namespaceHeader name)
  | .acted (.finish _) => l.pop
  | .acted (.line _) | .acted .blank | .acted .render | .acted .bail => l
  | .opened o =>
    let l := l.push (o.label d)
    { l with guards := l.blocks.length :: l.guards }
  | .closed | .dropped => l.release

end Ledger

/-- What the record of a script tells about its blocks. -/
def Session.ledger (d : Dialect) (s : Session) : Ledger :=
  s.events.foldl (Ledger.note d) {}

/-- One more operation on record is followed by the ledger. -/
theorem Session.ledger_of_events {e : Event} (h : s'.events = s.events ++ [e]) :
    s'.ledger d = (s.ledger d).note d e := by
  rw [ledger, h, List.foldl_append]
  rfl

/-! ## Blocks of the writer -/

namespace Writer

/-- Closing fails exactly if no block is open. -/
theorem finish_eq_error_iff {trailing : String} {e : EmitError} :
    w.finish trailing = .error e ↔ w.openBlocks = [] ∧ e = .closeWithoutOpen := by
  rw [finish]
  split
  · rename_i hnil
    simp [hnil, eq_comm]
  · rename_i hblocks
    simp [hblocks]

theorem openBlocks_of_finish {trailing : String} (h : w.finish trailing = .ok w') :
    w'.openBlocks = w.openBlocks.tail := by
  obtain ⟨label, outer, hblocks, rfl⟩ := finish_eq_ok h
  rw [hblocks]
  rfl

theorem dialect_of_finish {trailing : String} (h : w.finish trailing = .ok w') :
    w'.dialect = w.dialect := by
  obtain ⟨label, outer, -, rfl⟩ := finish_eq_ok h
  rfl

/-- Template lines do to the writer's blocks what they do to a ledger. -/
theorem openBlocks_templateLines (ls : List TemplateLine) (w : Writer) (depths : List Nat) :
    (⟨w.openBlocks, depths⟩ : Ledger).template ls = ⟨(w.templateLines ls).1.openBlocks, depths⟩ ∧
      (w.templateLines ls).1.dialect = w.dialect := by
  induction ls generalizing w with
  | nil => exact ⟨rfl, rfl⟩
  | cons l ls ih =>
      cases l with
      | blank => exact ih w.blank
      | text text => exact ih (w.line text)
      | opening header =>
          have hrest := ih (w.openUnder header)
          rw [openBlocks_openUnder, dialect_openUnder] at hrest
          exact hrest
      | closing trailing =>
          rw [templateLines, templateLine]
          cases hfinish : w.finish trailing with
          | ok w' =>
              obtain ⟨label, outer, hblocks, -⟩ := finish_eq_ok hfinish
              have hrest := ih w'
              rw [openBlocks_of_finish hfinish, dialect_of_finish hfinish] at hrest
              refine ⟨?_, hrest.2⟩
              rw [← hrest.1, Ledger.template, hblocks]
              rfl
          | error e =>
              refine ⟨?_, rfl⟩
              rw [Ledger.template, (finish_eq_error_iff.1 hfinish).1]
              rfl

/-- Lines of text neither open a block nor close one. -/
theorem openBlocks_foldl_line (lines : List String) (w : Writer) :
    (lines.foldl line w).openBlocks = w.openBlocks ∧ (lines.foldl line w).dialect = w.dialect := by
  induction lines generalizing w with
  | nil => exact ⟨rfl, rfl⟩
  | cons s lines ih => exact ih (w.line s)

end Writer

/-- Opening a guarded block pushes its label. -/
theorem Opening.openBlocks_apply (o : Opening) (w : Writer) :
    (o.apply w).openBlocks = o.label w.dialect :: w.openBlocks ∧
      (o.apply w).dialect = w.dialect := by
  have hstart : w.start.openBlocks = Writer.unlabelled :: w.openBlocks ∧
      w.start.dialect = w.dialect :=
    ⟨w.openBlocks_openBlock _, w.dialect_openBlock _⟩
  have hdeclared (s : String) : ((if s.isEmpty then w.start else w.openUnder s).openBlocks =
      (if s.isEmpty then Writer.unlabelled else s) :: w.openBlocks) ∧
      (if s.isEmpty then w.start else w.openUnder s).dialect = w.dialect := by
    split
    · exact hstart
    · exact ⟨w.openBlocks_openUnder s, w.dialect_openUnder s⟩
  match o with
  | .scoped none => exact hstart
  | .scoped (some s) | .typed s => exact hdeclared s
  | .member m =>
      obtain ⟨hblocks, hdialect⟩ :=
        Writer.openBlocks_foldl_line (m.declaration w.dialect).attributes w
      rw [apply, Writer.openBlocks_openUnder, Writer.dialect_openUnder, hblocks, hdialect]
      exact ⟨rfl, rfl⟩

/-- The writer after a guard has been released, whether or not that has failed. -/
def Guard.after (g : Guard) (w : Writer) : Writer :=
  match g.release w with
  | .ok w => w
  | .error _ => w

theorem Session.writer_close (s : Session) (tried : Bool) (g : Guard) :
    (s.close tried g).writer = g.after s.writer := by
  rw [close, Guard.after]
  cases g.release s.writer with
  | ok w => rfl
  | error e => exact writer_leaveIf _ _ _

theorem Session.writer_drop (s : Session) (g : Guard) :
    (s.drop g).writer = g.after s.writer := by
  rw [drop, Guard.after]
  cases g.release s.writer with
  | ok w => rfl
  | error e => rfl

/-- Releasing a guard pops a block if enough of them are open. -/
theorem Guard.openBlocks_after (g : Guard) (w : Writer) :
    (g.after w).openBlocks = (if w.level < g.depth then w.openBlocks else w.openBlocks.tail) ∧
      (g.after w).dialect = w.dialect := by
  rw [after, release]
  by_cases hdepth : w.level < g.depth
  · rw [if_pos hdepth, if_pos hdepth]
    exact ⟨rfl, rfl⟩
  · rw [if_neg hdepth, if_neg hdepth]
    cases hfinish : w.finish g.trailing with
    | ok w' => exact ⟨Writer.openBlocks_of_finish hfinish, Writer.dialect_of_finish hfinish⟩
    | error e =>
        rw [(Writer.finish_eq_error_iff.1 hfinish).1]
        exact ⟨rfl, rfl⟩

/-! ## The writer follows the record -/

/-- Whether the writer's blocks are those that the record tells, and its guards have these
depths. -/
structure Follows (d : Dialect) (s : Session) (depths : List Nat) : Prop where
  /-- The syntax is that of the labels. -/
  dialect : s.writer.dialect = d
  /-- The record tells the open blocks. -/
  ledger : s.ledger d = ⟨s.writer.openBlocks, depths⟩

namespace Follows

theorem start (d : Dialect) : Follows d { writer := { dialect := d } } [] :=
  ⟨rfl, rfl⟩

/-- **Operations keep the blocks in step with the record**, whether or not they fail. -/
theorem act (h : Follows d s depths) (tried : Bool) (a : Action) :
    Follows d (s.act tried a) depths := by
  have hafter : (a.after s.writer).dialect = d ∧
      (⟨s.writer.openBlocks, depths⟩ : Ledger).note d (.acted a) =
        ⟨(a.after s.writer).openBlocks, depths⟩ := by
    cases a with
    | write text =>
        obtain ⟨hblocks, hdialect⟩ :=
          Writer.openBlocks_templateLines (templateLines text) s.writer depths
        exact ⟨hdialect.trans h.dialect, hblocks⟩
    | start =>
        rw [Action.after, Writer.start, Writer.openBlocks_openBlock, Writer.dialect_openBlock]
        exact ⟨h.dialect, rfl⟩
    | startNamespace name =>
        rw [Action.after, Writer.startNamespace, Writer.openBlocks_openUnder,
          Writer.dialect_openUnder, h.dialect]
        exact ⟨rfl, rfl⟩
    | finish trailing =>
        rw [Action.after, Ledger.note]
        cases hfinish : s.writer.finish trailing with
        | ok w =>
            dsimp only
            rw [Writer.openBlocks_of_finish hfinish, Writer.dialect_of_finish hfinish]
            exact ⟨h.dialect, rfl⟩
        | error e =>
            refine ⟨h.dialect, ?_⟩
            rw [(Writer.finish_eq_error_iff.1 hfinish).1]
            rfl
    | line | blank | render | bail => exact ⟨h.dialect, rfl⟩
  refine ⟨by rw [Session.writer_act]; exact hafter.1, ?_⟩
  rw [Session.ledger_of_events (s.events_act tried a), h.ledger, Session.writer_act]
  exact hafter.2

/-- Opening a guarded block puts its guard on top. -/
theorem opened (h : Follows d s depths) (o : Opening) :
    Follows d (s.record (o.apply s.writer) (.opened o))
      ((o.apply s.writer).level :: depths) := by
  obtain ⟨hblocks, hdialect⟩ := o.openBlocks_apply s.writer
  refine ⟨hdialect.trans h.dialect, ?_⟩
  rw [Session.ledger_of_events (s.events_record ..), h.ledger, Session.record, Writer.level,
    hblocks, h.dialect]
  rfl

/-- Releasing the guard on top takes it off. -/
theorem released (h : Follows d s (g.depth :: depths)) (tried : Bool) :
    Follows d (s.close tried g) depths ∧ Follows d (s.drop g) depths := by
  obtain ⟨hblocks, hdialect⟩ := g.openBlocks_after s.writer
  have hledger : (s.ledger d).release = ⟨(g.after s.writer).openBlocks, depths⟩ := by
    rw [h.ledger, hblocks]
    show (if s.writer.level < g.depth then _ else _) = _
    split <;> rfl
  refine ⟨⟨?_, ?_⟩, ⟨?_, ?_⟩⟩
  · rw [Session.writer_close, hdialect, h.dialect]
  · rw [Session.ledger_of_events (s.events_close tried g), Ledger.note, hledger,
      Session.writer_close]
  · rw [Session.writer_drop, hdialect, h.dialect]
  · rw [Session.ledger_of_events (s.events_drop g), Ledger.note, hledger, Session.writer_drop]

mutual

/-- A step keeps the blocks in step with the record, and it releases the guards it opens. -/
theorem run (strict : Bool) : ∀ (step : Step) {s : Session} {depths : List Nat},
    Follows d s depths → Follows d (step.run strict s) depths
  | .act a tried, s, depths, h => by
      rw [Step.run]
      exact h.act _ a
  | .guarded o trailing body closes tried, s, depths, h => by
      have hbody := runAll strict body (h.opened o)
      have hreleased := hbody.released (g := ⟨(o.apply s.writer).level, trailing⟩)
        (strict || tried)
      rw [Step.run_guarded]
      dsimp only
      split
      · exact hreleased.1
      · exact hreleased.2

/-- **A run keeps the blocks in step with the record.** -/
theorem runAll (strict : Bool) : ∀ (steps : List Step) {s : Session} {depths : List Nat},
    Follows d s depths → Follows d (Step.runAll strict s steps) depths
  | [], s, depths, h => by rwa [Step.runAll]
  | step :: steps, s, depths, h => by
      have hstep := run strict step h
      rw [Step.runAll]
      split
      · exact hstep
      · exact runAll strict steps hstep

end

/-- At each moment of a run the blocks are in step with the record, with the guards that are open
there. -/
theorem of_passes {steps : List Step} (hpass : Passes strict s steps s')
    (h : Follows d s depths) : ∃ depths', Follows d s' depths' := by
  induction hpass generalizing depths with
  | here => exact ⟨depths, h⟩
  | inside _ ih => exact ih (h.opened _)
  | after s step steps => exact ⟨depths, run strict step h⟩
  | next _ _ ih => exact ih (run strict _ h)

end Follows

/-! ## Runs that differ in their records only -/

namespace Session

/-- Whether two sessions differ in their records only. -/
structure Alike (s t : Session) : Prop where
  /-- They have the same writer. -/
  writer : s.writer = t.writer
  /-- They have been left for the same reason, or not at all. -/
  left : s.left = t.left

namespace Alike

theorem record (h : Alike s t) (w : Writer) (e e' : Event) (error error' : Option EmitError)
    (text text' : Option String) : Alike (s.record w e error text) (t.record w e' error' text') :=
  ⟨rfl, h.left⟩

theorem leaveIf (h : Alike s t) (tried : Bool) (error : Option EmitError) :
    Alike (s.leaveIf tried error) (t.leaveIf tried error) := by
  cases tried with
  | true => exact ⟨h.writer, rfl⟩
  | false => exact h

theorem act (h : Alike s t) (tried : Bool) (a : Action) :
    Alike (s.act tried a) (t.act tried a) := by
  cases a with
  | write text =>
      rw [Session.act, Session.act, h.writer]
      exact (h.record ..).leaveIf _ _
  | finish trailing =>
      rw [Session.act, Session.act, h.writer]
      cases t.writer.finish trailing with
      | ok w => exact h.record ..
      | error e => exact (h.record ..).leaveIf _ _
  | render =>
      rw [Session.act, Session.act, h.writer]
      cases t.writer.rendered with
      | ok text => exact h.record ..
      | error e => exact (h.record ..).leaveIf _ _
  | bail => exact ⟨h.writer, rfl⟩
  | line | blank | start | startNamespace =>
      rw [Session.act, Session.act, h.writer]
      exact h.record ..

theorem close (h : Alike s t) (tried : Bool) (g : Guard) :
    Alike (s.close tried g) (t.close tried g) := by
  rw [Session.close, Session.close, h.writer]
  cases g.release t.writer with
  | ok w => exact h.record ..
  | error e => exact (h.record ..).leaveIf _ _

theorem drop (h : Alike s t) (g : Guard) : Alike (s.drop g) (t.drop g) := by
  rw [Session.drop, Session.drop, h.writer]
  cases g.release t.writer with
  | ok w => exact h.record ..
  | error e => exact ⟨rfl, h.left⟩

mutual

theorem run (strict : Bool) : ∀ (step : Step) {s t : Session}, Alike s t →
    Alike (step.run strict s) (step.run strict t)
  | .act a tried, s, t, h => by
      rw [Step.run, Step.run]
      exact h.act _ a
  | .guarded o trailing body closes tried, s, t, h => by
      rw [Step.run_guarded, Step.run_guarded, h.writer]
      have hbody := runAll strict body
        (h.record (o.apply t.writer) (.opened o) (.opened o) none none none none)
      dsimp only
      rw [hbody.left]
      split
      · exact hbody.close _ _
      · exact hbody.drop _

/-- **A run depends on the writer alone**, and not on the record. -/
theorem runAll (strict : Bool) : ∀ (steps : List Step) {s t : Session}, Alike s t →
    Alike (Step.runAll strict s steps) (Step.runAll strict t steps)
  | [], s, t, h => by rwa [Step.runAll, Step.runAll]
  | step :: steps, s, t, h => by
      have hstep := run strict step h
      rw [Step.runAll, Step.runAll, hstep.left]
      split
      · exact hstep
      · exact runAll strict steps hstep

end

end Alike

end Session

/-! ## Closings that fail -/

/-- Where a line of a template closes a block and none is open, the lines before it are all that is
written. -/
theorem Writer.templateLines_closing {ls more : List TemplateLine} {trailing : String}
    (hbefore : w.templateLines ls = (w', none)) (hnil : w'.openBlocks = []) :
    w.templateLines (ls ++ .closing trailing :: more) = (w', some .closeWithoutOpen) := by
  induction ls generalizing w with
  | nil =>
      obtain rfl : w = w' := (Prod.mk.inj hbefore).1
      rw [List.nil_append, templateLines, templateLine, finish_eq_error_iff.2 ⟨hnil, rfl⟩]
  | cons l ls ih =>
      rw [templateLines] at hbefore
      rw [List.cons_append, templateLines]
      split at hbefore
      · exact ih hbefore
      · exact absurd (Prod.mk.inj hbefore).2 (by simp)

/-- What closes a block and finds nothing to close: the session at that time, and the one
afterwards. A failure that is `tried` leaves the script. -/
inductive ClosesNothing (tried : Bool) : Session → Session → Prop where
  /-- No block is open. -/
  | finish (s : Session) (trailing : String) (nothing : s.writer.openBlocks = []) :
    ClosesNothing tried s (s.act tried (.finish trailing))
  /-- No block is open at a line of a template that closes one. -/
  | ending {w : Writer} {ls more : List TemplateLine} {trailing : String} (s : Session)
    (text : String) (lines : templateLines text = ls ++ .closing trailing :: more)
    (before : s.writer.templateLines ls = (w, none)) (nothing : w.openBlocks = []) :
    ClosesNothing tried { s with writer := w } (s.act tried (.write text))
  /-- The block of a guard has been closed already. -/
  | closed (s : Session) (g : Guard) (late : s.writer.level < g.depth ∨ s.writer.openBlocks = []) :
    ClosesNothing tried s (s.close tried g)
  /-- The block of a guard that goes out of scope has been closed already. -/
  | dropped (s : Session) (g : Guard) (late : s.writer.level < g.depth ∨ s.writer.openBlocks = []) :
    ClosesNothing tried s (s.drop g)

namespace ClosesNothing

/-- A guard whose block has been closed cannot be released. -/
theorem release_eq_error (h : w.level < g.depth ∨ w.openBlocks = []) :
    g.release w = .error .closeWithoutOpen := by
  rw [Guard.release]
  obtain hlate | hnil := h
  · rw [if_pos hlate]
  · rw [Writer.finish_eq_error_iff.2 ⟨hnil, rfl⟩, ite_self]

/-- A failure keeps the writer, and it leaves the script only where it is tried. -/
theorem leaveIf_eq (s : Session) (tried : Bool) (error : Option EmitError) :
    (s.leaveIf tried error).writer = s.writer ∧
      (tried = false → (s.leaveIf tried error).left = s.left) := by
  refine ⟨Session.writer_leaveIf _ _ _, ?_⟩
  rintro rfl
  rfl

/-- **A closing that fails leaves no trace** but the record of it. -/
theorem writer_eq {tried : Bool} (h : ClosesNothing tried s s') :
    s'.writer = s.writer ∧ (tried = false → s'.left = s.left) := by
  cases h with
  | finish _ trailing hnil =>
      rw [Session.act, Writer.finish_eq_error_iff.2 ⟨hnil, rfl⟩]
      exact leaveIf_eq _ _ _
  | ending _ text hlines hbefore hnil =>
      rw [Session.act, Writer.write, hlines, Writer.templateLines_closing hbefore hnil]
      exact leaveIf_eq _ _ _
  | closed _ g hlate =>
      rw [Session.close, release_eq_error hlate]
      exact leaveIf_eq _ _ _
  | dropped _ g hlate =>
      rw [Session.drop, release_eq_error hlate]
      exact ⟨rfl, fun _ => rfl⟩

end ClosesNothing

/-! ## The open blocks at each moment -/

/-- **The open blocks are those that the record tells.** At each moment of a run, in both dialects,
the labels of the open blocks are those that have been pushed and not popped, and the text can be
read exactly if there are none; otherwise the error lists them, the outermost first. What a script
builds is judged in the same way at its end. A closing that finds nothing to close changes neither
the text nor the blocks, and whatever follows it goes as it would have gone without it. -/
theorem openBlocks_follow (strict : Bool) (d : Dialect) (steps : List Step) :
    (∀ s, Passes strict { writer := { dialect := d } } steps s →
      s.writer.openBlocks = (s.ledger d).blocks ∧
      s.writer.rendered =
        if (s.ledger d).blocks = [] then .ok s.writer.text
        else .error (.unclosedBlocks (s.ledger d).blocks.reverse)) ∧
    (∀ s, s = runScript true d steps → s.left = none → (build d steps).1 =
      if (s.ledger d).blocks = [] then .ok s.writer.text
      else .error (.unclosedBlocks (s.ledger d).blocks.reverse)) ∧
    ∀ tried s s', ClosesNothing tried s s' →
      s'.writer = s.writer ∧ (tried = false → ∀ later,
        (Step.runAll strict s' later).writer = (Step.runAll strict s later).writer) := by
  have hmoment : ∀ strict s, Passes strict { writer := { dialect := d } } steps s →
      s.writer.openBlocks = (s.ledger d).blocks ∧
      s.writer.rendered =
        if (s.ledger d).blocks = [] then .ok s.writer.text
        else .error (.unclosedBlocks (s.ledger d).blocks.reverse) := by
    intro strict s hpass
    obtain ⟨depths, hfollows⟩ := Follows.of_passes hpass (Follows.start d)
    rw [Writer.rendered, hfollows.ledger]
    simp only [List.isEmpty_iff, and_self]
  refine ⟨hmoment strict, ?_, fun tried s s' hnothing => ?_⟩
  · rintro s rfl hleft
    rw [build]
    simp only [hleft]
    exact (hmoment true _ (passes_runAll true _ steps)).2
  · obtain ⟨hwriter, hleft⟩ := hnothing.writer_eq
    exact ⟨hwriter, fun htried later =>
      (Session.Alike.runAll strict later ⟨hwriter, hleft htried⟩).writer⟩

/-- A template closes the block of a guard, which is then dropped too late to close another one. -/
def lateScript : List Step :=
  [.act .start false, .guarded (.scoped (some "scope")) "" [.act (.write "END") false] false false]

/-- The outer block is still open, and the guard that is dropped has left no trace in the text. -/
theorem openBlocks_follow_late : ∃ s g,
    runScript false .rust lateScript = s.drop g ∧ s.writer.openBlocks = ["<block>"] ∧
    (s.drop g).writer.rendered = .error (.unclosedBlocks ["<block>"]) ∧
    (Step.runAll false (s.drop g) [.act (.finish "") false]).writer =
      (Step.runAll false s [.act (.finish "") false]).writer := by
  obtain ⟨hmoment, -, hnothing⟩ := openBlocks_follow false .rust lateScript
  obtain ⟨hblocks, hrendered⟩ := hmoment _ (passes_runAll false _ lateScript)
  let opened := Step.runAll false { writer := {} } [.act .start false]
  let body := Step.runAll false
    (opened.record ((Opening.scoped (some "scope")).apply opened.writer)
      (.opened (.scoped (some "scope")))) [.act (.write "END") false]
  have hrun : runScript false .rust lateScript = body.drop ⟨2, ""⟩ := by
    decide +kernel
  have hlate : ClosesNothing false body (body.drop ⟨2, ""⟩) :=
    .dropped _ _ (.inl (by decide +kernel))
  obtain ⟨hwriter, hlater⟩ := hnothing _ _ _ hlate
  have hledger : ((runScript false .rust lateScript).ledger .rust).blocks = ["<block>"] := by
    decide +kernel
  refine ⟨body, ⟨2, ""⟩, hrun, ?_, ?_, hlater rfl _⟩
  · rw [← hwriter, ← hrun]
    exact hblocks.trans hledger
  · rw [← hrun]
    refine hrendered.trans ?_
    rw [show (Step.runAll false { writer := { dialect := .rust } } lateScript) =
      runScript false .rust lateScript from rfl, hledger]
    rfl

end UnitFoundry.Emit
