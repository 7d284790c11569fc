import UnitFoundry.Emit.Script

/-! # Runs of scripts

A script runs step by step until one of its steps leaves it. Its moments are the sessions that a
run passes through: before and after each step, and in the same way within the body of a guarded
block. What every operation of a writer keeps holds at each moment.

* **`Emit.Step.runAll_append`**: running one script after another.
* **`Emit.Passes`**: the moments of a run.
* **`Emit.Kept.of_passes`**: what every operation keeps holds at each moment. -/

namespace UnitFoundry.Emit

variable {strict : Bool} {s s' : Session} {w : Writer} {step : Step} {steps xs ys : List Step}

/-! ## Operations -/

@[simp] theorem Session.writer_leaveIf (s : Session) (tried : Bool) (error : Option EmitError) :
    (s.leaveIf tried error).writer = s.writer := by
  cases tried <;> rfl

theorem Session.close_of_release {g : Guard} (h : g.release s.writer = .ok w) (tried : Bool) :
    s.close tried g = s.record w .closed := by
  rw [Session.close, h]

theorem Session.drop_of_release {g : Guard} (h : g.release s.writer = .ok w) :
    s.drop g = s.record w .dropped := by
  rw [Session.drop, h]

/-- The innermost block can be closed if there is one. -/
theorem Writer.finish_eq_ok {w' : Writer} {trailing : String} (h : w.finish trailing = .ok w') :
    ∃ label outer, w.openBlocks = label :: outer ∧ w' =
      (({ w with openBlocks := outer }).line (w.dialect.closeDelimiter ++ trailing)).blank := by
  rw [Writer.finish] at h
  split at h
  · exact absurd h (by simp)
  · rename_i label outer hblocks
    exact ⟨label, outer, hblocks, (Except.ok.inj h).symm⟩

/-! ## Running -/

namespace Step

/-- A guarded block runs its body between the opening and the release of its guard. -/
theorem run_guarded (strict : Bool) (s : Session) (o : Opening) (trailing : String)
    (body : List Step) (closes tried : Bool) :
    (guarded o trailing body closes tried).run strict s =
      let g : Guard := ⟨(o.apply s.writer).level, trailing⟩
      let s' := runAll strict (s.record (o.apply s.writer) (.opened o)) body
      if closes && s'.left.isNone then s'.close (strict || tried) g else s'.drop g := by
  rw [run]
  rfl

/-- A step that does not leave the script hands over to the next one. -/
theorem runAll_cons (h : (step.run strict s).left = none) :
    runAll strict s (step :: steps) = runAll strict (step.run strict s) steps := by
  rw [runAll]
  simp only [h, Option.isSome_none, Bool.false_eq_true, if_false]

/-- **A script that is not left hands over to the next one.** -/
theorem runAll_append (h : (runAll strict s xs).left = none) :
    runAll strict s (xs ++ ys) = runAll strict (runAll strict s xs) ys := by
  induction xs generalizing s with
  | nil => rw [List.nil_append, runAll]
  | cons step xs ih =>
      cases hstep : (step.run strict s).left with
      | none =>
          rw [runAll_cons hstep] at h
          rw [List.cons_append, runAll_cons hstep, runAll_cons hstep, ih h]
      | some e =>
          rw [runAll] at h
          simp [hstep] at h

end Step

/-! ## Moments -/

/-- The moments of a run: the sessions that it passes through. -/
inductive Passes (strict : Bool) : Session → List Step → Session → Prop where
  /-- Before the first step. -/
  | here (s : Session) (steps : List Step) : Passes strict s steps s
  /-- In the body of a guarded block, once it has been opened. -/
  | inside {s s' : Session} {o : Opening} {trailing : String} {body steps : List Step}
    {closes tried : Bool} : Passes strict (s.record (o.apply s.writer) (.opened o)) body s' →
    Passes strict s (.guarded o trailing body closes tried :: steps) s'
  /-- After the first step, even if it has left the script. -/
  | after (s : Session) (step : Step) (steps : List Step) :
    Passes strict s (step :: steps) (step.run strict s)
  /-- Later, if the first step has not left the script. -/
  | next {s s' : Session} {step : Step} {steps : List Step} : (step.run strict s).left = none →
    Passes strict (step.run strict s) steps s' → Passes strict s (step :: steps) s'

/-- The end of a run is one of its moments. -/
theorem passes_runAll (strict : Bool) (s : Session) (steps : List Step) :
    Passes strict s steps (Step.runAll strict s steps) := by
  induction steps generalizing s with
  | nil =>
      rw [Step.runAll]
      exact .here s []
  | cons step steps ih =>
      cases hstep : (step.run strict s).left with
      | none =>
          rw [Step.runAll_cons hstep]
          exact .next hstep (ih _)
      | some e =>
          rw [Step.runAll]
          simp only [hstep, Option.isSome_some, if_true]
          exact .after s step steps

/-! ## What every operation keeps -/

/-- What a script is made of. -/
inductive Part where
  /-- An operation. -/
  | action (a : Action)
  /-- A guarded block, with the text that trails its end. -/
  | guard (o : Opening) (trailing : String)
deriving DecidableEq, Repr

mutual

/-- The parts of a step, those of the body of a guarded block included. -/
def Step.parts : Step → List Part
  | .act a _ => [.action a]
  | .guarded o trailing body _ _ => .guard o trailing :: Step.partsAll body

/-- The parts of steps. -/
def Step.partsAll : List Step → List Part
  | [] => []
  | step :: steps => step.parts ++ Step.partsAll steps

end

/-- The writer after an operation, whether or not it has failed. -/
def Action.after (w : Writer) : Action → Writer
  | .write template => (w.write template).1
  | .line text => w.line text
  | .blank => w.blank
  | .start => w.start
  | .finish trailing =>
    match w.finish trailing with
    | .ok w => w
    | .error _ => w
  | .startNamespace name => w.startNamespace name
  | .render | .bail => w

theorem Session.writer_act (s : Session) (tried : Bool) (a : Action) :
    (s.act tried a).writer = a.after s.writer := by
  cases a with
  | write template => exact Session.writer_leaveIf _ _ _
  | finish trailing =>
      rw [Session.act, Action.after]
      cases s.writer.finish trailing with
      | ok w => rfl
      | error e => exact Session.writer_leaveIf _ _ _
  | render =>
      rw [Session.act, Action.after]
      cases s.writer.rendered with
      | ok text => rfl
      | error e => exact Session.writer_leaveIf _ _ _
  | line | blank | start | startNamespace | bail => rfl

/-- A guard that is released closes the innermost block, or does nothing. -/
theorem Guard.release_cases (g : Guard) (w : Writer) :
    (∃ e, g.release w = .error e) ∨ ∃ w', g.release w = .ok w' ∧ w.finish g.trailing = .ok w' := by
  rw [Guard.release]
  by_cases hdepth : w.level < g.depth
  · exact .inl ⟨_, if_pos hdepth⟩
  · rw [if_neg hdepth]
    cases w.finish g.trailing with
    | error e => exact .inl ⟨e, rfl⟩
    | ok w' => exact .inr ⟨w', rfl, rfl⟩

/-- Whether something on writers is kept by every operation that a script may be made of. -/
structure Kept (I : Writer → Prop) (P : Part → Prop) : Prop where
  /-- Operations keep it. -/
  action : ∀ {w a}, P (.action a) → I w → I (a.after w)
  /-- Opening a guarded block keeps it. -/
  opening : ∀ {w o trailing}, P (.guard o trailing) → I w → I (o.apply w)
  /-- Closing the innermost block for a guard keeps it. -/
  closing : ∀ {w w' o trailing}, P (.guard o trailing) → I w → w.finish trailing = .ok w' → I w'

namespace Kept

variable {I : Writer → Prop} {P : Part → Prop}

/-- Releasing a guard keeps what closing its block keeps. -/
theorem release (hk : Kept I P) {o : Opening} {g : Guard} (hp : P (.guard o g.trailing))
    (h : I s.writer) (tried : Bool) : I (s.close tried g).writer ∧ I (s.drop g).writer := by
  rw [Session.close, Session.drop]
  obtain ⟨e, he⟩ | ⟨w', hw', hfinish⟩ := g.release_cases s.writer
  · rw [he]
    exact ⟨by rwa [Session.writer_leaveIf], h⟩
  · rw [hw']
    exact ⟨hk.closing hp h hfinish, hk.closing hp h hfinish⟩

mutual

/-- A step keeps it. -/
theorem run (hk : Kept I P) (strict : Bool) : ∀ (step : Step) (s : Session),
    (∀ p ∈ step.parts, P p) → I s.writer → I (step.run strict s).writer
  | .act a tried, s, hp, h => by
      rw [Step.run, Session.writer_act]
      exact hk.action (hp _ (by rw [Step.parts]; exact List.mem_cons_self)) h
  | .guarded o trailing body closes tried, s, hp, h => by
      rw [Step.parts] at hp
      have hguard := hp _ List.mem_cons_self
      have hbody := runAll hk strict body (s.record (o.apply s.writer) (.opened o))
        (fun p hmem => hp p (List.mem_cons_of_mem _ hmem)) (hk.opening hguard h)
      have hrelease := hk.release (g := ⟨(o.apply s.writer).level, trailing⟩) hguard hbody
        (strict || tried)
      rw [Step.run_guarded]
      dsimp only
      split
      · exact hrelease.1
      · exact hrelease.2

/-- Steps keep it. -/
theorem runAll (hk : Kept I P) (strict : Bool) : ∀ (steps : List Step) (s : Session),
    (∀ p ∈ Step.partsAll steps, P p) → I s.writer → I (Step.runAll strict s steps).writer
  | [], s, _, h => by rwa [Step.runAll]
  | step :: steps, s, hp, h => by
      rw [Step.partsAll] at hp
      have hstep := run hk strict step s (fun p hmem => hp p (List.mem_append_left _ hmem)) h
      rw [Step.runAll]
      split
      · exact hstep
      · exact runAll hk strict steps _ (fun p hmem => hp p (List.mem_append_right _ hmem)) hstep

end

/-- **What every operation keeps holds at each moment of a run.** -/
theorem of_passes (hk : Kept I P) (hpass : Passes strict s steps s')
    (hp : ∀ p ∈ Step.partsAll steps, P p) (h : I s.writer) : I s'.writer := by
  induction hpass with
  | here => exact h
  | inside _ ih =>
      rw [Step.partsAll, Step.parts] at hp
      have hguard := hp _ (List.mem_append_left _ List.mem_cons_self)
      exact ih (fun p hmem => hp p (List.mem_append_left _ (List.mem_cons_of_mem _ hmem)))
        (hk.opening hguard h)
  | after s step steps =>
      rw [Step.partsAll] at hp
      exact hk.run strict step s (fun p hmem => hp p (List.mem_append_left _ hmem)) h
  | @next s _ step _ _ _ ih =>
      rw [Step.partsAll] at hp
      exact ih (fun p hmem => hp p (List.mem_append_right _ hmem))
        (hk.run strict step s (fun p hmem => hp p (List.mem_append_left _ hmem)) h)

end Kept

end UnitFoundry.Emit
