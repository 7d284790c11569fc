import UnitFoundry.Emit.Guard

/-! # Scripts

A script is a sequence of writer operations with nested guards. It runs to its end or bails out:
then every enclosing guard is dropped and nothing else runs. A run keeps a record of each
operation, and a warning for each guard that was dropped after its block had been closed. -/

namespace UnitFoundry.Emit

/-- An operation of a writer without a body. -/
inductive Action where
  /-- Writes a template. -/
  | write (template : String)
  /-- Writes a line. -/
  | line (s : String)
  /-- Writes an empty line. -/
  | blank
  /-- Opens a block without a header. -/
  | start
  /-- Closes the innermost block. -/
  | finish (trailing : String)
  /-- Opens the block of a namespace. -/
  | startNamespace (name : String)
  /-- Reads the text. -/
  | render
  /-- Leaves the script. -/
  | bail
deriving DecidableEq, Repr

/-- A step of a script. -/
inductive Step where
  /-- An operation; if it is `tried`, its failure leaves the script. -/
  | act (a : Action) (tried : Bool)
  /-- A guarded block. The guard is closed by hand after the body, or dropped. -/
  | guarded (o : Opening) (trailing : String) (body : List Step) (closes tried : Bool)

instance : Inhabited Step := ⟨.act .blank false⟩

/-- What a record is about. -/
inductive Event where
  /-- An operation. -/
  | acted (a : Action)
  /-- The opening of a guarded block. -/
  | opened (o : Opening)
  /-- The release of a guard by hand. -/
  | closed
  /-- The release of a guard that goes out of scope. -/
  | dropped
deriving DecidableEq, Repr

/-- The record of an operation. -/
structure Entry where
  /-- What was done. -/
  event : Event
  /-- The number of open blocks afterwards. -/
  level : Nat
  /-- Why it failed, if it did. -/
  error : Option EmitError := none
  /-- The text that was read, if it was. -/
  text : Option String := none
deriving DecidableEq, Repr

/-- A guard that was dropped after its block had been closed. -/
structure LateRelease where
  /-- The depth of the guard. -/
  depth : Nat
  /-- Why nothing was closed. -/
  error : EmitError
deriving DecidableEq, Repr

/-- What the warning says to a reader. -/
def LateRelease.message (r : LateRelease) : String :=
  "Scoped block at depth " ++ toString r.depth ++ " was already closed: " ++ r.error.message

/-- A script under way. -/
structure Session where
  /-- The writer. -/
  writer : Writer
  /-- The records so far. -/
  entries : List Entry := []
  /-- The warnings so far. -/
  warnings : List LateRelease := []
  /-- Why the script was left, once it has been. -/
  left : Option EmitError := none
deriving DecidableEq, Repr

namespace Session

/-- Adds the record of an operation that led to the writer `w`. -/
def record (s : Session) (w : Writer) (event : Event) (error : Option EmitError := none)
    (text : Option String := none) : Session :=
  { s with writer := w, entries := s.entries ++ [⟨event, w.level, error, text⟩] }

/-- Leaves the script if an operation failed that was tried. -/
def leaveIf (s : Session) (tried : Bool) (error : Option EmitError) : Session :=
  if tried then { s with left := error } else s

/-- Carries out an operation. -/
def act (s : Session) (tried : Bool) (a : Action) : Session :=
  let w := s.writer
  match a with
  | .write template =>
    let (w, error) := w.write template
    (s.record w (.acted a) error).leaveIf tried error
  | .line text => s.record (w.line text) (.acted a)
  | .blank => s.record w.blank (.acted a)
  | .start => s.record w.start (.acted a)
  | .finish trailing =>
    match w.finish trailing with
    | .ok w => s.record w (.acted a)
    | .error e => (s.record w (.acted a) (some e)).leaveIf tried (some e)
  | .startNamespace name => s.record (w.startNamespace name) (.acted a)
  | .render =>
    match w.rendered with
    | .ok text => s.record w (.acted a) none (some text)
    | .error e => (s.record w (.acted a) (some e)).leaveIf tried (some e)
  | .bail => { s.record w (.acted a) with left := some .closeWithoutOpen }

/-- Releases a guard that goes out of scope. -/
def drop (s : Session) (g : Guard) : Session :=
  match g.release s.writer with
  | .ok w => s.record w .dropped
  | .error e =>
    let s := s.record s.writer .dropped
    { s with warnings := s.warnings ++ [⟨g.depth, e⟩] }

/-- Releases a guard by hand. -/
def close (s : Session) (tried : Bool) (g : Guard) : Session :=
  match g.release s.writer with
  | .ok w => s.record w .closed
  | .error e => (s.record s.writer .closed (some e)).leaveIf tried (some e)

end Session

mutual

/-- Runs a step. With `strict` every step counts as tried. -/
def Step.run (strict : Bool) (s : Session) : Step → Session
  | .act a tried => s.act (strict || tried) a
  | .guarded o trailing body closes tried =>
    let (w, g) := s.writer.guarded o trailing
    let s := Step.runAll strict (s.record w (.opened o)) body
    -- a script that has been left drops its guards, even those that it would close
    if closes && s.left.isNone then s.close (strict || tried) g else s.drop g

/-- Runs steps up to the one that leaves the script. -/
def Step.runAll (strict : Bool) (s : Session) : List Step → Session
  | [] => s
  | step :: steps =>
    let s := step.run strict s
    if s.left.isSome then s else Step.runAll strict s steps

end

/-- Runs a script from an empty text. -/
def runScript (strict : Bool) (d : Dialect) (steps : List Step) : Session :=
  Step.runAll strict { writer := { dialect := d } } steps

/-- The text that a script builds when every failure leaves it, with the warnings of the run. -/
def build (d : Dialect) (steps : List Step) : Except EmitError String × List LateRelease :=
  let s := runScript true d steps
  match s.left with
  | some e => (.error e, s.warnings)
  | none => (s.writer.rendered, s.warnings)

end UnitFoundry.Emit
