/-! # Diagnostics

A diagnostic is what a compiler has to say about a source. Errors keep the unit from being
loaded, and so do warnings that have been escalated. -/

namespace UnitFoundry

/-- How grave a diagnostic is. -/
inductive Severity where
  /-- The source is wrong. -/
  | error
  /-- The source is doubtful. -/
  | warning
  /-- The source is commented on. -/
  | note
deriving DecidableEq, Repr

/-- What a compiler has to say about a source. -/
structure Diagnostic where
  /-- How grave it is. -/
  severity : Severity
  /-- A short name of the problem. -/
  code : String
  /-- The problem in words. -/
  message : String
  /-- Whether it is a warning that counts as an error. -/
  warningAsError : Bool := false
deriving DecidableEq, Repr

namespace Diagnostic

/-- An error. -/
def error (code message : String) : Diagnostic :=
  { severity := .error, code, message }

/-- A warning. -/
def warning (code message : String) : Diagnostic :=
  { severity := .warning, code, message }

/-- A note. -/
def note (code message : String) : Diagnostic :=
  { severity := .note, code, message }

/-- The diagnostic, counted as an error if that is asked for and it is a warning. -/
def escalated (d : Diagnostic) (escalate : Bool) : Diagnostic :=
  { d with warningAsError := escalate && d.severity = .warning }

/-- Whether the diagnostic keeps the unit from being loaded. -/
def isBlocking (d : Diagnostic) : Bool :=
  d.severity = .error || d.warningAsError

/-- The diagnostic on one line. -/
def display (d : Diagnostic) : String :=
  d.code ++ ": " ++ d.message

@[simp] theorem isBlocking_error (code message : String) :
    (error code message).isBlocking = true := rfl

@[simp] theorem isBlocking_warning (code message : String) :
    (warning code message).isBlocking = false := rfl

@[simp] theorem isBlocking_note (code message : String) :
    (note code message).isBlocking = false := rfl

@[simp] theorem isBlocking_escalated_warning (code message : String) (b : Bool) :
    ((warning code message).escalated b).isBlocking = b := by
  cases b <;> rfl

end Diagnostic

end UnitFoundry
