import UnitFoundry.Compile.Diagnostic
import UnitFoundry.Json.Reader
import UnitFoundry.Text.Blank
import UnitFoundry.Text.Lines

/-! # Compiler messages

A compiler that writes its messages as JSON writes one on each line, mixed with other lines. A
message is an object with the fields `message`, `level`, `code` and `$message_type`, or an array
of the four of them. Other fields are ignored, and a line that is no message is skipped. -/

namespace UnitFoundry

/-- A message of a compiler. -/
structure CompilerMessage where
  /-- What kind of message it is, if it says so. -/
  type : Option String := none
  /-- The problem in words. -/
  message : String
  /-- How grave it is. -/
  level : String
  /-- A short name of the problem. -/
  code : Option String := none
deriving DecidableEq, Repr

namespace CompilerMessage

/-- The value of a field, `none` if the object lacks it. Fails if the object holds it twice. -/
def field? (members : List (Option String × Json.Value)) (key : String) :
    Option (Option Json.Value) :=
  match members.filter (·.1 = some key) with
  | [] => some none
  | [(_, j)] => some (some j)
  | _ => none

/-- Reads a text that may be null. -/
def readOptional? : Json.Value → Option (Option String)
  | .null => some none
  | j => j.text?.map some

/-- Reads a code that is not null: an object with the field `code`, or an array of that field. -/
def readCode? : Json.Value → Option String
  | .object members =>
    if members.any (·.1.isNone) then none
    else
      match field? members "code" with
      | some (some j) => j.text?
      | _ => none
  | .array [j] => j.text?
  | _ => none

/-- Reads a code that may be null. -/
def readOptionalCode? : Json.Value → Option (Option String)
  | .null => some none
  | j => (readCode? j).map some

/-- Reads a message. Every key must have a text, and no field may occur twice. -/
def ofJson? : Json.Value → Option CompilerMessage
  | .object members => do
    if members.any (·.1.isNone) then none
    let type ← ((← field? members "$message_type").getD .null |> readOptional?)
    let message ← (← field? members "message").bind (·.text?)
    let level ← (← field? members "level").bind (·.text?)
    let code ← ((← field? members "code").getD .null |> readOptionalCode?)
    return { type, message, level, code }
  | .array [type, message, level, code] => do
    return { type := ← readOptional? type
             message := ← message.text?
             level := ← level.text?
             code := ← readOptionalCode? code }
  | _ => none

/-- Reads the message on a line. -/
def ofLine? (line : List Char) : Option CompilerMessage :=
  (Json.read? (Text.trim line)).bind ofJson?

/-- Whether the message is about the source. -/
def isDiagnostic (m : CompilerMessage) : Bool :=
  match m.type with
  | none => true
  | some t => t = "diagnostic"

/-- How grave a level is: levels that start with `error` are errors. -/
def severityOf (level : String) : Severity :=
  if "error".toList.isPrefixOf level.toList then .error
  else if level = "warning" then .warning
  else .note

/-- The code of a diagnostic that has none. -/
def defaultCode : String := "rustc"

/-- The diagnostic that a message gives. -/
def toDiagnostic (m : CompilerMessage) : Diagnostic :=
  { severity := severityOf m.level, code := m.code.getD defaultCode, message := m.message }

end CompilerMessage

/-- The diagnostics among the lines of a compiler's output. -/
def parseDiagnostics (output : String) : List Diagnostic :=
  (Text.lines output.toList).filterMap fun line =>
    match CompilerMessage.ofLine? line with
    | some m => if m.isDiagnostic then some m.toDiagnostic else none
    | none => none

end UnitFoundry
