import UnitFoundry.Text.Alphanumeric
import UnitFoundry.Text.Blank
import UnitFoundry.Text.Lines

/-! # Template lines

A template is free text whose lines may mark blocks. A line that starts with `BLOCK:`, blanks
aside, opens a block under the header that follows; a line that starts with `END` closes the
innermost block, and what follows trails its delimiter. `END` marks nothing when the next
character would continue a word. -/

namespace UnitFoundry.Emit

/-- What one line of a template asks for. -/
inductive TemplateLine where
  /-- An empty line. -/
  | blank
  /-- A block under a header. -/
  | opening (header : String)
  /-- The end of a block, with the text that trails the delimiter. -/
  | closing (trailing : String)
  /-- A line of text. -/
  | text (line : String)
deriving DecidableEq, Repr

namespace TemplateLine

/-- The marker of a line that opens a block. -/
def openMarker : List Char := ['B', 'L', 'O', 'C', 'K', ':']

/-- The marker of a line that closes a block. -/
def endMarker : List Char := ['E', 'N', 'D']

/-- What stands after a marker at the front of a text. -/
def after? (marker cs : List Char) : Option (List Char) :=
  if marker.isPrefixOf cs then some (cs.drop marker.length) else none

/-- Whether a character would continue a word. -/
def continuesWord (c : Char) : Bool :=
  Text.isAlphanumeric c || c == '_'

/-- What stands after an end marker that is a word of its own. -/
def afterEnd? (cs : List Char) : Option (List Char) :=
  match after? endMarker cs with
  | some [] => some []
  | some (c :: rest) => if continuesWord c then none else some (c :: rest)
  | none => none

/-- A character of a template as it is emitted: a grave accent stands for a double quote. -/
def unquote (c : Char) : Char :=
  if c = '\x60' then '"' else c

/-- What a line asks for. -/
def classify (raw : List Char) : TemplateLine :=
  let line := raw.map unquote
  let trimmed := Text.trimStart line
  if trimmed.isEmpty then .blank
  else
    match after? openMarker trimmed with
    | some header => .opening (String.ofList (Text.trim header))
    | none =>
      match afterEnd? trimmed with
      | some trailing => .closing (String.ofList (Text.trim trailing))
      | none => .text (String.ofList line)

end TemplateLine

/-- The lines of a template; the empty template asks for one empty line. -/
def templateLines (text : String) : List TemplateLine :=
  if text.isEmpty then [.blank] else (Text.lines text.toList).map TemplateLine.classify

end UnitFoundry.Emit
