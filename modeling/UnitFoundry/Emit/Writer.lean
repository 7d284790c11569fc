import UnitFoundry.Emit.Member
import UnitFoundry.Emit.Template

/-! # The writer

A writer accumulates text and knows the blocks that are open. Each line is indented by four
spaces for each of them. Blocks are opened and closed one by one, by markers in a template, or
through a guard (see `UnitFoundry.Emit.Guard`). -/

namespace UnitFoundry.Emit

/-- Why text would be unbalanced. -/
inductive EmitError where
  /-- A block was to be closed where none is open. -/
  | closeWithoutOpen
  /-- Blocks with these labels are open, the outermost first. -/
  | unclosedBlocks (labels : List String)
deriving DecidableEq, Repr

/-- What the error says to a reader. -/
def EmitError.message : EmitError → String
  | .closeWithoutOpen => "unbalanced block: finish_block called with no open block"
  | .unclosedBlocks labels =>
    "unbalanced block: " ++ toString labels.length ++ " block(s) still open: " ++
      ", ".intercalate labels

/-- Text under construction. -/
structure Writer where
  /-- The syntax of the text. -/
  dialect : Dialect := .rust
  /-- The text so far. -/
  text : String := ""
  /-- The labels of the open blocks, the innermost first. -/
  openBlocks : List String := []
deriving DecidableEq, Repr

namespace Writer

/-- The number of open blocks. -/
def level (w : Writer) : Nat :=
  w.openBlocks.length

/-- The blanks in front of a line inside `n` blocks. -/
def indentation (n : Nat) : String :=
  String.ofList (List.replicate (4 * n) ' ')

/-- The label of a block without a header. -/
def unlabelled : String := "<block>"

/-- Writes a line inside the open blocks. -/
def line (w : Writer) (s : String) : Writer :=
  { w with text := w.text ++ indentation w.level ++ s ++ "\n" }

/-- Writes an empty line. -/
def blank (w : Writer) : Writer :=
  { w with text := w.text ++ "\n" }

/-- Opens a block under a label. -/
def openBlock (w : Writer) (label : String) : Writer :=
  let w :=
    match w.dialect.openDelimiter? with
    | some delimiter => w.line delimiter
    | none => w
  { w with openBlocks := label :: w.openBlocks }

/-- Writes a header and opens a block that is labelled by it. -/
def openUnder (w : Writer) (header : String) : Writer :=
  (w.line header).openBlock header

/-- Opens a block without a header. -/
def start (w : Writer) : Writer :=
  w.openBlock unlabelled

/-- Opens the block of a namespace. -/
def startNamespace (w : Writer) (name : String) : Writer :=
  w.openUnder (w.dialect.namespaceHeader name)

/-- Closes the innermost block: its delimiter, with the trailing text, and an empty line. -/
def finish (w : Writer) (trailing : String) : Except EmitError Writer :=
  match w.openBlocks with
  | [] => .error .closeWithoutOpen
  | _ :: outer =>
    -- the delimiter stands outside of the block that it closes
    let w := { w with openBlocks := outer }
    .ok ((w.line (w.dialect.closeDelimiter ++ trailing)).blank)

/-- Does what a template line asks for. -/
def templateLine (w : Writer) : TemplateLine → Except EmitError Writer
  | .blank => .ok w.blank
  | .opening header => .ok (w.openUnder header)
  | .closing trailing => w.finish trailing
  | .text s => .ok (w.line s)

/-- Does what template lines ask for, up to the first that fails. -/
def templateLines (w : Writer) : List TemplateLine → Writer × Option EmitError
  | [] => (w, none)
  | l :: ls =>
    match w.templateLine l with
    | .ok w => w.templateLines ls
    | .error e => (w, some e)

/-- Writes a template, up to the first line that fails. -/
def write (w : Writer) (template : String) : Writer × Option EmitError :=
  w.templateLines (Emit.templateLines template)

/-- The text, once no block is open. -/
def rendered (w : Writer) : Except EmitError String :=
  if w.openBlocks.isEmpty then .ok w.text else .error (.unclosedBlocks w.openBlocks.reverse)

@[simp] theorem text_line (w : Writer) (s : String) :
    (w.line s).text = w.text ++ indentation w.level ++ s ++ "\n" := rfl

@[simp] theorem openBlocks_line (w : Writer) (s : String) :
    (w.line s).openBlocks = w.openBlocks := rfl

@[simp] theorem dialect_line (w : Writer) (s : String) : (w.line s).dialect = w.dialect := rfl

@[simp] theorem text_blank (w : Writer) : w.blank.text = w.text ++ "\n" := rfl

@[simp] theorem openBlocks_blank (w : Writer) : w.blank.openBlocks = w.openBlocks := rfl

@[simp] theorem dialect_blank (w : Writer) : w.blank.dialect = w.dialect := rfl

@[simp] theorem openBlocks_openBlock (w : Writer) (label : String) :
    (w.openBlock label).openBlocks = label :: w.openBlocks := by
  unfold openBlock
  cases w.dialect.openDelimiter? <;> rfl

@[simp] theorem dialect_openBlock (w : Writer) (label : String) :
    (w.openBlock label).dialect = w.dialect := by
  unfold openBlock
  cases w.dialect.openDelimiter? <;> rfl

@[simp] theorem openBlocks_openUnder (w : Writer) (header : String) :
    (w.openUnder header).openBlocks = header :: w.openBlocks := by
  simp [openUnder]

@[simp] theorem dialect_openUnder (w : Writer) (header : String) :
    (w.openUnder header).dialect = w.dialect := by
  simp [openUnder]

end Writer

end UnitFoundry.Emit
