/-! # Dialects of emitted text

A dialect fixes how blocks are delimited. In the braced dialect a block opens with a line of its
own; in the form dialect the header line itself opens the form that the delimiter closes. -/

namespace UnitFoundry.Emit

/-- The target syntax of emitted text. -/
inductive Dialect where
  /-- Blocks stand between braces. -/
  | rust
  /-- Blocks are parenthesised forms of the WebAssembly text format. -/
  | wat
deriving DecidableEq, Repr

namespace Dialect

/-- The line that opens a block, if the dialect has one. -/
def openDelimiter? : Dialect → Option String
  | rust => some "\x7b"
  | wat => none

/-- The delimiter that closes a block. -/
def closeDelimiter : Dialect → String
  | rust => "\x7d"
  | wat => ")"

/-- The line that introduces a namespace. -/
def namespaceHeader (d : Dialect) (name : String) : String :=
  match d with
  | rust => "pub mod " ++ name
  | wat => "(module $" ++ name

end Dialect

end UnitFoundry.Emit
