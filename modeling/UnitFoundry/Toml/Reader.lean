import UnitFoundry.Toml.Number

/-! # Reading TOML

A document is a sequence of lines, each with a header, a key and its value, a comment or nothing.
Values nest to a fixed depth. Reading keeps the table of the whole document and the path of the
table that the last header has opened. -/

namespace UnitFoundry.Toml

/-! ## Values -/

/-- How deep values may nest. -/
def deepestNesting : Nat := 79

/-- Reads the items of an array up to its end. Each item takes a character, so their number bounds
the steps. -/
def readItems (item : Reader Value) : Nat → Reader (List Value)
  | 0, _ => none
  | n + 1, cs =>
    match skipSpread false cs with
    | ']' :: cs => some ([], cs)
    | cs => do
      let (v, cs) ← item cs
      match skipSpread false cs with
      | ']' :: cs => return ([v], cs)
      | ',' :: cs =>
        let (vs, cs) ← readItems item n cs
        return (v :: vs, cs)
      | _ => none

/-- Reads a key, its value and the blanks around them. -/
def readPair (item : Reader Value) : Reader ((List String × String) × Value) := fun cs => do
  let (key, cs) ← readKey cs
  match cs with
  | '=' :: cs =>
    let (v, cs) ← item (skipBlank cs)
    return ((key, v), skipBlank cs)
  | _ => none

/-- Reads the pairs of an inline table up to its end, adding them to a table. -/
def readPairs (item : Reader Value) : Nat → Entries → Reader Entries
  | 0, _, _ => none
  | n + 1, es, cs => do
    let (((path, key), v), cs) ← readPair item cs
    let es ← insertDotted path key v .inline es
    match cs with
    | '\x7d' :: cs => return (es, cs)
    | ',' :: cs => readPairs item n es cs
    | _ => none

/-- Reads an inline table after its opening. -/
def readInlineTable (item : Reader Value) : Reader Entries := fun cs =>
  match skipBlank cs with
  | '\x7d' :: cs => some ([], cs)
  | cs => readPairs item (cs.length + 1) [] cs

/-- Reads a value that is no array, table or string. -/
def readScalar : Reader Value
  | 't' :: 'r' :: 'u' :: 'e' :: cs => some (.boolean true, cs)
  | 'f' :: 'a' :: 'l' :: 's' :: 'e' :: cs => some (.boolean false, cs)
  | cs => readDatetime cs <|> readDecimalFloat cs <|> readNamedFloat cs <|> readInteger cs

/-- Reads a value with arrays and inline tables nested at most so deep. -/
def readValue : Nat → Reader Value
  | depth, '[' :: cs =>
    match depth with
    | 0 => none
    | depth + 1 =>
      (readItems (readValue depth) (cs.length + 1) cs).map fun (vs, cs) => (.array vs, cs)
  | depth, '\x7b' :: cs =>
    match depth with
    | 0 => none
    | depth + 1 =>
      (readInlineTable (readValue depth) cs).map fun (es, cs) => (.table .inline es, cs)
  | _, cs =>
    if cs.head? = some '"' ∨ cs.head? = some '\'' then
      (readString cs).map fun (s, cs) => (.string s, cs)
    else readScalar cs

/-! ## Documents -/

/-- A document under way. -/
structure Document where
  /-- The table of the whole document. -/
  root : Entries := []
  /-- The path of the table that the last header has opened. -/
  path : List String := []

/-- A line with something on it. -/
inductive Line where
  /-- A header in single brackets. -/
  | header (path : List String) (key : String)
  /-- A header in double brackets. -/
  | tablesHeader (path : List String) (key : String)
  /-- A key and its value. -/
  | pair (path : List String) (key : String) (v : Value)

/-- The document with one more line, unless the line contradicts it. -/
def Document.add? (d : Document) : Line → Option Document
  | .header path key => do
    let root ← changeAt .implied (defineTable key) path .defined d.root
    return { root, path := path ++ [key] }
  | .tablesHeader path key => do
    let root ← changeAt .implied (addTable key) path .defined d.root
    return { root, path := path ++ [key] }
  | .pair path key v => do
    let root ← changeAt .implied
      (fun _ es => insertDotted path key v .defined es) d.path .defined d.root
    return { d with root }

/-- Reads a line that is neither empty nor a comment, without its end. -/
def readLine : Reader Line
  | '[' :: '[' :: cs => do
    let ((path, key), cs) ← readKey cs
    match cs with
    | ']' :: ']' :: cs => return (.tablesHeader path key, cs)
    | _ => none
  | '[' :: cs => do
    let ((path, key), cs) ← readKey cs
    match cs with
    | ']' :: cs => return (.header path key, cs)
    | _ => none
  | cs => do
    let (((path, key), v), cs) ← readPair (readValue deepestNesting) cs
    return (.pair path key v, cs)

/-- Reads lines up to the end of the text. Each takes a character, so their number bounds the
steps. -/
def readLines : Nat → Document → List Char → Option Document
  | 0, _, _ => none
  | n + 1, d, cs =>
    match skipBlank cs with
    | [] => some d
    | c :: cs =>
      if c = '#' ∨ c = '\n' ∨ c = '\r' then do
        readLines n d (← lineEnd? (c :: cs))
      else do
        let (line, cs) ← readLine (c :: cs)
        readLines n (← d.add? line) (← lineEnd? cs)

/-- Reads a document. A byte order mark in front is left out. -/
def read? (s : String) : Option Entries :=
  let cs :=
    match s.toList with
    | '\uFEFF' :: cs => cs
    | cs => cs
  (readLines (cs.length + 1) {} cs).map (·.root)

end UnitFoundry.Toml
