import UnitFoundry.Wasm.Text.Token

/-! # Symbolic expressions

The text format is built of words, strings and parenthesised forms. `Sexp.ofTokens` gathers tokens
into forms with a stack of the forms that are still open. An annotation is a form that a reader may
leave out; those that no reader knows are left out here, whatever they hold. -/

namespace UnitFoundry.Wasm.Text

/-- A word, a string or a form. -/
inductive Sexp where
  /-- A word. -/
  | word (s : String)
  /-- The bytes of a string. -/
  | text (bytes : List UInt8)
  /-- A parenthesised form. -/
  | form (items : List Sexp)
  /-- An annotation that readers know. -/
  | note (name : String) (items : List Sexp)
  /-- What has no meaning. -/
  | reserved

/-- The annotations that readers know. -/
def knownNotes : List String :=
  ["custom", "producers", "name", "dylink.0", "metadata.code.branch_hint"]

namespace Sexp

/-- Puts a complete form in front of the items before it. A form that is an annotation has a
name. -/
def close (name : Option String) (items above : List Sexp) : List Sexp :=
  match name with
  | none => .form items :: above
  | some name => if knownNotes.contains name then .note name items :: above else above

/-- Gathers tokens. The items of the innermost open form stand in `items`, last one first. Each
form that is open has its name in `outer`, if it is an annotation, and the items before it. -/
def gather (outer : List (Option String × List Sexp)) (items : List Sexp) :
    List Token → Except TextFault (List Sexp)
  | [] => if outer.isEmpty then .ok items.reverse else .error .unbalanced
  | .open_ :: ts => gather ((none, items) :: outer) [] ts
  | .note name :: ts => gather ((some name, items) :: outer) [] ts
  | .close :: ts =>
    match outer with
    | [] => .error .unbalanced
    | (name, above) :: outer => gather outer (close name items.reverse above) ts
  | .word s :: ts => gather outer (.word s :: items) ts
  | .text bytes :: ts => gather outer (.text bytes :: items) ts
  | .reserved :: ts => gather outer (.reserved :: items) ts

/-- The expressions that tokens spell. -/
def ofTokens (ts : List Token) : Except TextFault (List Sexp) :=
  gather [] [] ts

end Sexp

end UnitFoundry.Wasm.Text
