import UnitFoundry.Engine.Basic
import UnitFoundry.Wasm.Text.Sexp

/-! # Texts that engines read

A module is described by a text as well. What is proved about emitted text relies on an engine to
read it, so the part of the text format that is emitted is written down here as a grammar: a module
is one form, with a form for each of its functions, in which stand the names under which the
function is exported, its parameters and its results. An engine need not read what is too large for
it.

* **`Wasm.Text.Spells`**: the expressions that a text spells.
* **`Wasm.Text.FuncText`**: a function as a text declares it.
* **`Wasm.Text.TextLimits`**: how much of everything an engine puts up with.
* **`Engine.ReadsTexts`**: the engine reads every text of the grammar that keeps to its limits. -/

namespace UnitFoundry

namespace Wasm.Text

/-! ## Expressions -/

/-- Whether a text is one word. -/
def IsWord (s : String) : Prop :=
  s.toList ≠ [] ∧ ∀ c ∈ s.toList, isWordChar c = true

-- decided along the text, not over all characters
instance (s : String) : Decidable (IsWord s) :=
  haveI := List.decidableBAll (fun c => isWordChar c = true) s.toList
  inferInstanceAs (Decidable (s.toList ≠ [] ∧ ∀ c ∈ s.toList, isWordChar c = true))

/-- Whether a character stands for itself in a string. -/
def IsPlain (c : Char) : Prop :=
  c ≠ '"' ∧ c ≠ '\\' ∧ ¬(c.toNat < 0x20 || c.toNat = 0x7F || isConfusing c) = true

/-- The bytes of characters. -/
def bytesOf (cs : List Char) : List UInt8 :=
  cs.flatMap String.utf8EncodeChar

/-- The expressions that a piece of text spells. A piece starts with a blank or a parenthesis, so
whatever stands before it is complete. -/
inductive Spells : List Char → List Sexp → Prop where
  /-- No text. -/
  | nil : Spells [] []
  /-- One piece after another. -/
  | append {cs ds : List Char} {xs ys : List Sexp} :
    Spells cs xs → Spells ds ys → Spells (cs ++ ds) (xs ++ ys)
  /-- A blank. -/
  | separator {c : Char} : isSeparator c = true → Spells [c] []
  /-- A word after a blank. -/
  | word {c : Char} {s : String} :
    isSeparator c = true → IsWord s → Spells (c :: s.toList) [.word s]
  /-- A string after a blank. -/
  | text {c : Char} {w : List Char} :
    isSeparator c = true → (∀ d ∈ w, IsPlain d) →
      Spells (c :: '"' :: (w ++ ['"'])) [.text (bytesOf w)]
  /-- A form with a keyword and what its text spells. -/
  | form {k : String} {cs : List Char} {xs : List Sexp} :
    IsWord k → k.toList.head? ≠ some '@' → Spells cs xs →
      Spells ('(' :: (k.toList ++ (cs ++ [')']))) [.form (.word k :: xs)]

/-! ## Modules of functions -/

/-- A function in the text of a module, with a body that traps. -/
structure FuncText where
  /-- The identifier, without its dollar sign. -/
  id : String
  /-- The names under which the function is exported. -/
  exports : List String := []
  /-- The identifiers of the parameters, without their dollar signs, and their types. -/
  params : List (String × NumType) := []
  /-- The types of the results. -/
  results : List NumType := []
deriving DecidableEq, Repr

/-- The form of a name under which a function is exported. -/
def exportSexp (name : String) : Sexp :=
  .form [.word "export", .text (bytesOf name.toList)]

/-- The form of a parameter. -/
def paramSexp (p : String × NumType) : Sexp :=
  .form [.word "param", .word ("$" ++ p.1), .word p.2.name]

/-- The form of a result. -/
def resultSexp (t : NumType) : Sexp :=
  .form [.word "result", .word t.name]

namespace FuncText

/-- The size of the type of a function. -/
def size (f : FuncText) : Nat :=
  1 + (f.params.length + f.results.length)

/-- The forms of the declaration of a function after its identifier. -/
def clauses (f : FuncText) : List Sexp :=
  f.exports.map exportSexp ++ (f.params.map paramSexp ++ f.results.map resultSexp)

/-- The form of a function. -/
def sexp (f : FuncText) : Sexp :=
  .form (.word "func" :: .word ("$" ++ f.id) :: (f.clauses ++ [.word "unreachable"]))

end FuncText

/-- The form of a module. -/
def moduleSexp (id : String) (fs : List FuncText) : Sexp :=
  .form (.word "module" :: .word ("$" ++ id) :: fs.map (·.sexp))

/-- Whether the names in the functions of a module are what they should be. -/
structure WellNamed (fs : List FuncText) : Prop where
  /-- Functions have words for identifiers. -/
  isWord_id : ∀ f ∈ fs, IsWord f.id
  /-- So have parameters. -/
  isWord_param : ∀ f ∈ fs, ∀ p ∈ f.params, IsWord p.1
  /-- No identifier is one of two functions. -/
  nodup_ids : (fs.map (·.id)).Nodup
  /-- No identifier is one of two parameters of a function. -/
  nodup_params : ∀ f ∈ fs, (f.params.map (·.1)).Nodup
  /-- No name is exported twice. -/
  nodup_exports : (fs.flatMap (·.exports)).Nodup

/-- How much of everything an engine puts up with in the text of a module. -/
structure TextLimits where
  /-- The greatest number of bytes of the text. -/
  bytes : Nat
  /-- The greatest number of functions. -/
  functions : Nat
  /-- The greatest number of exports. -/
  exports : Nat
  /-- The greatest number of parameters of a function. -/
  params : Nat
  /-- The greatest number of results of a function. -/
  results : Nat
  /-- The greatest number of bytes of a name that is exported. -/
  nameBytes : Nat
  /-- What the sizes of the types of all exports stay below together. -/
  typeSize : Nat
deriving DecidableEq, Repr

/-- Whether a text that declares functions keeps to limits. -/
structure TextLimits.Admit (l : TextLimits) (text : String) (fs : List FuncText) : Prop where
  /-- The text is not too long. -/
  bytes : text.utf8ByteSize ≤ l.bytes
  /-- There are not too many functions. -/
  functions : fs.length ≤ l.functions
  /-- Not too much is exported. -/
  exports : (fs.flatMap (·.exports)).length ≤ l.exports
  /-- No function has too many parameters. -/
  params : ∀ f ∈ fs, f.params.length ≤ l.params
  /-- No function has too many results. -/
  results : ∀ f ∈ fs, f.results.length ≤ l.results
  /-- No name that is exported is too long. -/
  names : ∀ f ∈ fs, ∀ name ∈ f.exports, name.utf8ByteSize ≤ l.nameBytes
  /-- The types of what is exported are not too large. -/
  types : (fs.flatMap fun f => f.exports.map fun _ => f.size).foldr (· + ·) 0 < l.typeSize

end Wasm.Text

/-! ## Reading -/

namespace Engine

open Wasm.Text

variable (E : Engine)

/-- Whether a module exports just the functions that a text declares, under their names, in their
order and with their types. -/
def Declares (m : E.Module) (fs : List FuncText) : Prop :=
  ∃ type : FuncText → E.FuncType,
    (∀ f ∈ fs, E.params (type f) = f.params.map (E.number ·.2) ∧
      E.results (type f) = f.results.map E.number) ∧
    E.exports m = fs.flatMap fun f => f.exports.map (·, E.func (type f))

/-- Whether a module needs nothing and can be instantiated before anything else is. -/
def StandsAlone (m : E.Module) : Prop :=
  E.imports m = [] ∧ ∃ s i, E.instantiate E.host.1 E.host.2 m = .ok (s, i)

/-- The text of a module of functions is read as the module that it declares, if it keeps to some
limits. The module stands alone. -/
def ReadsTexts (limits : TextLimits) : Prop :=
  ∀ {text id fs}, IsWord id → WellNamed fs → Spells text.toList [moduleSexp id fs] →
    limits.Admit text fs → ∃ image m, E.parse text = .ok image ∧ E.read image = .ok m ∧
      E.load image = .ok m ∧ E.Declares m fs ∧ E.StandsAlone m

end Engine

end UnitFoundry
