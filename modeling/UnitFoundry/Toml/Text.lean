import UnitFoundry.Text.Digits

/-! # Keys, strings and blanks of TOML

Readers take characters from the front and return the rest. Control characters other than the tab
stand nowhere, and a carriage return only before a newline. -/

namespace UnitFoundry.Toml

/-- A reader that takes characters from the front. -/
abbrev Reader (α : Type) : Type := List Char → Option (α × List Char)

/-! ## Characters -/

/-- Whether a character separates tokens on a line. -/
def isBlank (c : Char) : Bool :=
  c = ' ' || c = '\t'

/-- Whether a character may stand in a comment, or in a string of any kind where it has no other
meaning. -/
def isPlain (c : Char) : Bool :=
  c = '\t' || (0x20 ≤ c.toNat && c ≠ '\x7f')

/-- Whether a character may stand in a key without quotes. -/
def isBare (c : Char) : Bool :=
  ('A' ≤ c && c ≤ 'Z') || ('a' ≤ c && c ≤ 'z') || ('0' ≤ c && c ≤ '9') || c = '_' || c = '-'

/-- Removes the blanks in front. -/
def skipBlank (cs : List Char) : List Char :=
  cs.dropWhile isBlank

/-- Removes a newline in front. -/
def newline? : List Char → Option (List Char)
  | '\n' :: cs => some cs
  | '\r' :: '\n' :: cs => some cs
  | _ => none

/-- Removes the end of a line: blanks, a comment and a newline or the end of the text. -/
def lineEnd? (cs : List Char) : Option (List Char) :=
  let rest :=
    match skipBlank cs with
    | '#' :: cs => cs.dropWhile isPlain
    | cs => cs
  if rest.isEmpty then some [] else newline? rest

/-- Removes blanks, newlines and comments in front. -/
def skipSpread (inComment : Bool) : List Char → List Char
  | [] => []
  | '\n' :: cs => skipSpread false cs
  | '\r' :: '\n' :: cs => skipSpread false cs
  | '#' :: cs => skipSpread true cs
  | c :: cs => if isBlank c || (inComment && isPlain c) then skipSpread inComment cs else c :: cs

/-! ## Escapes -/

/-- The character that a one-letter escape stands for. -/
def simpleEscape? : Char → Option Char
  | 'b' => some '\x08'
  | 't' => some '\t'
  | 'n' => some '\n'
  | 'f' => some '\x0c'
  | 'r' => some '\r'
  | '"' => some '"'
  | '\\' => some '\\'
  | _ => none

/-- The character that hexadecimal digits give. -/
def charOfDigits? (ds : List Char) : Option Char := do
  let n ← ds.foldlM (fun n c => (Text.hexDigit? c).map (16 * n + ·)) 0
  if n.isValidChar then some (Char.ofNat n) else none

/-- Reads an escape after its backslash. -/
def readEscape : Reader Char
  | 'u' :: cs =>
    if cs.length < 4 then none else (charOfDigits? (cs.take 4)).map (·, cs.drop 4)
  | 'U' :: cs =>
    if cs.length < 8 then none else (charOfDigits? (cs.take 8)).map (·, cs.drop 8)
  | c :: cs => (simpleEscape? c).map (·, cs)
  | [] => none

theorem length_of_readEscape {cs rest : List Char} {c : Char}
    (h : readEscape cs = some (c, rest)) : rest.length < cs.length := by
  unfold readEscape at h
  split at h
  · split at h
    · simp at h
    · simp only [Option.map_eq_some_iff, Prod.mk.injEq] at h
      obtain ⟨_, _, _, rfl⟩ := h
      simp only [List.length_drop, List.length_cons]
      omega
  · split at h
    · simp at h
    · simp only [Option.map_eq_some_iff, Prod.mk.injEq] at h
      obtain ⟨_, _, _, rfl⟩ := h
      simp only [List.length_drop, List.length_cons]
      omega
  · simp only [Option.map_eq_some_iff, Prod.mk.injEq] at h
    obtain ⟨_, _, _, rfl⟩ := h
    simp
  · simp at h

/-! ## Strings on one line -/

/-- Reads a string in double quotes after the opening one. -/
def readBasic (cs : List Char) : Option (List Char × List Char) :=
  match cs with
  | [] => none
  | '"' :: cs => some ([], cs)
  | '\\' :: cs =>
    match h : readEscape cs with
    | none => none
    | some (c, rest) =>
      have := length_of_readEscape h
      (readBasic rest).map fun (s, rest) => (c :: s, rest)
  | c :: cs => if isPlain c then (readBasic cs).map fun (s, rest) => (c :: s, rest) else none
termination_by cs.length
decreasing_by all_goals simp only [List.length_cons]; omega

/-- Reads a string in single quotes after the opening one. -/
def readLiteral : Reader (List Char)
  | [] => none
  | '\'' :: cs => some ([], cs)
  | c :: cs => if isPlain c then (readLiteral cs).map fun (s, rest) => (c :: s, rest) else none

/-! ## Strings on many lines -/

/-- Reads the quotes that end a string on many lines, after the first of them. Up to two more than
the three of the end belong to the string. -/
def readClosing (quote : Char) : Reader (List Char)
  | a :: b :: cs =>
    if a = quote ∧ b = quote then
      match cs with
      | c :: d :: cs =>
        if c = quote ∧ d = quote then some ([quote, quote], cs)
        else if c = quote then some ([quote], d :: cs)
        else some ([], c :: d :: cs)
      | [c] => if c = quote then some ([quote], []) else some ([], [c])
      | [] => some ([], [])
    else none
  | _ => none

/-- Whether a backslash before these characters ends a line: only blanks stand between it and the
newline. -/
def endsLine (cs : List Char) : Bool :=
  (newline? (skipBlank cs)).isSome

/-- Reads a string on many lines in double quotes after the opening ones. While `skipping`, blanks
and newlines are left out, as they are after a backslash that ends a line. -/
def readLongBasic (skipping : Bool) (cs : List Char) : Option (List Char × List Char) :=
  match cs with
  | [] => none
  | '\n' :: cs =>
    if skipping then readLongBasic true cs
    else (readLongBasic false cs).map fun (s, rest) => ('\n' :: s, rest)
  | '\r' :: '\n' :: cs =>
    if skipping then readLongBasic true cs
    else (readLongBasic false cs).map fun (s, rest) => ('\n' :: s, rest)
  | '"' :: cs =>
    match readClosing '"' cs with
    | some end_ => some end_
    | none => (readLongBasic false cs).map fun (s, rest) => ('"' :: s, rest)
  | '\\' :: cs =>
    if endsLine cs then readLongBasic true cs
    else
      match h : readEscape cs with
      | none => none
      | some (c, rest) =>
        have := length_of_readEscape h
        (readLongBasic false rest).map fun (s, rest) => (c :: s, rest)
  | c :: cs =>
    if skipping && isBlank c then readLongBasic true cs
    else if isPlain c then (readLongBasic false cs).map fun (s, rest) => (c :: s, rest)
    else none
termination_by cs.length
decreasing_by all_goals simp only [List.length_cons]; omega

/-- Reads a string on many lines in single quotes after the opening ones. -/
def readLongLiteral : Reader (List Char)
  | [] => none
  | '\n' :: cs => (readLongLiteral cs).map fun (s, rest) => ('\n' :: s, rest)
  | '\r' :: '\n' :: cs => (readLongLiteral cs).map fun (s, rest) => ('\n' :: s, rest)
  | '\'' :: cs =>
    match readClosing '\'' cs with
    | some end_ => some end_
    | none => (readLongLiteral cs).map fun (s, rest) => ('\'' :: s, rest)
  | c :: cs => if isPlain c then (readLongLiteral cs).map fun (s, rest) => (c :: s, rest) else none

/-- The text after the opening of a string on many lines: a newline right after it is left out. -/
def afterOpening (cs : List Char) : List Char :=
  (newline? cs).getD cs

/-- Reads a string of any kind. -/
def readString : Reader String := fun cs =>
  let text :=
    match cs with
    | '"' :: '"' :: '"' :: cs => readLongBasic false (afterOpening cs)
    | '"' :: cs => readBasic cs
    | '\'' :: '\'' :: '\'' :: cs => readLongLiteral (afterOpening cs)
    | '\'' :: cs => readLiteral cs
    | _ => none
  text.map fun (s, rest) => (String.ofList s, rest)

/-! ## Keys -/

/-- Reads a part of a key. -/
def readKeyPart : Reader String
  | '"' :: cs => (readBasic cs).map fun (s, rest) => (String.ofList s, rest)
  | '\'' :: cs => (readLiteral cs).map fun (s, rest) => (String.ofList s, rest)
  | cs =>
    let s := cs.takeWhile isBare
    if s.isEmpty then none else some (String.ofList s, cs.dropWhile isBare)

/-- Reads a dotted key of at most so many parts, and the blanks around them. -/
def readKeyParts : Nat → Reader (List String)
  | 0, _ => none
  | n + 1, cs => do
    let (part, cs) ← readKeyPart (skipBlank cs)
    match skipBlank cs with
    | '.' :: cs =>
      let (parts, cs) ← readKeyParts n cs
      return (part :: parts, cs)
    | cs => return ([part], cs)

/-- How many parts a key may have. -/
def longestKey : Nat := 79

/-- Reads a key: its parts before the last one, and the last one. -/
def readKey : Reader (List String × String) := fun cs => do
  let (parts, cs) ← readKeyParts longestKey cs
  return ((parts.dropLast, ← parts.getLast?), cs)

end UnitFoundry.Toml
