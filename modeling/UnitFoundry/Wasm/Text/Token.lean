import UnitFoundry.Text.Digits
import UnitFoundry.Wasm.Fault

/-! # Tokens of the text format

The scanner is an automaton that reads one character at a time, so scanning a text that is put
together from pieces is scanning the pieces one after the other. Tokens are parentheses, words and
strings. What touches a string without being separated from it belongs to one token with it; such a
token names something if it is a string after a dollar sign, and it opens an annotation if it is a
string after an at sign that follows a parenthesis. All others of that kind are reserved, as are
some signs: they mean nothing, and stand only where nothing is meant. -/

namespace UnitFoundry.Wasm.Text

/-- A token. -/
inductive Token where
  /-- An opening parenthesis. -/
  | open_
  /-- An opening parenthesis and the name of an annotation. -/
  | note (name : String)
  /-- A closing parenthesis. -/
  | close
  /-- A keyword, an identifier or a number. -/
  | word (s : String)
  /-- The bytes of a string. -/
  | text (bytes : List UInt8)
  /-- What has no meaning. -/
  | reserved
deriving DecidableEq, Repr

/-- What a string is part of. -/
inductive Role where
  /-- It stands alone. -/
  | plain
  /-- It is an identifier and follows a dollar sign. -/
  | identifier
  /-- It names an annotation and follows an opening parenthesis and an at sign. -/
  | note
  /-- It belongs to a reserved token. -/
  | reserved
deriving DecidableEq, Repr

/-- What the scanner has read since the last complete token. -/
inductive Mode where
  /-- Nothing. -/
  | gap
  /-- An opening parenthesis, which may open a comment or an annotation. -/
  | paren
  /-- A semicolon, which may open a comment. -/
  | semicolon
  /-- A comment that goes to the end of the line. -/
  | lineComment
  /-- A comment inside `depth` parentheses besides the outermost, and its last character if that
  may be half a delimiter. -/
  | blockComment (depth : Nat) (last : Option Char)
  /-- A word, its last character first. -/
  | word (acc : List Char)
  /-- An opening parenthesis, an at sign and the name of an annotation, its last character first. -/
  | note (acc : List Char)
  /-- A reserved token. -/
  | reserved
  /-- A string without its closing quote, its last byte first. -/
  | inText (role : Role) (acc : List UInt8)
  /-- The same, and a backslash. -/
  | escape (role : Role) (acc : List UInt8)
  /-- The same, and the first digit of a byte. -/
  | byte (role : Role) (acc : List UInt8) (digit : Nat)
  /-- The same, and the letter that announces a code point. -/
  | codePoint (role : Role) (acc : List UInt8)
  /-- The same, and what stands between the braces of a code point: nothing yet, or digits of the
  given value with an underscore behind them or not. -/
  | codeDigits (role : Role) (acc : List UInt8) (value : Option (Nat × Bool))
  /-- A complete string. -/
  | afterText (role : Role) (bytes : List UInt8)
deriving DecidableEq, Repr

/-- Whether a character can belong to a word. -/
def isWordChar (c : Char) : Bool :=
  0x21 ≤ c.toNat && c.toNat ≤ 0x7E &&
    not (['"', '(', ')', ',', ';', '[', ']', '\x7b', '\x7d'].contains c)

/-- Whether a character only separates tokens. -/
def isSeparator (c : Char) : Bool :=
  c == ' ' || c == '\t' || c == '\n' || c == '\r'

/-- Whether a character is a reserved token. -/
def isReservedSign (c : Char) : Bool :=
  [',', '[', ']', '\x7b', '\x7d'].contains c

/-- Characters that change the direction of text, which are refused inside comments and strings. -/
def isConfusing (c : Char) : Bool :=
  [0x202A, 0x202B, 0x202D, 0x202E, 0x2066, 0x2067, 0x2068, 0x2069, 0x206C].contains c.toNat

/-- The name that the bytes of a string give, which is not empty. -/
def quotedName? (bytes : List UInt8) : Option String :=
  (String.fromUTF8? (ByteArray.mk bytes.toArray)).filter (!·.isEmpty)

/-- The tokens that an opening parenthesis gives with the name of an annotation, if there is one. -/
def noteTokens : Option String → List Token
  | some name => [.note name]
  | none => [.open_, .reserved]

/-- The tokens that a complete string gives. -/
def Role.tokens (bytes : List UInt8) : Role → List Token
  | .plain => [.text bytes]
  | .identifier =>
    match quotedName? bytes with
    | some name => [.word ("$" ++ name)]
    | none => [.reserved]
  | .note => noteTokens (quotedName? bytes)
  | .reserved => [.reserved]

/-- The tokens that stand before a reserved token which a string of this role turns into. -/
def Role.tokensBefore : Role → List Token
  | .note => [.open_]
  | _ => []

/-- Reads a character after a complete token. -/
def Mode.fromGap (c : Char) : Except TextFault (List Token × Mode) :=
  if isSeparator c then .ok ([], .gap)
  else if c = '(' then .ok ([], .paren)
  else if c = ')' then .ok ([.close], .gap)
  else if c = ';' then .ok ([], .semicolon)
  else if c = '"' then .ok ([], .inText .plain [])
  else if isWordChar c then .ok ([], .word [c])
  else if isReservedSign c then .ok ([.reserved], .gap)
  else .error .badCharacter

/-- Reads a character that ends the tokens `ts`. -/
def Mode.fromGapAfter (ts : List Token) (c : Char) : Except TextFault (List Token × Mode) := do
  let (more, m) ← fromGap c
  return (ts ++ more, m)

/-- Reads a character of a comment between parentheses. -/
def Mode.fromBlock (depth : Nat) (last : Option Char) (c : Char) :
    Except TextFault (List Token × Mode) :=
  if last = some '(' && c = ';' then .ok ([], .blockComment (depth + 1) none)
  else if last = some ';' && c = ')' then
    match depth with
    | 0 => .ok ([], .gap)
    | depth + 1 => .ok ([], .blockComment depth none)
  else if isConfusing c then .error .badCharacter
  else .ok ([], .blockComment depth (if c = '(' || c = ';' then some c else none))

/-- Reads a character of a string. -/
def Mode.fromText (role : Role) (acc : List UInt8) (c : Char) :
    Except TextFault (List Token × Mode) :=
  if c = '"' then .ok ([], .afterText role acc.reverse)
  else if c = '\\' then .ok ([], .escape role acc)
  else if c.toNat < 0x20 || c.toNat = 0x7F || isConfusing c then .error .badCharacter
  else .ok ([], .inText role ((String.utf8EncodeChar c).reverse ++ acc))

/-- Reads the character after a backslash. -/
def Mode.fromEscape (role : Role) (acc : List UInt8) (c : Char) :
    Except TextFault (List Token × Mode) :=
  match c with
  | 't' => .ok ([], .inText role (0x09 :: acc))
  | 'n' => .ok ([], .inText role (0x0A :: acc))
  | 'r' => .ok ([], .inText role (0x0D :: acc))
  | '"' => .ok ([], .inText role (0x22 :: acc))
  | '\'' => .ok ([], .inText role (0x27 :: acc))
  | '\\' => .ok ([], .inText role (0x5C :: acc))
  | 'u' => .ok ([], .codePoint role acc)
  | c =>
    match UnitFoundry.Text.hexDigit? c with
    | some d => .ok ([], .byte role acc d)
    | none => .error .badCharacter

/-- Reads a character of a code point: digits, with any number of underscores between two. -/
def Mode.fromCodeDigits (role : Role) (acc : List UInt8) (value : Option (Nat × Bool)) (c : Char) :
    Except TextFault (List Token × Mode) :=
  match value, UnitFoundry.Text.hexDigit? c with
  | none, some d => .ok ([], .codeDigits role acc (some (d, false)))
  | none, none => .error .badCharacter
  | some (n, _), some d =>
    if n ≤ 0x10FFFF then .ok ([], .codeDigits role acc (some (16 * n + d, false)))
    else .error .badCharacter
  | some (n, isOpen), none =>
    if c = '_' then .ok ([], .codeDigits role acc (some (n, true)))
    else if h : c = '\x7d' ∧ isOpen = false ∧ n.isValidChar then
      .ok ([], .inText role ((String.utf8EncodeChar (Char.ofNatAux n h.2.2)).reverse ++ acc))
    else .error .badCharacter

/-- Reads one character: the tokens that it completes and what is under way after it. -/
def Mode.step (c : Char) : Mode → Except TextFault (List Token × Mode)
  | .gap => fromGap c
  | .paren =>
    if c = ';' then .ok ([], .blockComment 0 none)
    else if c = '@' then .ok ([], .note [])
    else fromGapAfter [.open_] c
  | .semicolon => if c = ';' then .ok ([], .lineComment) else fromGapAfter [.reserved] c
  | .lineComment =>
    if c = '\n' || c = '\r' then .ok ([], .gap)
    else if isConfusing c then .error .badCharacter
    else .ok ([], .lineComment)
  | .blockComment depth last => fromBlock depth last c
  | .word acc =>
    if isWordChar c then .ok ([], .word (c :: acc))
    else if c = '"' then .ok ([], .inText (if acc = ['$'] then .identifier else .reserved) [])
    else fromGapAfter [.word (String.ofList acc.reverse)] c
  | .note acc =>
    if isWordChar c then .ok ([], .note (c :: acc))
    else if c = '"' then
      if acc.isEmpty then .ok ([], .inText .note [])
      else .ok ([.open_], .inText .reserved [])
    else
      fromGapAfter
        (noteTokens (if acc.isEmpty then none else some (String.ofList acc.reverse))) c
  | .reserved =>
    if isWordChar c then .ok ([], .reserved)
    else if c = '"' then .ok ([], .inText .reserved [])
    else fromGapAfter [.reserved] c
  | .inText role acc => fromText role acc c
  | .escape role acc => fromEscape role acc c
  | .byte role acc digit =>
    match UnitFoundry.Text.hexDigit? c with
    | some d => .ok ([], .inText role (UInt8.ofNat (16 * digit + d) :: acc))
    | none => .error .badCharacter
  | .codePoint role acc =>
    if c = '\x7b' then .ok ([], .codeDigits role acc none) else .error .badCharacter
  | .codeDigits role acc value => fromCodeDigits role acc value c
  | .afterText role bytes =>
    if isWordChar c then .ok (role.tokensBefore, .reserved)
    else if c = '"' then .ok (role.tokensBefore, .inText .reserved [])
    else fromGapAfter (role.tokens bytes) c

/-- The tokens that the end of the text completes. -/
def Mode.finish : Mode → Except TextFault (List Token)
  | .gap | .lineComment => .ok []
  | .paren => .ok [.open_]
  | .word acc => .ok [.word (String.ofList acc.reverse)]
  | .afterText role bytes => .ok (role.tokens bytes)
  | .semicolon | .reserved => .ok [.reserved]
  | .note _ => .ok [.open_, .reserved]
  | _ => .error .unterminated

/-- The tokens of a text, with `mode` under way before it. -/
def scan (mode : Mode) : List Char → Except TextFault (List Token)
  | [] => mode.finish
  | c :: cs => do
    let (ts, m) ← mode.step c
    let rest ← scan m cs
    return ts ++ rest

/-- The tokens of a text. -/
def tokens (cs : List Char) : Except TextFault (List Token) :=
  scan .gap cs

end UnitFoundry.Wasm.Text
