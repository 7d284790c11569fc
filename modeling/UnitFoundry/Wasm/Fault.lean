/-! # What can be wrong with a module

A module is refused because its text or its binary is malformed, or because it is well formed and
breaks a rule of validation. -/

namespace UnitFoundry.Wasm

/-- Why a text is not a module. -/
inductive TextFault where
  /-- A character may not stand where it stands. -/
  | badCharacter
  /-- A string or a comment has no end. -/
  | unterminated
  /-- A parenthesis has no partner. -/
  | unbalanced
  /-- A form is not one of the format, or stands at the wrong place. -/
  | badForm
  /-- A name is not UTF-8. -/
  | badName
  /-- An identifier is not defined. -/
  | undefinedId
  /-- An identifier is defined twice. -/
  | duplicateId
  /-- An import follows a definition. -/
  | lateImport
  /-- There is more than one start function. -/
  | manyStarts
deriving DecidableEq, Repr

/-- Why bytes are not a module. -/
inductive BinaryFault where
  /-- The bytes end too soon. -/
  | truncated
  /-- The bytes do not start as a module does. -/
  | badHeader
  /-- A number has too many bytes or too large a value. -/
  | badNumber
  /-- A byte stands for nothing at its place. -/
  | badCode
  /-- A name is not UTF-8. -/
  | badName
  /-- A section is out of order or of the wrong size. -/
  | badSection
deriving DecidableEq, Repr

/-- Which rule a well-formed module breaks. -/
inductive Invalidity where
  /-- Operands do not have the types that an instruction needs. -/
  | typeMismatch
  /-- An index points to nothing. -/
  | unknownIndex
  /-- Two exports have one name. -/
  | duplicateExport
  /-- An initial value is not constant. -/
  | notConstant
  /-- A global is set that cannot be set. -/
  | immutableGlobal
  /-- The start function takes or returns something. -/
  | badStart
  /-- Sizes exceed what is allowed or are in the wrong order. -/
  | badLimits
  /-- There is more than one memory. -/
  | manyMemories
  /-- There is more of something than may be. -/
  | tooMany
  /-- There are references of a kind that no module may use. -/
  | unsupported
deriving DecidableEq, Repr

/-- Why a module is refused. -/
inductive Fault where
  /-- Its text is malformed. -/
  | text (f : TextFault)
  /-- Its binary is malformed. -/
  | binary (f : BinaryFault)
  /-- It is well formed and not valid. -/
  | invalid (f : Invalidity)
deriving DecidableEq, Repr

/-- What the fault says to a reader. -/
def TextFault.message : TextFault → String
  | .badCharacter => "unexpected character"
  | .unterminated => "unterminated string or comment"
  | .unbalanced => "unbalanced parenthesis"
  | .badForm => "unexpected form"
  | .badName => "malformed name"
  | .undefinedId => "unknown identifier"
  | .duplicateId => "duplicate identifier"
  | .lateImport => "import after a definition"
  | .manyStarts => "multiple start functions"

/-- What the fault says to a reader. -/
def BinaryFault.message : BinaryFault → String
  | .truncated => "unexpected end of the binary"
  | .badHeader => "not a module of version 1"
  | .badNumber => "malformed number"
  | .badCode => "unknown code"
  | .badName => "malformed name"
  | .badSection => "malformed section"

/-- What the broken rule is called for a reader. -/
def Invalidity.message : Invalidity → String
  | .typeMismatch => "type mismatch"
  | .unknownIndex => "unknown index"
  | .duplicateExport => "duplicate export name"
  | .notConstant => "constant expression required"
  | .immutableGlobal => "global is immutable"
  | .badStart => "invalid start function type"
  | .badLimits => "invalid limits"
  | .manyMemories => "multiple memories"
  | .tooMany => "limit exceeded"
  | .unsupported => "unsupported kind of references"

/-- What the fault says to a reader. -/
def Fault.message : Fault → String
  | .text f => f.message
  | .binary f => f.message
  | .invalid f => f.message

end UnitFoundry.Wasm
