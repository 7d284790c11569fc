import UnitFoundry.Wasm.Binary.Decode
import UnitFoundry.Wasm.Text.Reader
import UnitFoundry.Wasm.Validate

/-! # Opening modules

A module is opened from its binary or from its text. Whatever is opened is valid. -/

namespace UnitFoundry.Wasm

/-- A module that breaks no rule. -/
structure ValidModule where
  /-- The module. -/
  module : Module
  /-- It breaks no rule. -/
  valid : module.validate = .ok ()
deriving DecidableEq

/-- What is made of a text: a module, or a binary still to be read. -/
inductive Image where
  /-- A module. -/
  | module (m : Module)
  /-- A binary. -/
  | binary (bytes : ByteArray)

-- an array of bytes is compared by its elements: what compares it otherwise depends on imports
instance : DecidableEq Image
  | .module a, .module b => decidable_of_iff (a = b) (by simp)
  | .binary a, .binary b => decidable_of_iff (a.data = b.data) (by simp [ByteArray.ext_iff])
  | .module _, .binary _ => isFalse (by simp)
  | .binary _, .module _ => isFalse (by simp)

/-- The module, if it is valid. -/
def Module.validated (m : Module) : Except Fault ValidModule :=
  match h : m.validate with
  | .ok () => .ok ⟨m, h⟩
  | .error f => .error (.invalid f)

/-- Opens a binary. -/
def ValidModule.ofBinary (bytes : ByteArray) : Except Fault ValidModule := do
  (← Module.decode bytes).validated

/-- Opens an image. -/
def Image.load : Image → Except Fault ValidModule
  | .module m => m.validated
  | .binary bytes => ValidModule.ofBinary bytes

/-- The bytes of an image. -/
def Image.bytes : Image → ByteArray
  | .module m => m.encode
  | .binary bytes => bytes

/-- The image that a text describes. -/
def Text.Source.image : Text.Source → Image
  | .module m => .module m
  | .binary bytes => .binary (ByteArray.mk bytes.toArray)

/-- Opens a text. -/
def ValidModule.ofText (s : String) : Except Fault ValidModule :=
  match Text.Source.read s with
  | .error f => .error (.text f)
  | .ok source => source.image.load

/-- The first bytes of every binary. -/
def magic : List UInt8 := [0x00, 0x61, 0x73, 0x6D]

/-- Opens a binary, or a text in place of one. -/
def ValidModule.ofBytes (bytes : ByteArray) : Except Fault ValidModule :=
  if magic.isPrefixOf bytes.toList then ValidModule.ofBinary bytes
  else
    match String.fromUTF8? bytes with
    | some s => ValidModule.ofText s
    | none => .error (.text .badName)

/-- Opens what an image holds, which is a text if it is no module and does not start as a binary
does. -/
def Image.read : Image → Except Fault ValidModule
  | .module m => m.validated
  | .binary bytes => ValidModule.ofBytes bytes

end UnitFoundry.Wasm
