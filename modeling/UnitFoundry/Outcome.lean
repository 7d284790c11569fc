/-! # Outcomes of running code

Code that is run comes to a result, or it fails, or it never ends. Whoever waits for code that never
ends does not end either, so what never ends stays apart from failures. -/

namespace UnitFoundry

/-- What comes of running code. -/
inductive Outcome (ε α : Type) where
  /-- It ends with a result. -/
  | ok (a : α)
  /-- It fails. -/
  | error (e : ε)
  /-- It never ends. -/
  | endless
deriving DecidableEq, Repr

namespace Outcome

variable {ε ε' α β : Type}

/-- One run after another. -/
def bind (x : Outcome ε α) (f : α → Outcome ε β) : Outcome ε β :=
  match x with
  | .ok a => f a
  | .error e => .error e
  | .endless => .endless

instance : Monad (Outcome ε) where
  pure := .ok
  bind := .bind

instance : LawfulMonad (Outcome ε) :=
  LawfulMonad.mk' _ (fun x => by cases x <;> rfl) (fun _ _ => rfl) fun x _ _ => by cases x <;> rfl

/-- The outcome with another error in place of an error. -/
def mapError (f : ε → ε') : Outcome ε α → Outcome ε' α
  | .ok a => .ok a
  | .error e => .error (f e)
  | .endless => .endless

/-- What always ends is an outcome. -/
def ofExcept : Except ε α → Outcome ε α
  | .ok a => .ok a
  | .error e => .error e

/-- The result, if there is one. -/
def toOption : Outcome ε α → Option α
  | .ok a => some a
  | _ => none

/-- Two runs come to a result just if the first one does and the second one does from there. -/
theorem bind_eq_ok_iff {x : Outcome ε α} {f : α → Outcome ε β} {b : β} :
    x >>= f = .ok b ↔ ∃ a, x = .ok a ∧ f a = .ok b := by
  cases x with
  | ok a => exact ⟨fun h => ⟨a, rfl, h⟩, fun ⟨_, ha, h⟩ => Outcome.ok.inj ha ▸ h⟩
  | error e => exact ⟨fun h => (nomatch h), fun ⟨_, ha, _⟩ => (nomatch ha)⟩
  | endless => exact ⟨fun h => (nomatch h), fun ⟨_, ha, _⟩ => (nomatch ha)⟩

theorem toOption_eq_some_iff {x : Outcome ε α} {a : α} : x.toOption = some a ↔ x = .ok a := by
  cases x <;> simp [toOption]

end Outcome

end UnitFoundry
