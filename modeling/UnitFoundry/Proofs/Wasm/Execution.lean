import UnitFoundry.Wasm.Exec

/-! # What running code keeps

Code may set globals, but it neither moves nor removes anything, and whatever it changes keeps its
type. So a store only ever grows, as far as types go, whether a run comes to its results or traps.

* **`Wasm.Store.Extends`**: a store has whatever another has, at the same address and of the same
  type.
* **`Wasm.extends_call`**: a call leads to a store that extends the one before it. -/

namespace UnitFoundry.Wasm

/-! ## Stores that extend others -/

/-- Whether a store has whatever another has, at the same address and of the same type. -/
def Store.Extends (s s' : Store) : Prop :=
  ∀ e t, s.externType? e = some t → s'.externType? e = some t

namespace Store.Extends

variable {s s' s'' : Store}

theorem refl (s : Store) : s.Extends s :=
  fun _ _ h => h

theorem trans (h : s.Extends s') (h' : s'.Extends s'') : s.Extends s'' :=
  fun e t he => h' e t (h e t he)

/-- Setting a global does not change its type. -/
theorem setGlobal (s : Store) (address : Nat) (v : Value) : s.Extends (s.setGlobal address v) := by
  rintro ⟨kind, a⟩ t h
  cases kind with
  | func | table | memory => exact h
  | global =>
      obtain ⟨g, hg, rfl⟩ := Option.map_eq_some_iff.1 h
      by_cases ha : address = a
      · subst ha
        simp [externType?, Store.setGlobal, Array.getElem?_modify, hg]
      · simp [externType?, Store.setGlobal, Array.getElem?_modify, ha, hg]

end Store.Extends

/-! ## Runs that keep types -/

/-- Whether a run leads from each store to one that extends it. -/
def KeepsTypes {α : Type} (x : Run α) : Prop :=
  ∀ s : Store, s.Extends (x s).2

namespace KeepsTypes

variable {α β : Type}

theorem pure (a : α) : KeepsTypes (Pure.pure a : Run α) :=
  fun s => .refl s

theorem throw (t : Trap) : KeepsTypes (MonadExcept.throw t : Run α) :=
  fun s => .refl s

theorem lift (x : Except Trap α) : KeepsTypes (liftM x : Run α) := by
  intro s
  cases x <;> exact .refl s

theorem get : KeepsTypes (MonadState.get : Run Store) :=
  fun s => .refl s

theorem setGlobal (address : Nat) (v : Value) :
    KeepsTypes (modify (·.setGlobal address v) : Run Unit) :=
  fun s => .setGlobal s address v

/-- One run after another keeps types if both do. -/
theorem bind {x : Run α} {f : α → Run β} (hx : KeepsTypes x) (hf : ∀ a, KeepsTypes (f a)) :
    KeepsTypes (x >>= f) := by
  intro s
  have hfirst : s.Extends (x s).2 := hx s
  show s.Extends (ExceptT.bindCont f (x s).1 (x s).2).2
  cases hr : (x s).1 with
  | ok a => exact hfirst.trans (hf a _)
  | error t => exact hfirst

theorem foldlM {γ : Type} {f : β → γ → Run β} (hf : ∀ b c, KeepsTypes (f b c)) (cs : List γ)
    (b : β) : KeepsTypes (cs.foldlM f b) := by
  induction cs generalizing b with
  | nil => exact pure b
  | cons c cs ih =>
      rw [List.foldlM_cons]
      exact (hf b c).bind ih

end KeepsTypes

/-! ## Calls -/

/-- An instruction keeps types if the calls that it makes do. -/
theorem keepsTypes_runInstr {callee : Nat → List Value → Run (List Value)}
    (hcallee : ∀ address arguments, KeepsTypes (callee address arguments)) (a : Addresses)
    (locals operands : List Value) (i : Instr Nat) :
    KeepsTypes (runInstr callee a locals operands i) := by
  cases i with
  | unreachable => exact .throw _
  | nop => exact .pure _
  | drop =>
      cases operands with
      | nil => exact .throw _
      | cons v rest => exact .pure _
  | localGet i =>
      rw [runInstr]
      split
      · exact .pure _
      · exact .throw _
  | globalGet i =>
      refine .bind .get fun s => ?_
      split
      · exact .pure _
      · exact .throw _
  | globalSet i =>
      refine .bind .get fun s => ?_
      split
      · exact .bind (.setGlobal _ _) fun _ => .pure _
      · exact .throw _
  | call i =>
      refine .bind .get fun s => ?_
      split
      · exact .bind (hcallee _ _) fun _ => .pure _
      · exact .throw _
  | i32Const v => exact .pure _
  | i64Const v => exact .pure _
  | refNull t => exact .pure _
  | numeric op =>
      -- only two operands or more are enough
      obtain _ | ⟨b, _ | ⟨a, rest⟩⟩ := operands
      · exact .throw _
      · exact .throw _
      · exact .bind (.lift _) fun _ => .pure _

theorem keepsTypes_callWithin (depth address : Nat) (arguments : List Value) :
    KeepsTypes (callWithin depth address arguments) := by
  induction depth generalizing address arguments with
  | zero => exact .throw _
  | succ depth ih =>
      refine .bind .get fun s => ?_
      split
      · exact .throw _
      · exact .throw _
      · exact .throw _
      · refine .bind ?_ fun _ => .pure _
        exact .foldlM (fun operands i => keepsTypes_runInstr ih _ _ operands i) _ _

/-- **A call leads to a store that extends the one before it**, whether it traps or not. -/
theorem extends_call (address : Nat) (arguments : List Value) (s : Store) :
    s.Extends (call address arguments s).2 := by
  have hkeeps : KeepsTypes (call address arguments) :=
    .bind .get fun _ => keepsTypes_callWithin _ _ _
  exact hkeeps s

end UnitFoundry.Wasm
