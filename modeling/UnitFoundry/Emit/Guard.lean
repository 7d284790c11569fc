import UnitFoundry.Emit.Writer

/-! # Guards

A guard remembers how many blocks were open once its own block had been opened. Its release
closes the innermost block, but only while at least that many blocks are open: a block that has
been closed by hand is not closed again, and the blocks around it are left alone. -/

namespace UnitFoundry.Emit

/-- The duty to close a block. -/
structure Guard where
  /-- The number of open blocks, the guard's own included. -/
  depth : Nat
  /-- The text that trails the delimiter. -/
  trailing : String := ""
deriving DecidableEq, Repr

/-- How a guarded block is opened. -/
inductive Opening where
  /-- By a line of its own, or by none. -/
  | scoped (declaration : Option String)
  /-- By the declaration of a type. -/
  | typed (declaration : String)
  /-- By the declaration of a member. -/
  | member (m : Member)
deriving DecidableEq, Repr

/-- Writes what opens a block and opens it. An empty declaration counts as none. -/
def Opening.apply (w : Writer) : Opening → Writer
  | .scoped none => w.start
  | .scoped (some d) | .typed d => if d.isEmpty then w.start else w.openUnder d
  | .member m =>
    let d := m.declaration w.dialect
    (d.attributes.foldl Writer.line w).openUnder d.header

/-- The guard with a text that trails its delimiter, in place of any other. -/
def Guard.withTrailing (g : Guard) (trailing : String) : Guard :=
  { g with trailing }

/-- Opens a guarded block. -/
def Writer.guarded (w : Writer) (o : Opening) (trailing : String) : Writer × Guard :=
  let w := o.apply w
  (w, Guard.withTrailing ⟨w.level, ""⟩ trailing)

/-- Closes the innermost block for a guard whose block is still open. -/
def Guard.release (g : Guard) (w : Writer) : Except EmitError Writer :=
  if w.level < g.depth then .error .closeWithoutOpen else w.finish g.trailing

end UnitFoundry.Emit
