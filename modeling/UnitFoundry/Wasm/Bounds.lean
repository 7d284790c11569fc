/-! # How much a module may hold

A module that exceeds one of these bounds is refused, however well formed it is. -/

namespace UnitFoundry.Wasm

/-- The greatest size of a memory, in pages. -/
def pageLimit : Nat := 65536

/-- The greatest size of a table that its type may mention. -/
def tableSizeLimit : Nat := 0xFFFFFFFF

/-- The greatest size that a table may have at the start. -/
def tableStartLimit : Nat := 10000000

/-- The greatest number of types in a binary. -/
def typeCountLimit : Nat := 1000000

/-- The greatest number of imports. -/
def importCountLimit : Nat := 100000

/-- The greatest number of functions. -/
def functionCountLimit : Nat := 1000000

/-- The greatest number of globals. -/
def globalCountLimit : Nat := 1000000

/-- The greatest number of exports. -/
def exportCountLimit : Nat := 100000

/-- The greatest number of segments of references, and of segments of bytes. -/
def segmentCountLimit : Nat := 100000

/-- The greatest number of tables. -/
def tableCountLimit : Nat := 100

/-- The greatest number of parameters and of results of a function. -/
def arityLimit : Nat := 1000

/-- The greatest number of locals of a function, its parameters included. -/
def localCountLimit : Nat := 50000

/-- What the sizes of the types of all imports and exports stay below together. -/
def typeSizeLimit : Nat := 1000000

/-- The greatest length of a name, in bytes. -/
def nameLimit : Nat := 100000

end UnitFoundry.Wasm
