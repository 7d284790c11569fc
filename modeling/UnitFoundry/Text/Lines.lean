/-! # Lines of a text

A line ends at a newline, and a carriage return directly before that newline belongs to the line
end. A final newline ends the last line; it does not open an empty one. -/

namespace UnitFoundry.Text

/-- The line whose characters stand in `acc`, last one first, once its newline has been read. -/
def endedLine : List Char → List Char
  | '\r' :: acc => acc.reverse
  | acc => acc.reverse

/-- The lines of a text. -/
def lines (cs : List Char) : List (List Char) :=
  go [] cs
where
  /-- Reads on with the characters of the current line in `acc`, last one first. -/
  go (acc : List Char) : List Char → List (List Char)
    -- a line without a newline keeps its carriage return
    | [] => if acc.isEmpty then [] else [acc.reverse]
    | c :: cs => if c = '\n' then endedLine acc :: go [] cs else go (c :: acc) cs

@[simp] theorem lines_nil : lines [] = [] := rfl

end UnitFoundry.Text
