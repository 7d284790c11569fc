import UnitFoundry.Json.Printer
import UnitFoundry.Reference.Set

/-! # Reports on references

A report is a JSON object that lists the entries of a reference set and the units that could not
be located. -/

namespace UnitFoundry

open Json

/-- Where a reference comes from. -/
def Origin.report : Origin → Value
  | .file path => .ofMembers [("kind", .ofText "file"), ("path", .ofText path)]
  | .host => .ofMembers [("kind", .ofText "host")]

/-- A reference. -/
def Reference.report (r : Reference) : Value :=
  .ofMembers
    [("name", .ofText r.name), ("identity", .ofText r.identity), ("location", r.origin.report)]

/-- A unit that could not be located. -/
def Miss.report (m : Miss) : Value :=
  .ofMembers [("unit", .ofText m.unit), ("reason", .ofText m.reason)]

/-- A reference set. -/
def ReferenceSet.report (s : ReferenceSet) : Value :=
  .ofMembers
    [("entries", .array (s.entries.map Reference.report)),
     ("unresolved", .array (s.misses.map Miss.report))]

end UnitFoundry
