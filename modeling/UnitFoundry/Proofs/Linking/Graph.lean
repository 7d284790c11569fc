import Mathlib.Data.List.Nodup
import UnitFoundry.Unit.Linking

/-! # The graph of imports

References that stand for files import from module names, and some of these are again the names of
references that stand for files. Reading this graph off a list of references does not ask which
loop walks it.

* **`Linking.Reaches`**: the module names that the imports of a module lead to.
* **`Linking.DependsOn`**: the edges between references that stand for files.
* **`Linking.file?_eq_some_iff`**: with distinct names, the file that a module name stands for is
  that of the reference with the name. -/

namespace UnitFoundry.Linking

/-- Whether a module name is that of a reference to the file at a path. -/
def IsFileAt (references : List Reference) (name path : String) : Prop :=
  ∃ r ∈ references, r.name = name ∧ r.path? = some path

/-- Whether a module name is that of a reference to a file. -/
def IsFile (references : List Reference) (name : String) : Prop :=
  ∃ path, IsFileAt references name path

/-- Whether the file of a reference imports from a module name. -/
def Imports (E : Engine) (files : Files) (references : List Reference) (name target : String) :
    Prop :=
  ∃ path m, IsFileAt references name path ∧ E.ofFile files path = .ok m ∧
    target ∈ E.importNames m

/-- Whether the file of a reference imports from another reference to a file. -/
def DependsOn (E : Engine) (files : Files) (references : List Reference)
    (name target : String) : Prop :=
  Imports E files references name target ∧ IsFile references target

/-- The module names to which the imports of a module lead, through the files of references. -/
inductive Reaches {E : Engine} (files : Files) (references : List Reference) (m : E.Module) :
    String → Prop where
  /-- The module imports from the name. -/
  | direct {name : String} : name ∈ E.importNames m → Reaches files references m name
  /-- The file of a reference imports from the name. -/
  | next {name target : String} : Reaches files references m name →
    Imports E files references name target → Reaches files references m target

variable {files : Files} {references : List Reference} {name path : String}

/-! ## The file that a module name stands for -/

theorem isFileAt_of_file? (h : file? references name = some path) :
    IsFileAt references name path :=
  exists_mem_of_file?_eq_some h

/-- **With distinct names, a module name stands for the file of the reference with the name.** -/
theorem file?_eq_some_iff (hnodup : (references.map (·.name)).Nodup) :
    file? references name = some path ↔ IsFileAt references name path := by
  refine ⟨isFileAt_of_file?, ?_⟩
  rintro ⟨r, hr, rfl, hpath⟩
  have honly : ∀ r' ∈ references, r'.name = r.name → r' = r := fun r' hr' hname =>
    List.inj_on_of_nodup_map hnodup hr' hr hname
  -- a module of the host would be a second reference with the name
  have hhosted : isHosted references r.name = false := by
    rw [Bool.eq_false_iff]
    intro h
    obtain ⟨r', hr', hhost⟩ := List.any_eq_true.1 h
    rw [Bool.and_eq_true, decide_eq_true_eq] at hhost
    have hfile := Reference.isHost_eq_false_of_path? hpath
    rw [honly r' hr' hhost.2] at hhost
    exact Bool.noConfusion (hfile.symm.trans hhost.1)
  rw [file?, hhosted]
  cases hfind : references.find? (·.name = r.name) with
  | none =>
      have hnone := List.find?_eq_none.1 hfind r hr
      exact absurd (decide_eq_true rfl) hnone
  | some r' =>
      have hmem := List.mem_of_find?_eq_some hfind
      rw [honly r' hmem (Reference.name_of_find?_eq_some hfind)]
      exact hpath

end UnitFoundry.Linking
