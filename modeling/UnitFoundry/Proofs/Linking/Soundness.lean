import UnitFoundry.Proofs.Linking.Order
import UnitFoundry.Proofs.Wasm.Engine
import UnitFoundry.Unit.Loaded

/-! # Linking is sound

Whatever the graph of imports looks like, linking for a module comes to an end if instantiating its
files does. If it succeeds, it has linked the files of references to which the imports of the module
lead, each once and after all that it imports from. So it cannot succeed if one of these files
imports from itself, directly or through others. All that is asked of the engine is that nothing is
instantiated without its imports, and that registering defines what an instance provides.

* **`Linking.linkFor_eq_endless_iff`**: linking only goes on forever while a file is instantiated.
* **`Linking.exists_order_of_linkFor`**: what has been linked, and how.
* **`Linking.mem_before_of_linkFor`**: what a reference imports from stands before it.
* **`Linking.linkFor_sound`**: what it means that linking succeeds, and when it cannot. -/

namespace UnitFoundry.Linking

open Relation

variable {E : Engine} {files : Files} {references : List Reference} {m : E.Module}
  {l : Linked E}

/-! ## The two loops -/

/-- What has been opened is linked. -/
theorem linkFor_of_gather {os : List (Opened E)}
    (h : gather files references (E.importNames m) [] = .ok os) :
    linkFor files references m = linkAll references .host os := by
  rw [linkFor, h]

/-- Linking fails if opening does. -/
theorem linkFor_of_gather_eq_error {f : LoadFault}
    (h : gather (E := E) files references (E.importNames m) [] = .error f) :
    linkFor files references m = .error f := by
  rw [linkFor, h]

/-- Linking succeeds just if both loops do. -/
theorem exists_of_linkFor (h : linkFor files references m = .ok l) : ∃ os,
    gather files references (E.importNames m) [] = .ok os ∧
      linkAll references .host os = .ok l := by
  cases hgather : gather (E := E) files references (E.importNames m) [] with
  | error f =>
      rw [linkFor_of_gather_eq_error hgather] at h
      exact absurd h (by simp)
  | ok os => exact ⟨os, rfl, (linkFor_of_gather hgather).symm.trans h⟩

/-- Linking succeeds if both loops come to their end. -/
theorem linkFor_eq_ok_iff : linkFor files references m = .ok l ↔
    ∃ os, ReflTransGen (GatherStep files references) (E.importNames m, []) ([], os) ∧
      ReflTransGen (LinkStep references) (.host, os) (l, []) := by
  constructor
  · intro h
    obtain ⟨os, hgather, hlink⟩ := exists_of_linkFor h
    exact ⟨os, gather_eq_ok_iff.1 hgather, linkAll_eq_ok_iff.1 hlink⟩
  · rintro ⟨os, hgather, hlink⟩
    rw [linkFor_of_gather (gather_eq_ok_iff.2 hgather)]
    exact linkAll_eq_ok_iff.2 hlink

/-- **Linking only goes on forever while a file is instantiated.** -/
theorem linkFor_eq_endless_iff : linkFor files references m = .endless ↔
    ∃ os l o, gather files references (E.importNames m) [] = .ok os ∧ Takes references os l o ∧
      E.instantiate l.linker l.store o.module = .endless := by
  constructor
  · intro h
    cases hgather : gather (E := E) files references (E.importNames m) [] with
    | error f =>
        rw [linkFor_of_gather_eq_error hgather] at h
        exact absurd h (by simp)
    | ok os =>
        rw [linkFor_of_gather hgather] at h
        obtain ⟨l, first, rest, hrun, hendless⟩ := linkAll_eq_endless_iff.1 h
        exact ⟨os, l, _, rfl, ⟨first, rest, hrun, rfl⟩, hendless⟩
  · rintro ⟨os, l, o, hgather, ⟨first, rest, hrun, rfl⟩, hendless⟩
    rw [linkFor_of_gather hgather]
    exact linkAll_eq_endless_iff.2 ⟨l, first, rest, hrun, hendless⟩

/-! ## What has been linked -/

/-- **What has been linked for a module** are the files of references to which its imports lead,
each opened from its path, once and in an order in which they can be linked. -/
theorem exists_order_of_linkFor (hnodup : (references.map (·.name)).Nodup)
    (h : linkFor files references m = .ok l) : ∃ order : List (Opened E),
    order.foldlM Linked.link .host = .ok l ∧ l.names = order.map (·.name) ∧ l.names.Nodup ∧
      (∀ o ∈ order, ∃ path, IsFileAt references o.name path ∧
        E.ofFile files path = .ok o.module) ∧
      ∀ name, name ∈ l.names ↔ Reaches files references m name ∧ IsFile references name := by
  obtain ⟨os, hgather, hlink⟩ := exists_of_linkFor h
  obtain ⟨order, hperm, hfold⟩ := exists_order_of_linkAll hlink
  have hg := gathering_of_gather hgather
  have hnames : l.names = order.map (·.name) := names_of_foldlM hfold
  have hnamesPerm : l.names.Perm (os.map (·.name)) := hnames ▸ hperm.map _
  refine ⟨order, hfold, hnames, hnamesPerm.nodup_iff.2 hg.nodup, fun o ho => ?_, fun name => ?_⟩
  · obtain ⟨path, hfile, hopen⟩ := hg.opened o (hperm.mem_iff.1 ho)
    exact ⟨path, isFileAt_of_file? hfile, hopen⟩
  · rw [hnamesPerm.mem_iff]
    exact mem_gather_iff hnodup hgather name

/-- A reference is linked after each file reference that it imports from. -/
theorem mem_before_of_linkFor (hneeds : E.NeedsImports) (hregisters : E.Registers)
    (hnodup : (references.map (·.name)).Nodup)
    (hhost : ∀ r ∈ references, r.isHost = false → ¬E.Predefines r.name)
    (h : linkFor files references m = .ok l) {before after : List String} {name target : String}
    (hsplit : l.names = before ++ name :: after)
    (hdepends : DependsOn E files references name target) : target ∈ before := by
  obtain ⟨order, hfold, hnames, -, hopened, -⟩ := exists_order_of_linkFor hnodup h
  obtain ⟨⟨path, d, hat, hopen, hmem⟩, path', r', hr', rfl, hpath'⟩ := hdepends
  rw [hnames] at hsplit
  obtain ⟨os₁, os₂, horder, rfl, htail⟩ := List.map_eq_append_iff.1 hsplit
  obtain ⟨o, os₃, rfl, rfl, rfl⟩ := List.map_eq_cons_iff.1 htail
  rw [horder] at hfold hopened
  obtain ⟨l₁, l₂, hbefore, hlink, -⟩ := exists_link_of_foldlM hfold
  -- the module that is linked is the one of the file that the name stands for
  obtain ⟨path₁, hat₁, hopen₁⟩ := hopened o (List.mem_append_right _ List.mem_cons_self)
  have hpath := (file?_eq_some_iff hnodup).2 hat
  rw [(file?_eq_some_iff hnodup).2 hat₁] at hpath
  obtain rfl := Option.some.inj hpath
  obtain rfl := Except.ok.inj (hopen.symm.trans hopen₁)
  have hclosed := closed_host.foldlM hregisters hbefore
  obtain hpre | hlinked := mem_names_of_link hclosed hneeds hlink hmem
  · exact absurd hpre (hhost r' hr' (Reference.isHost_eq_false_of_path? hpath'))
  · rw [names_of_foldlM hbefore] at hlinked
    exact hlinked

/-- Along the imports of what has been linked, positions in the order go down. -/
theorem idxOf_lt_of_transGen (hneeds : E.NeedsImports) (hregisters : E.Registers)
    (hnodup : (references.map (·.name)).Nodup)
    (hhost : ∀ r ∈ references, r.isHost = false → ¬E.Predefines r.name)
    (h : linkFor files references m = .ok l) {name target : String} (hname : name ∈ l.names)
    (hdepends : TransGen (DependsOn E files references) name target) :
    l.names.idxOf target < l.names.idxOf name ∧ target ∈ l.names := by
  have hstep : ∀ {a b}, a ∈ l.names → DependsOn E files references a b →
      l.names.idxOf b < l.names.idxOf a ∧ b ∈ l.names := by
    intro a b ha hab
    obtain ⟨before, after, hsplit, hnew⟩ := List.eq_append_cons_of_mem ha
    have hb := mem_before_of_linkFor hneeds hregisters hnodup hhost h hsplit hab
    refine ⟨?_, hsplit ▸ List.mem_append_left _ hb⟩
    rw [hsplit, List.idxOf_append_of_mem hb, List.idxOf_append_of_notMem hnew,
      List.idxOf_cons_self]
    exact List.idxOf_lt_length_of_mem hb
  induction hdepends with
  | single hab => exact hstep hname hab
  | tail _ hbc ih =>
      obtain ⟨hlt, hmem⟩ := ih
      obtain ⟨hlt', hmem'⟩ := hstep hmem hbc
      exact ⟨Nat.lt_trans hlt' hlt, hmem'⟩

/-- **Linking does not succeed on a cycle.** -/
theorem linkFor_ne_ok (hneeds : E.NeedsImports) (hregisters : E.Registers)
    (hnodup : (references.map (·.name)).Nodup)
    (hhost : ∀ r ∈ references, r.isHost = false → ¬E.Predefines r.name)
    {name : String} (hreach : Reaches files references m name)
    (hcycle : TransGen (DependsOn E files references) name name) :
    linkFor files references m ≠ .ok l := by
  intro h
  -- the reference would be linked, and then stand before itself
  obtain ⟨-, -, -, -, -, hmem⟩ := exists_order_of_linkFor hnodup h
  obtain ⟨before, -, hlast⟩ := TransGen.tail'_iff.1 hcycle
  have hname : name ∈ l.names := (hmem name).2 ⟨hreach, hlast.2⟩
  obtain ⟨hlt, -⟩ := idxOf_lt_of_transGen hneeds hregisters hnodup hhost h hname hcycle
  exact absurd hlt (Nat.lt_irrefl _)

/-- A unit is not loaded if linking fails. -/
theorem load_eq_error {f : LoadFault} {image : E.Image} (himage : E.load image = .ok m)
    (h : linkFor files references m = .error f) (unit : String) :
    LoadedUnit.load files unit image references = .error f := by
  rw [LoadedUnit.load, himage]
  simp only [h]

/-- Where instantiating always ends, loading does. -/
theorem load_ne_endless (hends : ∀ linker store d, E.instantiate linker store d ≠ .endless)
    (unit : String) (image : E.Image) :
    LoadedUnit.load files unit image references ≠ .endless := by
  rw [LoadedUnit.load]
  cases E.load image with
  | error reason => simp
  | ok m =>
      cases hlink : linkFor files references m with
      | error f => simp [hlink]
      | endless =>
          obtain ⟨_, _, _, -, -, hendless⟩ := linkFor_eq_endless_iff.1 hlink
          exact absurd hendless (hends _ _ _)
      | ok l =>
          cases hinst : E.instantiate l.linker l.store m with
          | endless => exact absurd hinst (hends _ _ _)
          | error f => simp [hlink, hinst]
          | ok u => simp [hlink, hinst]

/-- **Linking is sound for every graph of imports.** Neither of its loops goes on forever, so
linking ends just if instantiating each file does when its turn has come. It succeeds if both loops
come to their end. Then what has been linked are the files of references to which the imports of the
module lead, each instantiated once and after every file that it imports from. If one of these files
lies on a cycle of imports and linking ends, linking and loading fail. -/
theorem linkFor_sound (E : Engine) (hneeds : E.NeedsImports) (hregisters : E.Registers)
    (files : Files) (references : List Reference) (m : E.Module)
    (hnodup : (references.map (·.name)).Nodup)
    (hhost : ∀ r ∈ references, r.isHost = false → ¬E.Predefines r.name) :
    (WellFounded fun t s => GatherStep (E := E) files references s t) ∧
    (WellFounded fun t s => LinkStep (E := E) references s t) ∧
    (linkFor files references m ≠ .endless ↔
      ∀ os l o, gather files references (E.importNames m) [] = .ok os → Takes references os l o →
        E.instantiate l.linker l.store o.module ≠ .endless) ∧
    (∀ l, linkFor files references m = .ok l ↔
      ∃ os, ReflTransGen (GatherStep files references) (E.importNames m, []) ([], os) ∧
        ReflTransGen (LinkStep references) (.host, os) (l, [])) ∧
    (∀ l, linkFor files references m = .ok l →
      (∀ name, name ∈ l.names ↔ Reaches files references m name ∧ IsFile references name) ∧
      l.names.Nodup ∧
      (∀ before name after, l.names = before ++ name :: after →
        ∀ target, DependsOn E files references name target → target ∈ before) ∧
      ∃ order : List (Opened E), l.names = order.map (·.name) ∧
        order.foldlM Linked.link .host = .ok l ∧
        ∀ o ∈ order, ∃ path, IsFileAt references o.name path ∧
          E.ofFile files path = .ok o.module) ∧
    ∀ name, Reaches files references m name →
      TransGen (DependsOn E files references) name name →
      linkFor files references m ≠ .endless →
      ∃ f, linkFor files references m = .error f ∧ ∀ unit image, E.load image = .ok m →
        LoadedUnit.load files unit image references = .error f := by
  refine ⟨wellFounded_gatherStep E files references, wellFounded_linkStep E references, ?_,
    fun l => linkFor_eq_ok_iff, fun l h => ?_, fun name hreach hcycle hends => ?_⟩
  · rw [ne_eq, linkFor_eq_endless_iff]
    exact ⟨fun h os l o hgather htakes hendless => h ⟨os, l, o, hgather, htakes, hendless⟩,
      fun h ⟨os, l, o, hgather, htakes, hendless⟩ => h os l o hgather htakes hendless⟩
  · obtain ⟨order, hfold, hnames, hdistinct, hopened, hmem⟩ := exists_order_of_linkFor hnodup h
    exact ⟨hmem, hdistinct, fun before name after hsplit target =>
      mem_before_of_linkFor hneeds hregisters hnodup hhost h hsplit, order, hnames, hfold, hopened⟩
  · cases h : linkFor files references m with
    | error f => exact ⟨f, rfl, fun unit image himage => load_eq_error himage h unit⟩
    | endless => exact absurd h hends
    | ok l => exact absurd h (linkFor_ne_ok hneeds hregisters hnodup hhost hreach hcycle)

/-! ## Two files that import from each other -/

/-- A module that imports from the first of two files. -/
def pingUser : Wasm.ValidModule :=
  ⟨.importing "ping" "f", by decide +kernel⟩

/-- A module that imports from the second of two files. -/
def pongUser : Wasm.ValidModule :=
  ⟨.importing "pong" "f", by decide +kernel⟩

/-- Two files that import from each other. -/
def mutualFiles : Files :=
  { nodes := [(["ping.wasm"], .file pongUser.module.encode),
      (["pong.wasm"], .file pingUser.module.encode)] }

/-- The references to the two files. -/
def mutualReferences : List Reference :=
  [.ofFile mutualFiles "ping" "/ping.wasm", .ofFile mutualFiles "pong" "/pong.wasm"]

theorem ofFile_mutual : Wasm.engine.ofFile mutualFiles "/ping.wasm" = .ok pongUser ∧
    Wasm.engine.ofFile mutualFiles "/pong.wasm" = .ok pingUser := by
  decide +kernel

theorem isFileAt_mutual : IsFileAt mutualReferences "ping" "/ping.wasm" ∧
    IsFileAt mutualReferences "pong" "/pong.wasm" := by
  rw [← file?_eq_some_iff (by decide), ← file?_eq_some_iff (by decide)]
  decide +kernel

theorem transGen_mutual :
    TransGen (DependsOn Wasm.engine mutualFiles mutualReferences) "ping" "ping" := by
  have hforth : DependsOn Wasm.engine mutualFiles mutualReferences "ping" "pong" :=
    ⟨⟨_, pongUser, isFileAt_mutual.1, ofFile_mutual.1, List.mem_cons_self⟩, _, isFileAt_mutual.2⟩
  have hback : DependsOn Wasm.engine mutualFiles mutualReferences "pong" "ping" :=
    ⟨⟨_, pingUser, isFileAt_mutual.2, ofFile_mutual.2, List.mem_cons_self⟩, _, isFileAt_mutual.1⟩
  exact .tail (.single hforth) hback

/-! ## Two files that import from a third -/

/-- A module that exports a constant. -/
def constantModule : Wasm.ValidModule :=
  ⟨.exporting "f", by decide +kernel⟩

/-- A module that passes the constant on. -/
def passingModule : Wasm.ValidModule :=
  ⟨.passing "base" "f", by decide +kernel⟩

/-- A module that imports what two files pass on. -/
def diamondUser : Wasm.ValidModule :=
  ⟨{ imports := [⟨"left", "f", .global ⟨false, .num .i32⟩⟩,
      ⟨"right", "f", .global ⟨false, .num .i32⟩⟩] }, by decide +kernel⟩

/-- Two files that import from a third. -/
def diamondFiles : Files :=
  { nodes := [(["base.wasm"], .file constantModule.module.encode),
      (["left.wasm"], .file passingModule.module.encode),
      (["right.wasm"], .file passingModule.module.encode)] }

/-- The references to the three files. -/
def diamondReferences : List Reference :=
  [.ofFile diamondFiles "left" "/left.wasm", .ofFile diamondFiles "right" "/right.wasm",
    .ofFile diamondFiles "base" "/base.wasm"]

/-- The three files, opened. -/
def diamondOpened : List (Opened Wasm.engine) :=
  [⟨"left", passingModule⟩, ⟨"right", passingModule⟩, ⟨"base", constantModule⟩]

theorem gather_diamond : gather diamondFiles diamondReferences
    (Wasm.engine.importNames diamondUser) [] = .ok diamondOpened := by
  have hleft : file? diamondReferences "left" = some "/left.wasm" := by decide +kernel
  have hright : file? diamondReferences "right" = some "/right.wasm" := by decide +kernel
  have hbase : file? diamondReferences "base" = some "/base.wasm" := by decide +kernel
  have hopen : Wasm.engine.ofFile diamondFiles "/left.wasm" = .ok passingModule ∧
      Wasm.engine.ofFile diamondFiles "/right.wasm" = .ok passingModule ∧
      Wasm.engine.ofFile diamondFiles "/base.wasm" = .ok constantModule := by
    decide +kernel
  -- the third file is opened for the first one, and found again for the second
  exact gather_eq_ok_iff.2 (.head (.opens hleft rfl hopen.1)
    (.head (.opens hright (by decide) hopen.2.1)
      (.head (.opens hbase (by decide) hopen.2.2) (.single (.again (by decide))))))

theorem exists_linkFor_diamond : ∃ l, linkFor diamondFiles diamondReferences
    (E := Wasm.engine) diamondUser = .ok l ∧ l.names = ["base", "left", "right"] := by
  have hrun : (linkAll diamondReferences .host diamondOpened).toOption.map (·.names) =
      some ["base", "left", "right"] := by
    decide +kernel
  obtain ⟨l, hl, hnames⟩ := Option.map_eq_some_iff.1 hrun
  rw [linkFor_of_gather gather_diamond]
  exact ⟨l, Outcome.toOption_eq_some_iff.1 hl, hnames⟩

/-- Of two files that import from each other, none can be linked. Of two files that import from a
third, both can, and the third is linked once, before them. -/
theorem linkFor_mutual :
    ((mutualReferences.map (·.name)).Nodup ∧
      (∀ r ∈ mutualReferences, r.isHost = false → ¬Wasm.engine.Predefines r.name) ∧
      ∃ f, linkFor mutualFiles mutualReferences (E := Wasm.engine) pingUser = .error f) ∧
    (diamondReferences.map (·.name)).Nodup ∧
    (∀ r ∈ diamondReferences, r.isHost = false → ¬Wasm.engine.Predefines r.name) ∧
    ∃ l, linkFor diamondFiles diamondReferences (E := Wasm.engine) diamondUser = .ok l ∧
      l.names = ["base", "left", "right"] ∧
      (∀ name ∈ l.names, Reaches diamondFiles diamondReferences (E := Wasm.engine) diamondUser
        name) ∧
      ∃ order : List (Opened Wasm.engine), l.names = order.map (·.name) ∧
        order.foldlM Linked.link .host = .ok l := by
  have hnew : ∀ r, r ∈ mutualReferences ∨ r ∈ diamondReferences →
      ∀ d ∈ Wasm.Wasi.definitions, d.1.1 ≠ r.name := by
    simp only [← List.mem_append]
    decide +kernel
  have hmutual : ∀ r ∈ mutualReferences, r.isHost = false → ¬Wasm.engine.Predefines r.name :=
    fun r hr _ => Wasm.not_predefines (hnew r (.inl hr))
  have hdiamond : ∀ r ∈ diamondReferences, r.isHost = false → ¬Wasm.engine.Predefines r.name :=
    fun r hr _ => Wasm.not_predefines (hnew r (.inr hr))
  have hdistinct : (mutualReferences.map (·.name)).Nodup := by decide
  have hdistinct' : (diamondReferences.map (·.name)).Nodup := by decide
  obtain ⟨-, -, hends, -, -, hcycle⟩ := linkFor_sound Wasm.engine Wasm.engine_needsImports
    Wasm.engine_registers mutualFiles mutualReferences pingUser hdistinct hmutual
  obtain ⟨-, -, -, -, hlinked, -⟩ := linkFor_sound Wasm.engine Wasm.engine_needsImports
    Wasm.engine_registers diamondFiles diamondReferences diamondUser hdistinct' hdiamond
  obtain ⟨f, hf, -⟩ := hcycle "ping" (.direct List.mem_cons_self) transGen_mutual
    (hends.2 fun os l o _ _ => Wasm.engine_instantiate_ne_endless)
  obtain ⟨l, hl, hnames⟩ := exists_linkFor_diamond
  obtain ⟨hmem, -, -, order, horder, hfold, -⟩ := hlinked l hl
  exact ⟨⟨hdistinct, hmutual, f, hf⟩, hdistinct', hdiamond, l, hl, hnames,
    fun name hname => ((hmem name).1 hname).1, order, horder, hfold⟩

end UnitFoundry.Linking
