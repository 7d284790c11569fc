import UnitFoundry.Proofs.Generator.Names

/-! # The history of a generator

A generator is asked to reference units and to make units of sources, again and again, while files
come and go. Making a unit leaves the references alone, referencing one adds to them at the end,
and referencing one that cannot be used changes nothing.

* **`Resolver.resolve_eq_error_iff`**: why a unit cannot be resolved. The reasons are all at the
  unit itself; nothing that it references has a say.
* **`Generator.grows_after`**, **`Generator.size_after`**: what one request adds.
* **`Generator.references_run`**: what is known about the references after any requests. -/

namespace UnitFoundry

/-! ## Units that cannot be resolved -/

namespace Resolver

variable {r : Resolver} {files : Files} {u : UnitHandle} {e : ResolveError}

/-- Why a starting point cannot be used. -/
inductive Refuses (r : Resolver) (files : Files) (u : UnitHandle) : ResolveError → Prop where
  /-- It has no name. -/
  | unnamed (blank : Text.isBlankText u.name = true) : Refuses r files u .unnamed
  /-- No file is at its location. -/
  | notAFile {path : String} (named : Text.isBlankText u.name = false)
      (location : u.location = some path) (absent : files.isFile path = false) :
      Refuses r files u (.notAFile u.name path)
  /-- It does not tell what it references, and neither does its file. -/
  | uninspectable {path : String} {e : InspectionError} (named : Text.isBlankText u.name = false)
      (location : u.location = some path) (present : files.isFile path = true)
      (untold : u.references = none) (failed : r.inspector files path = .error e) :
      Refuses r files u (.uninspectable u.name e)

/-- **A unit is not resolved exactly if it cannot be used as a starting point**, with that as the
error. What it references, and what is found there, never makes it fail. -/
theorem resolve_eq_error_iff :
    (r.resolve files u).result = .error e ↔ r.Refuses files u e := by
  have hresult : (r.resolve files u).result = .error e ↔ (r.inspectStart files u).1 = .error e := by
    rw [resolve]
    split <;> rename_i h <;> simp [h]
  rw [hresult]
  constructor
  · intro h
    rw [inspectStart] at h
    split at h
    · rename_i hblank
      obtain rfl := Except.error.inj h
      exact .unnamed hblank
    · rename_i hnamed
      have hnamed : Text.isBlankText u.name = false := by simpa using hnamed
      split at h
      · exact absurd h (by simp)
      · rename_i path hlocation
        split at h
        · rename_i habsent
          obtain rfl := Except.error.inj h
          exact .notAFile hnamed hlocation (by simpa using habsent)
        · rename_i hpresent
          split at h
          · exact absurd h (by simp)
          · rename_i huntold
            split at h
            · exact absurd h (by simp)
            · rename_i hfailed
              obtain rfl := Except.error.inj h
              exact .uninspectable hnamed hlocation (by simpa using hpresent) huntold hfailed
  · intro h
    cases h with
    | unnamed hblank => simp [inspectStart, hblank]
    | notAFile hnamed hlocation habsent => simp [inspectStart, hnamed, hlocation, habsent]
    | uninspectable hnamed hlocation hpresent huntold hfailed =>
        simp [inspectStart, hnamed, hlocation, hpresent, huntold, hfailed]

/-- **Which units are not resolved**: those without a name, those whose location is not a file, and
those whose file does not tell what they do not tell themselves. -/
theorem exists_resolve_eq_error_iff : (∃ e, (r.resolve files u).result = .error e) ↔
    Text.isBlankText u.name = true ∨
      (∃ path, u.location = some path ∧ files.isFile path = false) ∨
      ∃ path e, u.location = some path ∧ u.references = none ∧
        r.inspector files path = .error e := by
  simp only [resolve_eq_error_iff]
  constructor
  · rintro ⟨e, hblank | ⟨-, hlocation, habsent⟩ | ⟨-, hlocation, -, huntold, hfailed⟩⟩
    · exact Or.inl hblank
    · exact Or.inr (Or.inl ⟨_, hlocation, habsent⟩)
    · exact Or.inr (Or.inr ⟨_, _, hlocation, huntold, hfailed⟩)
  · intro h
    cases hblank : Text.isBlankText u.name with
    | true => exact ⟨_, .unnamed hblank⟩
    | false =>
        rw [hblank, or_iff_right Bool.false_ne_true] at h
        obtain ⟨path, hlocation, habsent⟩ | ⟨path, e, hlocation, huntold, hfailed⟩ := h
        · exact ⟨_, .notAFile hblank hlocation habsent⟩
        · -- a location that is not a file is refused before it is inspected
          cases hfile : files.isFile path with
          | false => exact ⟨_, .notAFile hblank hlocation hfile⟩
          | true => exact ⟨_, .uninspectable hblank hlocation hfile huntold hfailed⟩

end Resolver

namespace Generator

variable {E : Engine}

/-! ## Requests -/

/-- What a generator is asked for, and the files that are there at that time. -/
inductive Request where
  /-- To reference a unit. -/
  | referenceUnit (files : Files) (u : UnitHandle)
  /-- To reference the unit in a file. -/
  | referenceFile (files : Files) (path : String)
  /-- To make a unit of a source. -/
  | generate (files : Files) (ending : String) (kind : OutputKind) (source : String)
  /-- To make a library of the source that a script writes. -/
  | generateWith (files : Files) (ending : String) (d : Emit.Dialect) (steps : List Emit.Step)

/-- What comes of referencing, if that is what is asked for. -/
def Request.referencing? (g : Generator E) : Request → Option (Referencing E)
  | .referenceUnit files u => some (g.referenceUnit files u)
  | .referenceFile files path => some (g.referenceFile files path)
  | .generate .. | .generateWith .. => none

/-- The generator after a request. Making a unit leaves it as it is. -/
def after (g : Generator E) (c : Request) : Generator E :=
  match c.referencing? g with
  | some reply => reply.generator
  | none => g

/-- The number that a request returns, if it references a unit and succeeds. -/
def returned (g : Generator E) (c : Request) : Nat :=
  match c.referencing? g with
  | some reply => reply.result.toOption.getD 0
  | none => 0

/-- The generator after requests. -/
def run (g : Generator E) (history : List Request) : Generator E :=
  history.foldl after g

/-- The sum of the numbers that requests return, each made after those before it. -/
def total (g : Generator E) : List Request → Nat
  | [] => 0
  | c :: history => g.returned c + (g.after c).total history

variable {g : Generator E} {c : Request} {reply : Referencing E}

/-- Referencing a unit fails and leaves the generator as it is, or it merges what is resolved and
returns how many references are new. -/
theorem referenceUnit_cases (g : Generator E) (files : Files) (u : UnitHandle) :
    (∃ e, (g.resolver.resolve files u).result = .error e ∧
      (g.referenceUnit files u).result = .error e ∧
      (g.referenceUnit files u).generator = g) ∨
    ∃ t, (g.resolver.resolve files u).result = .ok t ∧
      (g.referenceUnit files u).result = .ok (g.references.extend t).added ∧
      (g.referenceUnit files u).generator =
        { g with references := (g.references.extend t).set } := by
  rw [referenceUnit]
  cases h : (g.resolver.resolve files u).result with
  | error e => exact Or.inl ⟨e, rfl, rfl, rfl⟩
  | ok t => exact Or.inr ⟨t, rfl, rfl, rfl⟩

/-- A request that references anything references a unit. -/
theorem exists_referenceUnit_of_referencing? (h : c.referencing? g = some reply) :
    ∃ files u, reply = g.referenceUnit files u := by
  cases c with
  | referenceUnit files u => exact ⟨files, u, (Option.some.inj h).symm⟩
  | referenceFile files path => exact ⟨files, .atPath path, (Option.some.inj h).symm⟩
  | generate => exact absurd h (by simp [Request.referencing?])
  | generateWith => exact absurd h (by simp [Request.referencing?])

/-- **What a request does**: it leaves the generator as it is, and returns no number, or it merges
a set into the references and returns how many of them are new. -/
theorem after_cases (g : Generator E) (c : Request) :
    (g.after c = g ∧ g.returned c = 0) ∨
      ∃ t, g.after c = { g with references := (g.references.extend t).set } ∧
        g.returned c = (g.references.extend t).added := by
  rw [after, returned]
  cases hreply : c.referencing? g with
  | none => exact Or.inl ⟨rfl, rfl⟩
  | some reply =>
      obtain ⟨files, u, rfl⟩ := exists_referenceUnit_of_referencing? hreply
      obtain ⟨e, -, hresult, hgenerator⟩ | ⟨t, -, hresult, hgenerator⟩ :=
        g.referenceUnit_cases files u
      · exact Or.inl ⟨hgenerator, by simp [hresult, Except.toOption]⟩
      · exact Or.inr ⟨t, hgenerator, by simp [hresult, Except.toOption]⟩

/-- A request that fails to reference a unit leaves the generator as it is. -/
theorem after_of_error {e : ResolveError} (h : c.referencing? g = some reply)
    (herror : reply.result = .error e) : g.after c = g := by
  rw [after, h]
  obtain ⟨files, u, rfl⟩ := exists_referenceUnit_of_referencing? h
  obtain ⟨_, -, -, hgenerator⟩ | ⟨t, -, hresult, -⟩ := g.referenceUnit_cases files u
  · exact hgenerator
  · exact absurd (hresult.symm.trans herror) (by simp)

theorem resolver_after (g : Generator E) (c : Request) : (g.after c).resolver = g.resolver := by
  obtain ⟨h, -⟩ | ⟨t, h, -⟩ := g.after_cases c <;> rw [h]

/-- **A request only adds at the end.** -/
theorem grows_after (g : Generator E) (c : Request) :
    g.references.Grows (g.after c).references := by
  obtain ⟨h, -⟩ | ⟨t, h, -⟩ := g.after_cases c
  · rw [h]
    exact .refl _
  · rw [h]
    exact .extend _ t

/-- **A request returns how many references it adds.** -/
theorem size_after (g : Generator E) (c : Request) :
    (g.after c).references.size = g.references.size + g.returned c := by
  obtain ⟨h, hcount⟩ | ⟨t, h, hcount⟩ := g.after_cases c
  · rw [h, hcount, Nat.add_zero]
  · rw [h, hcount]
    exact ReferenceSet.size_extend _ t

/-! ## Histories -/

theorem resolver_run (g : Generator E) (history : List Request) :
    (g.run history).resolver = g.resolver := by
  induction history generalizing g with
  | nil => rfl
  | cons c history ih => exact (ih (g.after c)).trans (g.resolver_after c)

/-- Requests only add at the end. -/
theorem grows_run (g : Generator E) (history : List Request) :
    g.references.Grows (g.run history).references := by
  induction history generalizing g with
  | nil => exact .refl _
  | cons c history ih => exact (g.grows_after c).trans (ih (g.after c))

/-- Requests return how many references they add. -/
theorem size_run (g : Generator E) (history : List Request) :
    (g.run history).references.size = g.references.size + g.total history := by
  induction history generalizing g with
  | nil => rfl
  | cons c history ih =>
      have hfirst := g.size_after c
      have hrest := ih (g.after c)
      rw [run, List.foldl_cons, total]
      rw [run] at hrest
      omega

/-- **What a history leaves behind.** After any requests, whatever files there have been, the
references start with the baseline, and the numbers returned add up to the others. Whatever is
requested from there on, the entries stay where they are and a name stands for what it stood for.
A request that fails to reference a unit leaves the generator as it is, and it fails exactly if the
unit has no name, or its location is not a file, or its file does not tell what it references while
the unit does not tell either. -/
theorem references_run (resolver : Resolver) (gateway : Gateway E) (history : List Request) :
    let g := (ofParts resolver gateway).run history
    resolver.baseline.entries <+: g.references.entries ∧
    g.references.size = resolver.baseline.size + (ofParts resolver gateway).total history ∧
    (∀ later, g.references.entries <+: (g.run later).references.entries ∧
      ∀ n e, g.references.get? n = some e → (g.run later).references.get? n = some e) ∧
    (∀ c reply e, c.referencing? g = some reply → reply.result = .error e → g.after c = g) ∧
    ∀ files u reply,
      (reply = g.referenceUnit files u ∨
        ∃ path, u = .atPath path ∧ reply = g.referenceFile files path) →
      ((∃ e, reply.result = .error e) ↔
        Text.isBlankText u.name = true ∨
          (∃ path, u.location = some path ∧ files.isFile path = false) ∨
          ∃ path e, u.location = some path ∧ u.references = none ∧
            resolver.inspector files path = .error e) := by
  intro g
  have hresolver : g.resolver = resolver := (ofParts resolver gateway).resolver_run history
  refine ⟨((ofParts resolver gateway).grows_run history).entries,
    (ofParts resolver gateway).size_run history, fun later => ?_,
    fun c reply e hreply herror => after_of_error hreply herror, fun files u reply hreply => ?_⟩
  · have hgrows := g.grows_run later
    exact ⟨hgrows.entries, fun n e hget => hgrows.get?_eq_some hget⟩
  · have hunit : reply = g.referenceUnit files u := by
      obtain hunit | ⟨path, rfl, hfile⟩ := hreply
      · exact hunit
      · exact hfile
    rw [← Resolver.exists_resolve_eq_error_iff, hunit, ← hresolver]
    obtain ⟨e, hresolve, hresult, -⟩ | ⟨t, hresolve, hresult, -⟩ := g.referenceUnit_cases files u
    · simp [hresolve, hresult]
    · simp [hresolve, hresult]

/-- What has been gathered is there when the file is gone. Then the file cannot be referenced any
more, and trying to changes nothing. -/
theorem references_run_alias :
    let g := aliasGenerator.run [.referenceFile Resolver.aliasFiles "/app.wasm"]
    (g.run [.referenceFile ∅ "/app.wasm"]).references.get? "app" =
        some ⟨"app", "/app.wasm", .file "/app.wasm"⟩ ∧
      (∃ e, (g.referenceFile ∅ "/app.wasm").result = .error e) ∧
      g.after (.referenceFile ∅ "/app.wasm") = g := by
  intro g
  obtain ⟨set, h, -, hentries, -⟩ := exists_references_alias
  obtain ⟨happ, -⟩ := Resolver.entries_alias h
  obtain ⟨-, -, hlater, hfailing, hfails⟩ := references_run Resolver.aliasResolver
    { compiler := WatCompiler.compiler } [.referenceFile Resolver.aliasFiles "/app.wasm"]
  have hget : g.references.get? "app" = some ⟨"app", "/app.wasm", .file "/app.wasm"⟩ := by
    have hset : g.references.entries = set.entries := hentries
    rw [ReferenceSet.get?, hset]
    exact ReferenceSet.get?_eq_some_of_mem (Resolver.coherent_of_resolve h).nodup_names happ
  obtain ⟨e, herror⟩ := (hfails ∅ (.atPath "/app.wasm") (g.referenceFile ∅ "/app.wasm")
    (.inr ⟨_, rfl, rfl⟩)).2 (.inr (.inl ⟨_, rfl, by decide +kernel⟩))
  exact ⟨(hlater [.referenceFile ∅ "/app.wasm"]).2 _ _ hget, ⟨e, herror⟩,
    hfailing _ _ e rfl herror⟩

end Generator

end UnitFoundry
