import UnitFoundry.Proofs.Files.Canonical
import UnitFoundry.Proofs.Reference.Merge
import UnitFoundry.Proofs.Resolve.BreadthFirst

/-! # Resolved sets within others

Two resolutions may visit their units in different orders, and may meet a file under different
names. So one set lies within another as far as files are concerned, not entry by entry: whatever
is referenced by the files of a resolved set is settled in it, and that is all a comparison needs.

* **`Inspector.ByFile`**: an inspector that tells the same for every path to a file.
* **`Resolver.exists_identity_of_chain`**: the files of one resolved set are in another one, if the
  starting file is and references are located and read alike.
* **`Resolver.resolve_appendHints`**: more hint paths lose no file and move no name.
* **`Resolver.resolve_member`**: resolving a member of a resolved set brings nothing new. -/

namespace UnitFoundry

/-! ## Inspectors that look at files -/

/-- Whether what an inspector tells of a path depends only on the file that the path leads to. Why
it tells nothing may depend on the path. -/
def Inspector.ByFile (i : Inspector) (files : Files) : Prop :=
  ∀ p q, files.isFile p = true → files.isFile q = true →
    files.canonicalize p = files.canonicalize q → (i files p).toOption = (i files q).toOption

/-- **The module names that a file imports from are the same for every path to it.** -/
theorem Inspector.byFile_ofEngine (E : Engine) (files : Files) : (ofEngine E).ByFile files := by
  intro p q hp _ hsame
  obtain ⟨c, -, hc⟩ := Files.canonicalize_of_isFile hp
  have hfind : files.find p = files.find q := Files.find_congr hc (hsame ▸ hc)
  have hopen : E.ofFile files p = E.ofFile files q := by
    rw [Engine.ofFile, Engine.ofFile, Files.read, Files.read, hfind]
  rw [ofEngine, ofEngine, hopen]
  cases E.ofFile files q with
  | ok m => rfl
  | error e => rfl

namespace Resolver

variable {r r' : Resolver} {files : Files} {start start' : UnitHandle} {set set' : ReferenceSet}
  {n n' p p' : String} {e e' : Reference}

/-! ## References of units known by name -/

/-- Paths that have been located are those to the same file if the references to them have the same
identity. -/
theorem canonicalize_eq_of_identity {u u' : UnitHandle} (hloc : r.locate? files u = some p)
    (hloc' : r'.locate? files u' = some p')
    (hid : (Reference.ofFile files n p).identity = (Reference.ofFile files n' p').identity) :
    files.canonicalize p = files.canonicalize p' := by
  obtain ⟨c, hc, hof⟩ := ofFile_of_locate? hloc
  obtain ⟨c', hc', hof'⟩ := ofFile_of_locate? hloc'
  rw [hof, hof'] at hid
  have heq : c = c' := hid
  rw [hc, hc', heq]

/-- Units known by their names reference the same if their names lead to the same file. -/
theorem referencesOf_named_congr (hinspector : r'.inspector = r.inspector)
    (hbyFile : r.inspector.ByFile files) (hloc : r.locate? files (.named n) = some p)
    (hloc' : r'.locate? files (.named n') = some p')
    (hid : (Reference.ofFile files n p).identity = (Reference.ofFile files n' p').identity) :
    r.referencesOf files (.named n) = r'.referencesOf files (.named n') := by
  have hanswer := hbyFile p p' (isFile_of_locate? hloc) (isFile_of_locate? hloc')
    (canonicalize_eq_of_identity hloc hloc' hid)
  rw [referencesOf, referencesOf]
  simp only [UnitHandle.named] at hloc hloc' ⊢
  rw [hloc, hloc', hinspector]
  dsimp only
  rw [hanswer]

/-! ## One resolved set within another -/

/-- **The files of a resolved set are in another one**, if the file of its starting unit is, if
names lead to the same paths in the other resolution, and if a file that is in both references the
same in both. -/
theorem exists_identity_of_chain (h : (r.resolve files start).result = .ok set)
    (h' : (r'.resolve files start').result = .ok set')
    (hbaseline : r'.config.baseline = r.config.baseline)
    (hstart : ∀ e ∈ set.entries, e.isHost = false → e.name = start.name →
      ∃ e' ∈ set'.entries, e'.identity = e.identity)
    (hlocate : ∀ n p, r.locate? files (r.handleFrom start n) = some p →
      r'.locate? files (r'.handleFrom start' n) = some p)
    (hreferences : ∀ e ∈ set.entries, e.isHost = false → ∀ e' ∈ set'.entries,
      e'.isHost = false → e'.identity = e.identity →
      r.referencesOf files (r.handleFrom start e.name) =
        r'.referencesOf files (r'.handleFrom start' e'.name))
    (he : e ∈ set.entries) (hfile : e.isHost = false) :
    ∃ e' ∈ set'.entries, e'.isHost = false ∧ e'.identity = e.identity := by
  -- an entry with the identity of a file is a file
  have hfiles : ∀ d ∈ set.entries, d.isHost = false → ∀ d' ∈ set'.entries,
      d'.identity = d.identity → d'.isHost = false := by
    intro d hd hdfile d' hd' hid
    obtain ⟨p, hloc, hof⟩ := exists_locate?_of_resolve h hd hdfile
    rw [hof] at hid
    exact isHost_eq_false_of_identity h' hd' (hlocate _ p hloc) hid
  suffices hsome : ∃ e' ∈ set'.entries, e'.identity = e.identity by
    obtain ⟨e', he', hid⟩ := hsome
    exact ⟨e', he', hfiles e he hfile e' he' hid, hid⟩
  -- along the chain of the one set, each step is closed off by what is settled in the other
  obtain ⟨k, hchain⟩ := exists_chain_of_resolve h he hfile
  generalize hname : e.name = n at hchain
  induction hchain generalizing e with
  | start => exact hstart e he hfile hname
  | @next k m n _ hentry hmem ih =>
      obtain ⟨d, hd, rfl, hdfile⟩ := hentry
      obtain ⟨d', hd', hdid⟩ := ih hd hdfile rfl
      have hdfile' := hfiles d hd hdfile d' hd' hdid
      rw [hreferences d hd hdfile d' hd' hdfile' hdid] at hmem
      have hsettled := settled_of_resolve h' hd' hdfile' hmem
      obtain ⟨p, hloc, hof⟩ := exists_locate?_of_resolve h he hfile
      have hbase : n ∉ r'.config.baseline := by
        rw [hbaseline, ← hname]
        exact not_mem_baseline_of_resolve h he hfile
      rw [hname] at hloc hof
      obtain ⟨e', he', hid⟩ :=
        exists_identity_of_settled h' hsettled hbase (hlocate n p hloc)
      exact ⟨e', he', hid.trans (congrArg (·.identity) hof).symm⟩

/-- The identities of a resolved set are in another one, if those of its files are. -/
theorem containsIdentity_of_files (h : (r.resolve files start).result = .ok set)
    (h' : (r'.resolve files start').result = .ok set')
    (hbaseline : r'.config.baseline = r.config.baseline)
    (hfiles : ∀ e ∈ set.entries, e.isHost = false →
      ∃ e' ∈ set'.entries, e'.isHost = false ∧ e'.identity = e.identity)
    (he : e ∈ set.entries) : set'.containsIdentity e.identity = true := by
  refine ((coherent_of_resolve h').containsIdentity_iff _).2 ?_
  cases hhost : e.isHost with
  | false =>
      obtain ⟨e', he', -, hid⟩ := hfiles e he hhost
      exact ⟨e', he', hid⟩
  | true =>
      -- both sets begin with the baseline
      obtain ⟨host, hmem, rfl⟩ := mem_baseline_of_resolve h he hhost
      exact ⟨_, (baseline_grows h').mem (mem_entries_baseline.2 ⟨host, hbaseline ▸ hmem, rfl⟩), rfl⟩

/-! ## More hint paths -/

/-- The resolver that looks for units below other hint paths. -/
def withHints (r : Resolver) (hints : List String) : Resolver :=
  { r with config := { r.config with hintPaths := hints } }

section AppendHints

variable {hints hints' : List String} {u : UnitHandle}

/-- What is located stays where it is when hint paths are appended. -/
theorem locate?_appendHints (h : (r.withHints hints).locate? files u = some p) :
    (r.withHints (hints ++ hints')).locate? files u = some p := by
  have hprobe : (probe? files hints u.name r.config.extension).filter files.isFile = some p →
      (probe? files (hints ++ hints') u.name r.config.extension).filter files.isFile = some p := by
    intro hfound
    obtain ⟨hprobed, hfile⟩ := Option.filter_eq_some_iff.1 hfound
    refine Option.filter_eq_some_iff.2 ⟨?_, hfile⟩
    rw [probe?] at hprobed ⊢
    rw [List.findSome?_append, hprobed, Option.some_or]
  unfold locate? at h ⊢
  simp only at h ⊢
  split at h
  · split at h
    · rename_i hfile
      rw [if_pos hfile]
      exact h
    · rename_i hfile
      rw [if_neg hfile]
      exact hprobe h
  · exact hprobe h

/-- Hint paths do not matter for whether a starting unit can be used. -/
theorem exists_resolve_appendHints :
    (∃ set, ((r.withHints hints).resolve files start).result = .ok set) →
      ∃ set, ((r.withHints hints').resolve files start).result = .ok set := by
  rintro ⟨set, h⟩
  obtain ⟨u, inspected, hs, -⟩ := exists_of_resolve_eq_ok h
  have hs' : (r.withHints hints').inspectStart files start = (.ok u, inspected) := hs
  exact exists_resolve_eq_ok (by rw [hs']; rfl)

variable (h : ((r.withHints hints).resolve files start).result = .ok set)
  (h' : ((r.withHints (hints ++ hints')).resolve files start).result = .ok set')

include h h'

/-- The file of the starting unit is that of its own entry. -/
theorem mem_start_of_appendHints (he : e ∈ set.entries) (hfile : e.isHost = false)
    (hname : e.name = start.name) : e ∈ set'.entries := by
  obtain ⟨p, hloc, hof⟩ := exists_locate?_of_resolve h he hfile
  have hbase := not_mem_baseline_of_resolve h he hfile
  rw [hname] at hloc hof hbase
  rw [handleFrom_name] at hloc
  rw [hof]
  exact mem_entries_start h' hbase (locate?_appendHints hloc)

/-- The starting unit claims its file before any other name does, under both lists of paths. -/
theorem name_eq_start_iff (he : e ∈ set.entries) (hfile : e.isHost = false)
    (he' : e' ∈ set'.entries) (hid : e'.identity = e.identity) :
    e'.name = start.name ↔ e.name = start.name := by
  have hids := (coherent_of_resolve h).nodup_identities
  have hids' := (coherent_of_resolve h').nodup_identities
  constructor
  · intro hname'
    by_contra hname
    -- a chain leads to the entry through the starting unit, which is then in both sets
    obtain ⟨k, hchain⟩ := exists_chain_of_resolve h he hfile
    obtain ⟨d, hd, hdname, hdfile⟩ := hchain.isFileEntry_start hname
    have hd' := mem_start_of_appendHints h h' hd hdfile hdname
    have hsame : d = e' := List.inj_on_of_nodup_map (coherent_of_resolve h').nodup_names hd' he'
      (hdname.trans hname'.symm)
    have hde : d = e := List.inj_on_of_nodup_map hids hd he (hsame ▸ hid)
    exact hname (hde ▸ hdname)
  · intro hname
    have hmem := mem_start_of_appendHints h h' he hfile hname
    rw [List.inj_on_of_nodup_map hids' he' hmem hid]
    exact hname

/-- A file references the same under both lists of paths, whatever its names there are. -/
theorem referencesOf_appendHints (hknown : r.known = []) (hbyFile : r.inspector.ByFile files)
    (he : e ∈ set.entries) (hfile : e.isHost = false) (he' : e' ∈ set'.entries)
    (hfile' : e'.isHost = false) (hid : e'.identity = e.identity) :
    (r.withHints hints).referencesOf files ((r.withHints hints).handleFrom start e.name) =
      (r.withHints (hints ++ hints')).referencesOf files
        ((r.withHints (hints ++ hints')).handleFrom start e'.name) := by
  obtain ⟨p, hloc, hof⟩ := exists_locate?_of_resolve h he hfile
  obtain ⟨p', hloc', hof'⟩ := exists_locate?_of_resolve h' he' hfile'
  by_cases hname : e.name = start.name
  · -- the starting unit itself, with what it declares
    rw [hname, handleFrom_name] at hloc
    rw [(name_eq_start_iff h h' he hfile he' hid).2 hname, hname, handleFrom_name,
      handleFrom_name, referencesOf, referencesOf, hloc, locate?_appendHints hloc]
    rfl
  · have hname' : e'.name ≠ start.name :=
      fun heq => hname ((name_eq_start_iff h h' he hfile he' hid).1 heq)
    have hnamed : ∀ hints n, (r.withHints hints).handle n = .named n :=
      fun _ n => handle_of_known_eq_nil hknown n
    rw [handleFrom_of_ne hname, hnamed] at hloc ⊢
    rw [handleFrom_of_ne hname', hnamed] at hloc' ⊢
    rw [hof, hof'] at hid
    exact referencesOf_named_congr rfl hbyFile hloc hloc' hid.symm

/-- **No file is lost when hint paths are appended.** -/
theorem exists_identity_appendHints (hknown : r.known = []) (hbyFile : r.inspector.ByFile files)
    (he : e ∈ set.entries) (hfile : e.isHost = false) :
    ∃ e' ∈ set'.entries, e'.isHost = false ∧ e'.identity = e.identity :=
  exists_identity_of_chain h h' rfl
    (fun d hd hdfile hname => ⟨d, mem_start_of_appendHints h h' hd hdfile hname, rfl⟩)
    (fun _ _ hloc => locate?_appendHints hloc)
    (fun _ hd hdfile _ hd' hdfile' hid =>
      referencesOf_appendHints h h' hknown hbyFile hd hdfile hd' hdfile' hid)
    he hfile

/-- A name that is bound under both lists of paths is bound to the same reference. -/
theorem eq_of_appendHints (hget : set.get? n = some e) (hget' : set'.get? n = some e') :
    e = e' := by
  have he := ReferenceSet.mem_of_get?_eq_some hget
  have he' := ReferenceSet.mem_of_get?_eq_some hget'
  have hname := ReferenceSet.name_of_get?_eq_some hget
  have hname' := ReferenceSet.name_of_get?_eq_some hget'
  cases hhost : e.isHost with
  | false =>
      obtain ⟨p, hloc, hof⟩ := exists_locate?_of_resolve h he hhost
      have hbase := not_mem_baseline_of_resolve h he hhost
      rw [hname.trans hname'.symm] at hloc hof hbase
      rw [hof]
      exact (eq_ofFile_of_resolve h' he' hbase (locate?_appendHints hloc)).symm
  | true =>
      obtain ⟨host, hmem, rfl⟩ := mem_baseline_of_resolve h he hhost
      have hmem' : Reference.ofHost host ∈ set'.entries :=
        (baseline_grows h').mem (mem_entries_baseline.2 ⟨host, hmem, rfl⟩)
      exact List.inj_on_of_nodup_map (coherent_of_resolve h').nodup_names hmem' he'
        (hname.trans hname'.symm)

end AppendHints

/-- **Appending hint paths is monotone**, for a resolver without known units whose inspector looks
at files alone, and whatever it starts from. A unit resolves under some hint paths exactly if it
resolves under more of them; every identity that is found is found again, if perhaps under another
name; and a name that is bound in both sets is bound to the same reference. -/
theorem resolve_appendHints (r : Resolver) (files : Files) (start : UnitHandle)
    (hints hints' : List String) (hknown : r.known = []) (hbyFile : r.inspector.ByFile files) :
    ((∃ set, ((r.withHints hints).resolve files start).result = .ok set) ↔
      ∃ set, ((r.withHints (hints ++ hints')).resolve files start).result = .ok set) ∧
    ∀ set set', ((r.withHints hints).resolve files start).result = .ok set →
      ((r.withHints (hints ++ hints')).resolve files start).result = .ok set' →
      (∀ i, set.containsIdentity i = true → set'.containsIdentity i = true) ∧
      ∀ n e e', set.get? n = some e → set'.get? n = some e' → e = e' := by
  refine ⟨⟨exists_resolve_appendHints, exists_resolve_appendHints⟩, fun set set' h h' => ⟨?_, ?_⟩⟩
  · intro i hi
    obtain ⟨e, he, rfl⟩ := ((coherent_of_resolve h).containsIdentity_iff i).1 hi
    exact containsIdentity_of_files h h' rfl
      (fun d hd hdfile => exists_identity_appendHints h h' hknown hbyFile hd hdfile) he
  · exact fun n e e' hget hget' => eq_of_appendHints h h' hget hget'

/-- A unit that references two names, a file for the second of them, and a link of the first one to
that file. -/
def shadowFiles : Files :=
  { nodes := [(["app.wasm"], .file (Wasm.Module.importing "x" "f").encode),
      (["x.wasm"], .link "y.wasm"), (["y.wasm"], .file (Wasm.Module.importing "app" "f").encode)] }

/-- The unit that references the two names. -/
def shadowStart : UnitHandle :=
  (UnitHandle.atPath "/app.wasm").withReferences ["x", "y"]

/-- Without the second path only `y` leads to the file, and with it `x` does so too, and first; the
file is found both times. -/
theorem resolve_appendHints_shadow : ∃ set set',
    ((aliasResolver.withHints ["/y.wasm"]).resolve shadowFiles shadowStart).result = .ok set ∧
    ((aliasResolver.withHints (["/y.wasm"] ++ ["/x.wasm"])).resolve shadowFiles
      shadowStart).result = .ok set' ∧
    set.containsIdentity "/y.wasm" = true ∧ set'.containsIdentity "/y.wasm" = true ∧
    ∀ n e e', set.get? n = some e → set'.get? n = some e' → e = e' := by
  obtain ⟨set, h⟩ :
      ∃ set, ((aliasResolver.withHints ["/y.wasm"]).resolve shadowFiles shadowStart).result =
        .ok set :=
    exists_resolve_eq_ok (by decide +kernel)
  obtain ⟨hiff, hall⟩ := resolve_appendHints aliasResolver shadowFiles shadowStart ["/y.wasm"]
    ["/x.wasm"] rfl (Inspector.byFile_ofEngine Wasm.engine _)
  obtain ⟨set', h'⟩ := hiff.1 ⟨set, h⟩
  obtain ⟨hidentities, hnames⟩ := hall set set' h h'
  -- the starting unit is in the set, and it references `y`
  have happ := mem_entries_start h (by decide +kernel)
    (show (aliasResolver.withHints ["/y.wasm"]).locate? shadowFiles shadowStart =
      some "/app.wasm" by decide +kernel)
  have hsettled : (aliasResolver.withHints ["/y.wasm"]).Settled shadowFiles shadowStart set "y" :=
    settled_of_resolve h happ (Reference.isHost_ofFile _ _ _) (by decide +kernel)
  obtain ⟨e, he, hid⟩ := exists_identity_of_settled h hsettled (by decide +kernel)
    (show (aliasResolver.withHints ["/y.wasm"]).locate? shadowFiles _ = some "/y.wasm" by
      decide +kernel)
  have hy : set.containsIdentity "/y.wasm" = true := by
    refine ((coherent_of_resolve h).containsIdentity_iff _).2 ⟨e, he, hid.trans ?_⟩
    decide +kernel
  exact ⟨set, set', h, h', hy, hidentities _ hy, hnames⟩

/-! ## Members of a resolved set -/

theorem handleFrom_named (hknown : r.known = []) (m n : String) :
    r.handleFrom (.named m) n = .named n := by
  by_cases hname : n = m
  · subst hname
    exact handleFrom_name
  · rw [handleFrom_of_ne hname, handle_of_known_eq_nil hknown]

section Member

variable {m m' : String} (hknown : r.known = []) (hbyFile : r.inspector.ByFile files)
  (h : (r.resolve files (.named m)).result = .ok set)
  (h' : (r.resolve files (.named m')).result = .ok set')

include hknown hbyFile h h'

/-- In two sets that are resolved from names, a file references the same. -/
theorem referencesOf_member (he : e ∈ set.entries) (hfile : e.isHost = false)
    (he' : e' ∈ set'.entries) (hfile' : e'.isHost = false) (hid : e'.identity = e.identity) :
    r.referencesOf files (r.handleFrom (.named m) e.name) =
      r.referencesOf files (r.handleFrom (.named m') e'.name) := by
  obtain ⟨p, hloc, hof⟩ := exists_locate?_of_resolve h he hfile
  obtain ⟨p', hloc', hof'⟩ := exists_locate?_of_resolve h' he' hfile'
  rw [handleFrom_named hknown] at hloc hloc' ⊢
  rw [handleFrom_named hknown]
  rw [hof, hof'] at hid
  exact referencesOf_named_congr rfl hbyFile hloc hloc' hid.symm

/-- **The files that a member needs are in the set.** -/
theorem exists_identity_member (hmember : ∃ d ∈ set'.entries, d.isHost = false ∧ d.name = m)
    (he : e ∈ set.entries) (hfile : e.isHost = false) :
    ∃ e' ∈ set'.entries, e'.isHost = false ∧ e'.identity = e.identity := by
  refine exists_identity_of_chain h h' rfl (fun e he hfile hname => ?_) (fun n p hloc => ?_)
    (fun e he hfile e' he' hfile' hid =>
      referencesOf_member hknown hbyFile h h' he hfile he' hfile' hid) he hfile
  · -- the member's own file
    obtain ⟨d, hd, hdfile, rfl⟩ := hmember
    obtain ⟨p, hloc, hof⟩ := exists_locate?_of_resolve h he hfile
    obtain ⟨q, hdloc, hdof⟩ := exists_locate?_of_resolve h' hd hdfile
    have hname : e.name = d.name := hname
    rw [handleFrom_named hknown, hname] at hloc
    rw [handleFrom_named hknown, hloc] at hdloc
    obtain rfl := Option.some.inj hdloc
    rw [hname] at hof
    exact ⟨d, hd, by rw [hof, ← hdof]⟩
  · rw [handleFrom_named hknown] at hloc ⊢
    exact hloc

/-- **What a member misses is missed already.** -/
theorem exists_miss_member (hmember : ∃ d ∈ set'.entries, d.isHost = false ∧ d.name = m)
    {x : Miss} (hx : x ∈ set.misses) : ∃ x' ∈ set'.misses, x'.unit = x.unit := by
  have hnone := locate?_of_miss h hx
  rw [handleFrom_named hknown] at hnone
  obtain hstart | ⟨hbase, d, hd, hdfile, hmem⟩ := referenced_of_miss h hx
  · -- the member has been located
    obtain ⟨d, hd, hdfile, rfl⟩ := hmember
    obtain ⟨q, hdloc, -⟩ := exists_locate?_of_resolve h' hd hdfile
    have hstart : x.unit = d.name := hstart
    rw [handleFrom_named hknown, ← hstart, hnone] at hdloc
    exact absurd hdloc (by simp)
  · -- a file that references the unit is in both sets
    obtain ⟨d', hd', hdfile', hid⟩ :=
      exists_identity_member hknown hbyFile h h' hmember hd hdfile
    rw [referencesOf_member hknown hbyFile h h' hd hdfile hd' hdfile' hid] at hmem
    exact exists_miss_of_settled h' (settled_of_resolve h' hd' hdfile' hmem) hbase
      (by rw [handleFrom_named hknown, hnone])

end Member

/-- **A resolved set is closed under resolving its members**, for a resolver without known units
whose inspector looks at files alone. Whichever file of the set is resolved by its name, if that is
no blank, it resolves; all identities and all missed units that come of it are in the set already,
and merging it adds nothing and changes nothing. -/
theorem resolve_member (r : Resolver) (files : Files) (n : String) (set : ReferenceSet)
    (hknown : r.known = []) (hbyFile : r.inspector.ByFile files)
    (h : (r.resolve files (.named n)).result = .ok set) (e : Reference) (he : e ∈ set.entries)
    (hfile : e.isHost = false) (hname : Text.isBlankText e.name = false) :
    ∃ set', (r.resolve files (.named e.name)).result = .ok set' ∧
      (∀ i, set'.containsIdentity i = true → set.containsIdentity i = true) ∧
      (∀ m' ∈ set'.misses, ∃ m ∈ set.misses, m.unit = m'.unit) ∧
      (set.extend set').added = 0 ∧ (set.extend set').set = set := by
  have husable : r.inspectStart files (.named e.name) = (.ok (.named e.name), []) := by
    rw [inspectStart, UnitHandle.named, hname]
    rfl
  obtain ⟨set', h'⟩ : ∃ set', (r.resolve files (.named e.name)).result = .ok set' :=
    exists_resolve_eq_ok (by rw [husable]; rfl)
  have hmember : ∃ d ∈ set.entries, d.isHost = false ∧ d.name = e.name := ⟨e, he, hfile, rfl⟩
  have hidentity : ∀ d ∈ set'.entries, set.containsIdentity d.identity = true := fun d hd =>
    containsIdentity_of_files h' h rfl
      (fun d hd hdfile => exists_identity_member hknown hbyFile h' h hmember hd hdfile) hd
  have hmisses : ∀ m' ∈ set'.misses, ∃ m ∈ set.misses, m.unit = m'.unit :=
    fun m' hm' => exists_miss_member hknown hbyFile h' h hmember hm'
  have hextend := ReferenceSet.extend_of_present hidentity hmisses
  refine ⟨set', h', fun i hi => ?_, hmisses, by rw [hextend], by rw [hextend]⟩
  obtain ⟨d, hd, rfl⟩ := ((coherent_of_resolve h').containsIdentity_iff i).1 hi
  exact hidentity d hd

/-- Two files that import from each other; one of them has a second name, which is a link. -/
def roundFiles : Files :=
  { nodes := [(["app.wasm"], .file (Wasm.Module.importing "mid" "f").encode),
      (["mid.wasm"], .file (Wasm.Module.importing "twin" "f").encode),
      (["twin.wasm"], .link "app.wasm")] }

/-- The resolver that finds all of them. -/
def roundResolver : Resolver :=
  { config := { hintPaths := ["/app.wasm", "/mid.wasm", "/twin.wasm"] }, inspector := .wasm }

/-- From the file in the middle the walk takes the same files the other way round, and meets the
first one under its second name. -/
theorem resolve_member_round : ∃ set e set',
    (roundResolver.resolve roundFiles (.named "app")).result = .ok set ∧
    e ∈ set.entries ∧ e.identity = "/mid.wasm" ∧
    (roundResolver.resolve roundFiles (.named e.name)).result = .ok set' ∧
    (set.extend set').added = 0 ∧ (set.extend set').set = set := by
  obtain ⟨set, h⟩ : ∃ set, (roundResolver.resolve roundFiles (.named "app")).result = .ok set :=
    exists_resolve_eq_ok (by decide +kernel)
  -- the names that can be met
  have hnames : ∀ k n, roundResolver.Chain roundFiles (.named "app") set.entries k n →
      n = "app" ∨ n = "mid" ∨ n = "twin" := by
    intro k n hchain
    induction hchain with
    | start => exact Or.inl rfl
    | next _ _ hmem ih =>
        rw [handleFrom_named rfl] at hmem
        have happ : roundResolver.referencesOf roundFiles (.named "app") = ["mid"] := by
          decide +kernel
        have hmid : roundResolver.referencesOf roundFiles (.named "mid") = ["twin"] := by
          decide +kernel
        have htwin : roundResolver.referencesOf roundFiles (.named "twin") = ["mid"] := by
          decide +kernel
        rcases ih with rfl | rfl | rfl
        · rw [happ] at hmem
          exact Or.inr (Or.inl (List.mem_singleton.1 hmem))
        · rw [hmid] at hmem
          exact Or.inr (Or.inr (List.mem_singleton.1 hmem))
        · rw [htwin] at hmem
          exact Or.inr (Or.inl (List.mem_singleton.1 hmem))
  have happ := mem_entries_start h (by decide +kernel)
    (show roundResolver.locate? roundFiles (.named "app") = some "/app.wasm" by decide +kernel)
  have hsettled : roundResolver.Settled roundFiles (.named "app") set "mid" :=
    settled_of_resolve h happ (Reference.isHost_ofFile _ _ _) (by decide +kernel)
  have hloc : roundResolver.locate? roundFiles (roundResolver.handleFrom (.named "app") "mid") =
      some "/mid.wasm" := by
    decide +kernel
  obtain ⟨e, he, hid⟩ := exists_identity_of_settled h hsettled (by decide +kernel) hloc
  have hfile := isHost_eq_false_of_identity h he hloc hid
  obtain ⟨k, hchain⟩ := exists_chain_of_resolve h he hfile
  have hblank : Text.isBlankText e.name = false := by
    rcases hnames k _ hchain with hname | hname | hname <;> rw [hname] <;> decide +kernel
  obtain ⟨set', h', -, -, hadded, hset⟩ := resolve_member roundResolver roundFiles "app" set rfl
    (Inspector.byFile_ofEngine Wasm.engine _) h e he hfile hblank
  exact ⟨set, e, set', h, he, hid.trans (by decide +kernel), h', hadded, hset⟩

end Resolver

end UnitFoundry
