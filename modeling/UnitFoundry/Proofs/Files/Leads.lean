import UnitFoundry.Files.Basic

/-! # Where segments lead

`Files.walk` follows segments as long as its budget of links lasts. `Files.Leads` says the same
without a budget: a walk is a derivation with one constructor for each kind of segment, and the
number of links is counted along it.

* **`Files.walk_eq_ok_iff`**: a walk ends where its segments lead with at most as many links as
  its budget has.
* **`Files.Leads.append`**, **`Files.Leads.split`**: a walk along two lists of segments is a walk
  along the first one and from there a walk along the second one. -/

namespace UnitFoundry.Files

variable {files : Files} {mayBeNew : Bool} {n budget : Nat} {l m : Location} {s : String}
  {rest : List String}

/-- Segments lead from a location to another one through so many links. With `mayBeNew`, nothing
needs to stand at the last place. -/
inductive Leads (files : Files) (mayBeNew : Bool) :
    Nat → Location → List String → Location → Prop where
  /-- No segments are left. -/
  | done {l : Location} : Leads files mayBeNew 0 l [] l
  /-- A segment that stands for the directory itself. -/
  | here {n : Nat} {l m : Location} {s : String} {rest : List String} :
    files.node? l = some .directory → s = "" ∨ s = "." → Leads files mayBeNew n l rest m →
    Leads files mayBeNew n l (s :: rest) m
  /-- The segment that stands for the directory above. -/
  | up {n : Nat} {l m : Location} {rest : List String} :
    files.node? l = some .directory → Leads files mayBeNew n l.dropLast rest m →
    Leads files mayBeNew n l (".." :: rest) m
  /-- The name of an entry that is no link. -/
  | entry {n : Nat} {l m : Location} {s : String} {rest : List String} {node : Node} :
    files.node? l = some .directory → s ∉ ["", ".", ".."] → s.utf8ByteSize ≤ longestName →
    files.node? (l ++ [s]) = some node → (∀ target, node ≠ .link target) →
    Leads files mayBeNew n (l ++ [s]) rest m → Leads files mayBeNew n l (s :: rest) m
  /-- The name of a link. A relative link starts from the directory in which it stands. -/
  | link {n : Nat} {l m : Location} {s target : String} {rest : List String} :
    files.node? l = some .directory → s ∉ ["", ".", ".."] → s.utf8ByteSize ≤ longestName →
    files.node? (l ++ [s]) = some (.link target) → target ≠ "" →
    Leads files mayBeNew n (if Path.isAbsolute target then [] else l)
      (Path.segments target ++ rest) m →
    Leads files mayBeNew (n + 1) l (s :: rest) m
  /-- The name of something new. -/
  | new {l : Location} {s : String} :
    mayBeNew = true → files.node? l = some .directory → s ∉ ["", ".", ".."] →
    s.utf8ByteSize ≤ longestName → files.node? (l ++ [s]) = none →
    Leads files mayBeNew 0 l [s] (l ++ [s])

/-! ## Walks and where they lead -/

section WalkUntil

variable {follow : Location → List String → Except Fault Location}

theorem walkUntil_here (hdir : files.node? l = some .directory) (hs : s = "" ∨ s = ".") :
    files.walkUntil mayBeNew follow l (s :: rest) = files.walkUntil mayBeNew follow l rest := by
  rw [walkUntil, if_neg (not_not_intro hdir), if_pos]
  simpa using hs

theorem walkUntil_up (hdir : files.node? l = some .directory) :
    files.walkUntil mayBeNew follow l (".." :: rest) =
      files.walkUntil mayBeNew follow l.dropLast rest := by
  rw [walkUntil, if_neg (not_not_intro hdir), if_neg (by decide), if_pos rfl]

/-- What a walk does with a name depends on what stands there. -/
theorem walkUntil_name (hdir : files.node? l = some .directory) (hs : s ∉ ["", ".", ".."])
    (hlen : s.utf8ByteSize ≤ longestName) :
    files.walkUntil mayBeNew follow l (s :: rest) =
      match files.node? (l ++ [s]) with
      | none => if mayBeNew && rest.isEmpty then .ok (l ++ [s]) else .error .notFound
      | some (.link target) =>
        if target.isEmpty then .error .notFound
        else follow (if Path.isAbsolute target then [] else l) (Path.segments target ++ rest)
      | some _ => files.walkUntil mayBeNew follow (l ++ [s]) rest := by
  simp only [List.mem_cons, List.not_mem_nil, or_false, not_or] at hs
  rw [walkUntil, if_neg (not_not_intro hdir), if_neg (by simp [hs.1, hs.2.1]), if_neg hs.2.2]
  exact if_neg (Nat.not_lt_of_le hlen)

theorem walkUntil_entry {node : Node} (hdir : files.node? l = some .directory)
    (hs : s ∉ ["", ".", ".."]) (hlen : s.utf8ByteSize ≤ longestName)
    (hnode : files.node? (l ++ [s]) = some node) (hlink : ∀ target, node ≠ .link target) :
    files.walkUntil mayBeNew follow l (s :: rest) =
      files.walkUntil mayBeNew follow (l ++ [s]) rest := by
  rw [walkUntil_name hdir hs hlen, hnode]
  cases node with
  | link target => exact absurd rfl (hlink target)
  | file | program | directory => rfl

/-- Segments lead to wherever a walk along them ends, if they do so from each link on. -/
theorem leads_of_walkUntil {ss : List String}
    (hfollow : ∀ l ss m, follow l ss = .ok m → ∃ n < budget, files.Leads mayBeNew n l ss m)
    (h : files.walkUntil mayBeNew follow l ss = .ok m) :
    ∃ n ≤ budget, files.Leads mayBeNew n l ss m := by
  induction ss generalizing l with
  | nil =>
      injection h with h
      exact ⟨0, Nat.zero_le _, h ▸ .done⟩
  | cons s rest ih =>
      by_cases hdir : files.node? l = some .directory
      · by_cases hhere : s = "" ∨ s = "."
        · rw [walkUntil_here hdir hhere] at h
          obtain ⟨n, hn, hleads⟩ := ih h
          exact ⟨n, hn, .here hdir hhere hleads⟩
        by_cases hup : s = ".."
        · rw [hup, walkUntil_up hdir] at h
          obtain ⟨n, hn, hleads⟩ := ih h
          exact ⟨n, hn, hup ▸ .up hdir hleads⟩
        by_cases hlen : s.utf8ByteSize ≤ longestName
        · have hs : s ∉ ["", ".", ".."] := by simp_all
          rw [walkUntil_name hdir hs hlen] at h
          split at h
          · rename_i hnode
            split at h
            · rename_i hnew
              simp only [Bool.and_eq_true, List.isEmpty_iff] at hnew
              obtain ⟨hnew, rfl⟩ := hnew
              injection h with h
              exact ⟨0, Nat.zero_le _, h ▸ .new hnew hdir hs hlen hnode⟩
            · cases h
          · rename_i target hnode
            split at h
            · cases h
            · rename_i htarget
              obtain ⟨n, hn, hleads⟩ := hfollow _ _ _ h
              exact ⟨n + 1, hn, .link hdir hs hlen hnode (by simpa using htarget) hleads⟩
          · rename_i node hlink hnode
            obtain ⟨n, hn, hleads⟩ := ih h
            exact ⟨n, hn, .entry hdir hs hlen hnode hlink hleads⟩
        · rw [walkUntil, if_neg (not_not_intro hdir), if_neg (by simpa using hhere), if_neg hup,
            if_pos (Nat.lt_of_not_le hlen)] at h
          cases h
      · rw [walkUntil, if_pos hdir] at h
        cases h

end WalkUntil

/-- Walks agree where they do so whatever follows from links. -/
theorem walk_congr {l' : Location} {ss ss' : List String}
    (h : ∀ follow, files.walkUntil mayBeNew follow l ss = files.walkUntil mayBeNew follow l' ss') :
    files.walk mayBeNew budget l ss = files.walk mayBeNew budget l' ss' := by
  cases budget with
  | zero => exact h _
  | succ budget => exact h _

/-- **A walk ends where its segments lead**, as long as its budget lasts. -/
theorem walk_eq_ok_iff {ss : List String} :
    files.walk mayBeNew budget l ss = .ok m ↔ ∃ n ≤ budget, files.Leads mayBeNew n l ss m := by
  constructor
  · intro h
    induction budget generalizing l ss m with
    | zero => exact leads_of_walkUntil (fun _ _ _ h => absurd h (by simp)) h
    | succ budget ih =>
        -- each link takes one from the budget
        refine leads_of_walkUntil (fun l ss m h => ?_) h
        obtain ⟨n, hn, hleads⟩ := ih h
        exact ⟨n, Nat.lt_succ_of_le hn, hleads⟩
  · rintro ⟨n, hn, h⟩
    induction h generalizing budget with
    | done =>
        cases budget with
        | zero | succ => rfl
    | here hdir hs _ ih =>
        rw [walk_congr fun _ => walkUntil_here hdir hs]
        exact ih hn
    | up hdir _ ih =>
        rw [walk_congr fun _ => walkUntil_up hdir]
        exact ih hn
    | entry hdir hs hlen hnode hlink _ ih =>
        rw [walk_congr fun _ => walkUntil_entry hdir hs hlen hnode hlink]
        exact ih hn
    | link hdir hs hlen hnode htarget _ ih =>
        obtain ⟨budget, rfl⟩ := Nat.exists_eq_succ_of_ne_zero (Nat.ne_zero_of_lt hn)
        have htail := ih (Nat.le_of_succ_le_succ hn)
        rw [walk, walkUntil_name hdir hs hlen, hnode]
        simpa [htarget] using htail
    | new hnew hdir hs hlen hnode =>
        cases budget with
        | zero | succ =>
            rw [walk, walkUntil_name hdir hs hlen, hnode, hnew]
            rfl

/-! ## Walks along parts of a path -/

namespace Leads

variable {xs ys : List String}

/-- A walk that has a segment to follow is at a directory. -/
theorem directory (h : files.Leads mayBeNew n l (s :: rest) m) :
    files.node? l = some .directory := by
  cases h with
  | here hdir | up hdir | entry hdir | link hdir | new _ hdir => exact hdir

/-- A walk goes on where another one has ended. -/
theorem append {k : Location} {n' : Nat} (h : files.Leads false n l xs k)
    (h' : files.Leads false n' k ys m) : files.Leads false (n + n') l (xs ++ ys) m := by
  induction h with
  | done => rwa [Nat.zero_add]
  | here hdir hs _ ih => exact .here hdir hs (ih h')
  | up hdir _ ih => exact .up hdir (ih h')
  | entry hdir hs hlen hnode hlink _ ih => exact .entry hdir hs hlen hnode hlink (ih h')
  | @link n _ _ _ _ rest hdir hs hlen hnode htarget _ ih =>
      have hrest := ih h'
      rw [List.append_assoc] at hrest
      rw [Nat.add_right_comm]
      exact .link hdir hs hlen hnode htarget hrest
  | new hnew => cases hnew

/-- A walk along two lists of segments comes through where the first one leads. -/
theorem split (h : files.Leads false n l (xs ++ ys) m) :
    ∃ k n₁ n₂, n = n₁ + n₂ ∧ files.Leads false n₁ l xs k ∧ files.Leads false n₂ k ys m := by
  generalize hss : xs ++ ys = ss at h
  induction h generalizing xs with
  | done =>
      obtain ⟨rfl, rfl⟩ := List.append_eq_nil_iff.1 hss
      exact ⟨_, 0, 0, rfl, .done, .done⟩
  | @here n l m s rest hdir hs h ih =>
      rcases List.append_eq_cons_iff.1 hss with ⟨rfl, rfl⟩ | ⟨xs, rfl, rfl⟩
      · exact ⟨l, 0, n, (Nat.zero_add n).symm, .done, .here hdir hs h⟩
      · obtain ⟨k, n₁, n₂, hn, h₁, h₂⟩ := ih rfl
        exact ⟨k, n₁, n₂, hn, .here hdir hs h₁, h₂⟩
  | @up n l m rest hdir h ih =>
      rcases List.append_eq_cons_iff.1 hss with ⟨rfl, rfl⟩ | ⟨xs, rfl, rfl⟩
      · exact ⟨l, 0, n, (Nat.zero_add n).symm, .done, .up hdir h⟩
      · obtain ⟨k, n₁, n₂, hn, h₁, h₂⟩ := ih rfl
        exact ⟨k, n₁, n₂, hn, .up hdir h₁, h₂⟩
  | @entry n l m s rest node hdir hs hlen hnode hlink h ih =>
      rcases List.append_eq_cons_iff.1 hss with ⟨rfl, rfl⟩ | ⟨xs, rfl, rfl⟩
      · exact ⟨l, 0, n, (Nat.zero_add n).symm, .done, .entry hdir hs hlen hnode hlink h⟩
      · obtain ⟨k, n₁, n₂, hn, h₁, h₂⟩ := ih rfl
        exact ⟨k, n₁, n₂, hn, .entry hdir hs hlen hnode hlink h₁, h₂⟩
  | @link n l m s target rest hdir hs hlen hnode htarget h ih =>
      rcases List.append_eq_cons_iff.1 hss with ⟨rfl, rfl⟩ | ⟨xs, rfl, rfl⟩
      · exact ⟨l, 0, n + 1, (Nat.zero_add _).symm, .done, .link hdir hs hlen hnode htarget h⟩
      · obtain ⟨k, n₁, n₂, rfl, h₁, h₂⟩ := ih (List.append_assoc _ xs ys)
        exact ⟨k, n₁ + 1, n₂, Nat.add_right_comm _ _ _, .link hdir hs hlen hnode htarget h₁, h₂⟩
  | new hnew => cases hnew

end Leads

end UnitFoundry.Files
