import UnitFoundry.Proofs.Json.Tokens

/-! # Reading what is spelled

The reader takes exactly the texts of the grammar, and gives the values that they spell.

* **`Json.TakesValue`**, **`Json.TakesMember`**: what one step of the reader takes.
* **`Json.Form.IsRead`**: what the reader makes of a text, with enough steps.
* **`Json.Spells.isRead`**: what is spelled is read, by induction on the spelling.
* **`Json.sound`**: what is read is spelled, by induction on the steps.
* **`Json.read?_eq_some_iff`**: the reader and the grammar agree, so no text spells two values. -/

namespace UnitFoundry.Json

variable {cs rest : List Char}

/-! ## What one step of the reader takes -/

variable {n : Nat} {v : Value}

theorem readExactly_eq_some_iff {xs : List Char} :
    readExactly xs cs = some ((), rest) ↔ cs = xs ++ rest := by
  induction xs generalizing cs with
  | nil => simp [readExactly]
  | cons x xs ih =>
      cases cs with
      | nil => simp [readExactly]
      | cons c cs =>
          rw [readExactly]
          by_cases hx : x = c
          · rw [if_pos hx, ih, hx, List.cons_append, List.cons_inj_right]
          · rw [if_neg hx, List.cons_append, List.cons_eq_cons]
            simp [Ne.symm hx]

theorem readValue_skipSpace (n : Nat) (cs : List Char) :
    readValue n (skipSpace cs) = readValue n cs := by
  cases n with
  | zero => rw [readValue, readValue]
  | succ n => rw [readValue, readValue, skipSpace_skipSpace]

theorem readItems_skipSpace (n : Nat) (cs : List Char) :
    readItems n (skipSpace cs) = readItems n cs := by
  cases n with
  | zero => rw [readItems, readItems]
  | succ n => rw [readItems, readItems, readValue_skipSpace]

theorem readMembers_skipSpace (n : Nat) (cs : List Char) :
    readMembers n (skipSpace cs) = readMembers n cs := by
  cases n with
  | zero => rw [readMembers, readMembers]
  | succ n => rw [readMembers, readMembers, skipSpace_skipSpace]

/-- What a value takes from a text without spaces in front, and what it leaves. -/
inductive TakesValue (n : Nat) : List Char → Value → List Char → Prop where
  /-- A name. -/
  | nullName {rest : List Char} : TakesValue n ('n' :: 'u' :: 'l' :: 'l' :: rest) .null rest
  /-- A name. -/
  | trueName {rest : List Char} :
    TakesValue n ('t' :: 'r' :: 'u' :: 'e' :: rest) (.bool true) rest
  /-- A name. -/
  | falseName {rest : List Char} :
    TakesValue n ('f' :: 'a' :: 'l' :: 's' :: 'e' :: rest) (.bool false) rest
  /-- A string. -/
  | string {t : Option String} {cs rest : List Char} : readText cs = some (t, rest) →
    TakesValue n ('"' :: cs) (.string t) rest
  /-- An array that ends at once. -/
  | emptyArray {cs rest : List Char} : skipSpace cs = ']' :: rest →
    TakesValue n ('[' :: cs) (.array []) rest
  /-- An array with items. -/
  | array {vs : List Value} {cs rest : List Char} : (skipSpace cs).head? ≠ some ']' →
    readItems n cs = some (vs, rest) → TakesValue n ('[' :: cs) (.array vs) rest
  /-- An object that ends at once. -/
  | emptyObject {cs rest : List Char} : skipSpace cs = '\x7d' :: rest →
    TakesValue n ('\x7b' :: cs) (.object []) rest
  /-- An object with members. -/
  | object {ms : List (Option String × Value)} {cs rest : List Char} :
    (skipSpace cs).head? ≠ some '\x7d' → readMembers n cs = some (ms, rest) →
    TakesValue n ('\x7b' :: cs) (.object ms) rest
  /-- A number. -/
  | number {cs ds rest : List Char} : (∀ c ∈ ['n', 't', 'f', '"', '[', '\x7b'], cs.head? ≠ some c) →
    readNumber cs = some (ds, rest) → TakesValue n cs (.number ds) rest

theorem readValue_of_takesValue (h : TakesValue n cs v rest) (hcs : skipSpace cs = cs) :
    readValue (n + 1) cs = some (v, rest) := by
  rw [readValue, hcs]
  clear hcs
  cases h with
  | nullName => rfl
  | trueName => rfl
  | falseName => rfl
  | string ht => simp [ht]
  | emptyArray hend => simp [hend]
  | @array vs cs rest hne hvs =>
      simp only [Option.bind_eq_bind, Option.pure_def]
      split
      · rename_i hend
        rw [hend] at hne
        exact absurd rfl hne
      · rw [readItems_skipSpace, hvs, Option.bind_some]
  | emptyObject hend => simp [hend]
  | @object ms cs rest hne hms =>
      simp only [Option.bind_eq_bind, Option.pure_def]
      split
      · rename_i hend
        rw [hend] at hne
        exact absurd rfl hne
      · rw [readMembers_skipSpace, hms, Option.bind_some]
  | number hne hds =>
      split
      · exact absurd rfl (hne 'n' (by decide))
      · exact absurd rfl (hne 't' (by decide))
      · exact absurd rfl (hne 'f' (by decide))
      · exact absurd rfl (hne '"' (by decide))
      · exact absurd rfl (hne '[' (by decide))
      · exact absurd rfl (hne '\x7b' (by decide))
      · rw [hds]
        rfl

theorem takesValue_of_readValue (h : readValue (n + 1) cs = some (v, rest)) :
    TakesValue n (skipSpace cs) v rest := by
  rw [readValue] at h
  generalize skipSpace cs = cs at h ⊢
  -- the first character decides; a numeral is what is left
  split at h
  · obtain ⟨_, hname, rfl⟩ := exists_of_bind (fun _ => Value.null) h
    rw [readExactly_eq_some_iff.1 hname]
    exact .nullName
  · obtain ⟨_, hname, rfl⟩ := exists_of_bind (fun _ => Value.bool true) h
    rw [readExactly_eq_some_iff.1 hname]
    exact .trueName
  · obtain ⟨_, hname, rfl⟩ := exists_of_bind (fun _ => Value.bool false) h
    rw [readExactly_eq_some_iff.1 hname]
    exact .falseName
  · obtain ⟨t, ht, rfl⟩ := exists_of_bind Value.string h
    exact .string ht
  · split at h
    · rename_i hend
      obtain ⟨rfl, rfl⟩ := Prod.mk.inj (Option.some.inj h)
      exact .emptyArray hend
    · rename_i cs hne
      obtain ⟨vs, hvs, rfl⟩ := exists_of_bind Value.array h
      rw [readItems_skipSpace] at hvs
      refine .array (fun hhead => ?_) hvs
      obtain ⟨tail, htail⟩ := List.head?_eq_some_iff.1 hhead
      exact hne tail htail
  · split at h
    · rename_i hend
      obtain ⟨rfl, rfl⟩ := Prod.mk.inj (Option.some.inj h)
      exact .emptyObject hend
    · rename_i cs hne
      obtain ⟨ms, hms, rfl⟩ := exists_of_bind Value.object h
      rw [readMembers_skipSpace] at hms
      refine .object (fun hhead => ?_) hms
      obtain ⟨tail, htail⟩ := List.head?_eq_some_iff.1 hhead
      exact hne tail htail
  · rename_i hnull htrue hfalse hstring harray hobject
    obtain ⟨ds, hds, rfl⟩ := exists_of_bind Value.number h
    refine .number (fun c hc hhead => ?_) hds
    obtain ⟨tail, rfl⟩ := List.head?_eq_some_iff.1 hhead
    simp only [List.mem_cons, List.not_mem_nil, or_false] at hc
    rcases hc with rfl | rfl | rfl | rfl | rfl | rfl
    · exact hnull tail rfl
    · exact htrue tail rfl
    · exact hfalse tail rfl
    · exact hstring tail rfl
    · exact harray tail rfl
    · exact hobject tail rfl

/-- Reading items takes a value and the mark behind it, and then the other items if it is a
comma. -/
theorem readItems_succ_iff {vs : List Value} : readItems (n + 1) cs = some (vs, rest) ↔
    ∃ v rest', readValue n cs = some (v, rest') ∧
      (skipSpace rest' = ']' :: rest ∧ vs = [v] ∨
        ∃ tail vs', skipSpace rest' = ',' :: tail ∧ readItems n tail = some (vs', rest) ∧
          vs = v :: vs') := by
  rw [readItems]
  constructor
  · intro h
    obtain ⟨⟨v, rest'⟩, hv, h⟩ := Option.bind_eq_some_iff.1 h
    refine ⟨v, rest', hv, ?_⟩
    dsimp only at h
    split at h
    · rename_i tail hcomma
      obtain ⟨vs', hvs, rfl⟩ := exists_of_bind (v :: ·) h
      exact Or.inr ⟨tail, vs', hcomma, hvs, rfl⟩
    · rename_i hend
      obtain ⟨rfl, rfl⟩ := Prod.mk.inj (Option.some.inj h)
      exact Or.inl ⟨hend, rfl⟩
    · exact absurd h (by simp)
  · rintro ⟨v, rest', hv, ⟨hend, rfl⟩ | ⟨tail, vs', hcomma, hvs, rfl⟩⟩
    · rw [hv]
      simp [hend]
    · rw [hv]
      simp [hcomma, hvs]

/-- What a member takes from a text: a key, a colon and a value; what it leaves begins with the mark
behind it. -/
inductive TakesMember (n : Nat) (cs : List Char) : Option String → Value → List Char → Prop where
  /-- The key is read, and then the value. -/
  | pair {key : Option String} {v : Value} {body after tail rest : List Char} :
    skipSpace cs = '"' :: body → readText body = some (key, after) →
    skipSpace after = ':' :: tail → readValue n tail = some (v, rest) →
    TakesMember n cs key v (skipSpace rest)

theorem readMembers_succ_iff {ms : List (Option String × Value)} :
    readMembers (n + 1) cs = some (ms, rest) ↔
    ∃ key v rest', TakesMember n cs key v rest' ∧
      (rest' = '\x7d' :: rest ∧ ms = [(key, v)] ∨
        ∃ tail ms', rest' = ',' :: tail ∧ readMembers n tail = some (ms', rest) ∧
          ms = (key, v) :: ms') := by
  rw [readMembers]
  constructor
  · intro h
    split at h
    · rename_i body hbody
      obtain ⟨⟨key, after⟩, hkey, h⟩ := Option.bind_eq_some_iff.1 h
      dsimp only at h
      split at h
      · rename_i tail hcolon
        obtain ⟨⟨v, rest'⟩, hv, h⟩ := Option.bind_eq_some_iff.1 h
        refine ⟨key, v, skipSpace rest', .pair hbody hkey hcolon hv, ?_⟩
        dsimp only at h
        split at h
        · rename_i tail' hcomma
          obtain ⟨ms', hms, rfl⟩ := exists_of_bind ((key, v) :: ·) h
          exact Or.inr ⟨tail', ms', hcomma, hms, rfl⟩
        · rename_i hend
          obtain ⟨rfl, rfl⟩ := Prod.mk.inj (Option.some.inj h)
          exact Or.inl ⟨hend, rfl⟩
        · exact absurd h (by simp)
      · exact absurd h (by simp)
    · exact absurd h (by simp)
  · rintro ⟨key, v, rest', ⟨hbody, hkey, hcolon, hv⟩, ⟨hend, rfl⟩ | ⟨tail, ms', hcomma, hms, rfl⟩⟩
    · simp [hbody, hkey, hcolon, hv, hend]
    · simp [hbody, hkey, hcolon, hv, hcomma, hms]

/-! ## What is spelled is read -/

theorem isSpace_of_isBlank {c : Char} (h : Text.isBlank c = false) : isSpace c = false := by
  rw [Bool.eq_false_iff]
  intro hspace
  rw [isBlank_of_isSpace hspace] at h
  exact Bool.noConfusion h

theorem Spells.skipSpace_append (h : Spells (.value v) cs) (rest : List Char) :
    skipSpace (cs ++ rest) = cs ++ rest := by
  obtain ⟨c, tail, rfl, hblank, -⟩ := h.exists_cons
  rw [List.cons_append, skipSpace_cons_of_not (isSpace_of_isBlank hblank)]

/-- Items do not begin with the end of an array. -/
theorem Spells.head?_skipSpace_items {vs : List Value} (h : Spells (.items vs) cs)
    (rest : List Char) : (skipSpace (cs ++ rest)).head? ≠ some ']' := by
  have hpadded : ∀ {v cs}, Spells (.padded v) cs → ∀ rest,
      (skipSpace (cs ++ rest)).head? ≠ some ']' := by
    intro v cs h rest hhead
    cases h with
    | padded has hv hbs =>
        rw [List.append_assoc, List.append_assoc, Json.skipSpace_append has,
          hv.skipSpace_append] at hhead
        obtain ⟨c, tail, rfl, -, hne⟩ := hv.exists_cons
        exact hne (Option.some.inj hhead)
  cases h with
  | lastItem hv =>
      rw [List.append_assoc]
      exact hpadded hv _
  | item hv _ =>
      rw [List.append_assoc]
      exact hpadded hv _

/-- Members begin with a quote. -/
theorem Spells.head?_skipSpace_members {ms : List (Option String × Value)}
    (h : Spells (.members ms) cs) (rest : List Char) :
    (skipSpace (cs ++ rest)).head? = some '"' := by
  have hmember : ∀ {key v cs}, Spells (.member key v) cs → ∀ rest,
      (skipSpace (cs ++ rest)).head? = some '"' := by
    intro key v cs h rest
    cases h with
    | pair has hkey _ _ =>
        obtain ⟨-⟩ := hkey
        simp only [List.append_assoc, Json.skipSpace_append has]
        exact congrArg List.head? (skipSpace_cons_of_not (by decide) _)
  cases h with
  | lastMember hm =>
      rw [List.append_assoc]
      exact hmember hm _
  | member hm _ =>
      rw [List.append_assoc]
      exact hmember hm _

/-- The reader takes what is spelled and leaves what stands behind it, or at least no more spaces
than stand there. -/
def Form.IsRead (cs : List Char) : Form → Prop
  | .value v => ∀ n rest, 2 * cs.length ≤ n + 1 → Delimited rest →
      readValue n (cs ++ rest) = some (v, rest)
  | .padded v => ∀ n rest, 2 * cs.length ≤ n + 1 → Delimited rest →
      ∃ rest', readValue n (cs ++ rest) = some (v, rest') ∧ skipSpace rest' = skipSpace rest
  | .items vs => ∀ n rest, 2 * cs.length ≤ n + 1 → readItems n (cs ++ rest) = some (vs, rest)
  | .member key v => ∀ n rest, 2 * cs.length ≤ n + 1 → Delimited rest →
      TakesMember n (cs ++ rest) key v (skipSpace rest)
  | .members ms => ∀ n rest, 2 * cs.length ≤ n + 1 →
      readMembers n (cs ++ rest) = some (ms, rest)

/-- A mark that may stand behind a value. -/
theorem delimited_cons {c : Char} (hc : c = ',' ∨ c = ']' ∨ c = '\x7d') (cs : List Char) :
    Delimited (c :: cs) := by
  intro d hd
  obtain rfl := Option.some.inj hd
  exact Or.inr hc

theorem Delimited.spaces_append {bs : List Char} (hbs : Spaces bs) (h : Delimited rest) :
    Delimited (bs ++ rest) := by
  cases bs with
  | nil => exact h
  | cons b bs =>
      intro c hc
      obtain rfl := Option.some.inj hc
      exact Or.inl (hbs b List.mem_cons_self)

namespace Form.IsRead

variable {ds bs : List Char} {key : Option String}

/-- A value is read if a step takes it. -/
theorem of_takesValue (hspells : Spells (.value v) cs)
    (h : ∀ n rest, 2 * cs.length ≤ n + 2 → Delimited rest → TakesValue n (cs ++ rest) v rest) :
    (value v).IsRead cs := by
  intro n rest hn hrest
  -- a value has a first character, so the bound leaves a step to take it
  have hlength : cs.length ≠ 0 := by
    obtain ⟨c, tail, rfl, -⟩ := hspells.exists_cons
    exact Nat.succ_ne_zero _
  obtain ⟨k, rfl⟩ : ∃ k, n = k + 1 := ⟨n - 1, by omega⟩
  exact readValue_of_takesValue (h k rest hn hrest) (hspells.skipSpace_append rest)

/-- The first character of a numeral tells it from the other values. -/
theorem number (hds : IsNumber ds) : (value (.number ds)).IsRead ds := by
  refine of_takesValue (.number hds) fun n rest _ hrest =>
    .number (fun c hc hhead => ?_) (readNumber_of_isNumber hds hrest)
  obtain ⟨d, tail, rfl, hd⟩ := hds.exists_cons
  obtain rfl := Option.some.inj hhead
  obtain rfl | hd := hd
  · exact absurd hc (by decide)
  · simp only [List.mem_cons, List.not_mem_nil, or_false] at hc
    rcases hc with rfl | rfl | rfl | rfl | rfl | rfl <;> exact absurd hd (by decide)

theorem string {t : Option String} (ht : SpellsString t cs) : (value (.string t)).IsRead cs := by
  refine of_takesValue (.string ht) fun n rest _ _ => ?_
  obtain ⟨body, rfl, hread⟩ := readText_of_spells ht
  exact .string (hread rest)

theorem emptyArray (hbs : Spaces bs) : (value (.array [])).IsRead ('[' :: bs ++ [']']) := by
  refine of_takesValue (.emptyArray hbs) fun n rest _ _ => .emptyArray ?_
  show skipSpace (bs ++ [']'] ++ rest) = ']' :: rest
  rw [List.append_assoc]
  exact skipSpace_spaces_cons hbs (by decide) rest

theorem array {vs : List Value} (hvs : Spells (.items vs) cs) (h : (items vs).IsRead cs) :
    (value (.array vs)).IsRead ('[' :: cs) := by
  refine of_takesValue (.array hvs) fun n rest hn _ => .array (hvs.head?_skipSpace_items rest) ?_
  rw [List.length_cons] at hn
  exact h n rest (by omega)

theorem emptyObject (hbs : Spaces bs) :
    (value (.object [])).IsRead ('\x7b' :: bs ++ ['\x7d']) := by
  refine of_takesValue (.emptyObject hbs) fun n rest _ _ => .emptyObject ?_
  show skipSpace (bs ++ ['\x7d'] ++ rest) = '\x7d' :: rest
  rw [List.append_assoc]
  exact skipSpace_spaces_cons hbs (by decide) rest

theorem object {ms : List (Option String × Value)} (hms : Spells (.members ms) cs)
    (h : (members ms).IsRead cs) : (value (.object ms)).IsRead ('\x7b' :: cs) := by
  refine of_takesValue (.object hms) fun n rest hn _ => .object ?_ ?_
  · show (skipSpace (cs ++ rest)).head? ≠ some '\x7d'
    rw [hms.head?_skipSpace_members]
    decide
  · rw [List.length_cons] at hn
    exact h n rest (by omega)

theorem padded {as : List Char} (has : Spaces as) (h : (value v).IsRead cs) (hbs : Spaces bs) :
    (padded v).IsRead (as ++ cs ++ bs) := by
  intro n rest hn hrest
  rw [List.length_append, List.length_append] at hn
  -- the spaces in front are skipped, those behind are left
  refine ⟨bs ++ rest, ?_, skipSpace_append hbs rest⟩
  rw [List.append_assoc, List.append_assoc, ← readValue_skipSpace, skipSpace_append has,
    readValue_skipSpace]
  exact h n (bs ++ rest) (by omega) (hrest.spaces_append hbs)

theorem lastItem (h : (Form.padded v).IsRead cs) : (items [v]).IsRead (cs ++ [']']) := by
  intro n rest hn
  rw [List.length_append, List.length_singleton] at hn
  obtain ⟨k, rfl⟩ : ∃ k, n = k + 1 := ⟨n - 1, by omega⟩
  rw [List.append_assoc, List.singleton_append]
  obtain ⟨rest', hv, hend⟩ := h k (']' :: rest) (by omega) (delimited_cons (by decide) rest)
  rw [skipSpace_cons_of_not (by decide)] at hend
  exact readItems_succ_iff.2 ⟨v, rest', hv, Or.inl ⟨hend, rfl⟩⟩

theorem item {vs : List Value} (h : (Form.padded v).IsRead cs) (hvs : (items vs).IsRead ds) :
    (items (v :: vs)).IsRead (cs ++ ',' :: ds) := by
  intro n rest hn
  rw [List.length_append, List.length_cons] at hn
  obtain ⟨k, rfl⟩ : ∃ k, n = k + 1 := ⟨n - 1, by omega⟩
  rw [List.append_assoc, List.cons_append]
  obtain ⟨rest', hv, hcomma⟩ := h k (',' :: (ds ++ rest)) (by omega)
    (delimited_cons (by decide) _)
  rw [skipSpace_cons_of_not (by decide)] at hcomma
  exact readItems_succ_iff.2
    ⟨v, rest', hv, Or.inr ⟨_, vs, hcomma, hvs k rest (by omega), rfl⟩⟩

theorem pair {as ks : List Char} (has : Spaces as) (hkey : SpellsString key ks) (hbs : Spaces bs)
    (h : (Form.padded v).IsRead cs) : (member key v).IsRead (as ++ ks ++ bs ++ ':' :: cs) := by
  intro n rest hn hrest
  simp only [List.length_append, List.length_cons] at hn
  obtain ⟨body, rfl, hread⟩ := readText_of_spells hkey
  obtain ⟨rest', hv, hskip⟩ := h n rest (by omega) hrest
  rw [← hskip]
  have htext := hread (bs ++ ':' :: (cs ++ rest))
  refine .pair ?_ htext (skipSpace_spaces_cons hbs (by decide) _) hv
  simp only [List.append_assoc, List.cons_append]
  exact skipSpace_spaces_cons has (by decide) _

theorem lastMember (h : (Form.member key v).IsRead cs) :
    (members [(key, v)]).IsRead (cs ++ ['\x7d']) := by
  intro n rest hn
  rw [List.length_append, List.length_singleton] at hn
  obtain ⟨k, rfl⟩ : ∃ k, n = k + 1 := ⟨n - 1, by omega⟩
  rw [List.append_assoc, List.singleton_append]
  have hmember := h k ('\x7d' :: rest) (by omega) (delimited_cons (by decide) rest)
  rw [skipSpace_cons_of_not (by decide)] at hmember
  exact readMembers_succ_iff.2 ⟨key, v, _, hmember, Or.inl ⟨rfl, rfl⟩⟩

theorem member {ms : List (Option String × Value)} (h : (Form.member key v).IsRead cs)
    (hms : (members ms).IsRead ds) : (members ((key, v) :: ms)).IsRead (cs ++ ',' :: ds) := by
  intro n rest hn
  rw [List.length_append, List.length_cons] at hn
  obtain ⟨k, rfl⟩ : ∃ k, n = k + 1 := ⟨n - 1, by omega⟩
  rw [List.append_assoc, List.cons_append]
  have hmember := h k (',' :: (ds ++ rest)) (by omega) (delimited_cons (by decide) _)
  rw [skipSpace_cons_of_not (by decide)] at hmember
  exact readMembers_succ_iff.2
    ⟨key, v, _, hmember, Or.inr ⟨_, ms, rfl, hms k rest (by omega), rfl⟩⟩

end Form.IsRead

/-- **What is spelled is read.** -/
theorem Spells.isRead {f : Form} (h : Spells f cs) : f.IsRead cs := by
  induction h with
  -- one lemma for each way to spell something; the readers call each other as these do
  | nullName => exact .of_takesValue .nullName fun _ _ _ _ => .nullName
  | trueName => exact .of_takesValue .trueName fun _ _ _ _ => .trueName
  | falseName => exact .of_takesValue .falseName fun _ _ _ _ => .falseName
  | number hds => exact .number hds
  | string ht => exact .string ht
  | emptyArray hbs => exact .emptyArray hbs
  | array hvs ih => exact .array hvs ih
  | emptyObject hbs => exact .emptyObject hbs
  | object hms ih => exact .object hms ih
  | padded has _ hbs ih => exact .padded has ih hbs
  | lastItem _ ih => exact .lastItem ih
  | item _ _ ihv ihvs => exact .item ihv ihvs
  | pair has hkey hbs _ ih => exact .pair has hkey hbs ih
  | lastMember _ ih => exact .lastMember ih
  | member _ _ ihm ihms => exact .member ihm ihms

/-! ## What is read is spelled -/

/-- With so many steps, whatever is read is spelled. -/
structure Sound (n : Nat) : Prop where
  /-- A value, with spaces in front. -/
  value : ∀ {cs v rest}, readValue n cs = some (v, rest) →
    ∃ as ts, Spaces as ∧ Spells (.value v) ts ∧ cs = as ++ ts ++ rest
  /-- Items. -/
  items : ∀ {cs vs rest}, readItems n cs = some (vs, rest) →
    ∃ ts, Spells (.items vs) ts ∧ cs = ts ++ rest
  /-- Members. -/
  members : ∀ {cs ms rest}, readMembers n cs = some (ms, rest) →
    ∃ ts, Spells (.members ms) ts ∧ cs = ts ++ rest

namespace Sound

/-- What is left when spaces have been skipped stands behind spaces. -/
theorem exists_of_skipSpace {c : Char} {tail : List Char} (h : skipSpace cs = c :: tail) :
    ∃ bs, Spaces bs ∧ cs = bs ++ c :: tail := by
  obtain ⟨bs, hbs, hcs⟩ := exists_spaces cs
  exact ⟨bs, hbs, h ▸ hcs⟩

theorem of_takesValue (hsound : Sound n) (h : TakesValue n cs v rest) :
    ∃ ts, Spells (.value v) ts ∧ cs = ts ++ rest := by
  cases h with
  | nullName => exact ⟨_, .nullName, rfl⟩
  | trueName => exact ⟨_, .trueName, rfl⟩
  | falseName => exact ⟨_, .falseName, rfl⟩
  | string ht =>
      obtain ⟨body, rfl, hbody⟩ := spells_of_readText ht
      exact ⟨_, .string hbody, rfl⟩
  | emptyArray hend =>
      obtain ⟨bs, hbs, rfl⟩ := exists_of_skipSpace hend
      exact ⟨_, .emptyArray hbs, by simp⟩
  | array _ hvs =>
      obtain ⟨ts, hts, rfl⟩ := hsound.items hvs
      exact ⟨_, .array hts, rfl⟩
  | emptyObject hend =>
      obtain ⟨bs, hbs, rfl⟩ := exists_of_skipSpace hend
      exact ⟨_, .emptyObject hbs, by simp⟩
  | object _ hms =>
      obtain ⟨ts, hts, rfl⟩ := hsound.members hms
      exact ⟨_, .object hts, rfl⟩
  | number _ hds =>
      obtain ⟨rfl, hnumber⟩ := isNumber_of_readNumber hds
      exact ⟨_, .number hnumber, rfl⟩

/-- A value is spelled between spaces, up to the mark behind it. -/
theorem padded (hsound : Sound n) {c : Char} {rest' : List Char}
    (hv : readValue n cs = some (v, rest')) (hmark : skipSpace rest' = c :: rest) :
    ∃ ts, Spells (.padded v) ts ∧ cs = ts ++ c :: rest := by
  obtain ⟨as, ts, has, hts, rfl⟩ := hsound.value hv
  obtain ⟨bs, hbs, rfl⟩ := exists_of_skipSpace hmark
  exact ⟨_, .padded has hts hbs, by simp only [List.append_assoc]⟩

theorem of_takesMember (hsound : Sound n) {key : Option String} {c : Char}
    (h : TakesMember n cs key v (c :: rest)) :
    ∃ ts, Spells (.member key v) ts ∧ cs = ts ++ c :: rest := by
  generalize hrest : c :: rest = after' at h
  cases h with
  | pair hbody hkey hcolon hv =>
      obtain ⟨as, has, rfl⟩ := exists_of_skipSpace hbody
      obtain ⟨ks, rfl, hks⟩ := spells_of_readText hkey
      obtain ⟨bs, hbs, rfl⟩ := exists_of_skipSpace hcolon
      obtain ⟨ts, hts, rfl⟩ := hsound.padded hv hrest.symm
      rw [← hrest]
      exact ⟨_, .pair has hks hbs hts, by simp only [List.append_assoc, List.cons_append]⟩

/-- One step more keeps it. -/
theorem succ (hsound : Sound n) : Sound (n + 1) where
  value h := by
    obtain ⟨ts, hts, hskip⟩ := hsound.of_takesValue (takesValue_of_readValue h)
    obtain ⟨as, has, hcs⟩ := exists_spaces _
    exact ⟨as, ts, has, hts, by rw [List.append_assoc, ← hskip]; exact hcs⟩
  items h := by
    obtain ⟨v, rest', hv, ⟨hend, rfl⟩ | ⟨tail, vs, hcomma, hvs, rfl⟩⟩ := readItems_succ_iff.1 h
    · obtain ⟨ts, hts, rfl⟩ := hsound.padded hv hend
      exact ⟨_, .lastItem hts, by simp⟩
    · obtain ⟨ts, hts, rfl⟩ := hsound.padded hv hcomma
      obtain ⟨ds, hds, rfl⟩ := hsound.items hvs
      exact ⟨_, .item hts hds, by simp⟩
  members h := by
    obtain ⟨key, v, rest', hmember, ⟨rfl, rfl⟩ | ⟨tail, ms, rfl, hms, rfl⟩⟩ :=
      readMembers_succ_iff.1 h
    · obtain ⟨ts, hts, rfl⟩ := hsound.of_takesMember hmember
      exact ⟨_, .lastMember hts, by simp⟩
    · obtain ⟨ts, hts, rfl⟩ := hsound.of_takesMember hmember
      obtain ⟨ds, hds, rfl⟩ := hsound.members hms
      exact ⟨_, .member hts hds, by simp⟩

end Sound

/-- **What is read is spelled**, whatever the number of steps. -/
theorem sound (n : Nat) : Sound n := by
  induction n with
  | zero =>
      refine ⟨fun h => ?_, fun h => ?_, fun h => ?_⟩
      · rw [readValue] at h
        exact absurd h (by simp)
      · rw [readItems] at h
        exact absurd h (by simp)
      · rw [readMembers] at h
        exact absurd h (by simp)
  | succ n ih => exact ih.succ

/-! ## The reader and the grammar -/

/-- **The reader takes exactly the texts that spell a value between spaces**, and gives that
value. -/
theorem read?_eq_some_iff : read? cs = some v ↔ Holds isSpace v cs := by
  rw [read?]
  constructor
  · intro h
    split at h
    · rename_i rest hread
      obtain ⟨as, ts, has, hts, rfl⟩ := (sound _).value hread
      split at h
      · rename_i hempty
        obtain rfl := Option.some.inj h
        exact .between has hts (skipSpace_eq_nil_iff.1 (List.isEmpty_iff.1 hempty))
      · exact absurd h (by simp)
    · exact absurd h (by simp)
  · rintro @⟨as, ts, bs, has, hts, hbs⟩
    have hdelimited : Delimited bs := by
      have hnil : Delimited [] := fun c hc => absurd hc (by simp)
      have happend := hnil.spaces_append hbs
      rwa [List.append_nil] at happend
    -- twice the length is enough, since every step takes a character
    have hread : readValue (2 * (as ++ ts ++ bs).length + 1) (as ++ ts ++ bs) = some (v, bs) := by
      rw [List.append_assoc, ← readValue_skipSpace, skipSpace_append has, readValue_skipSpace]
      refine hts.isRead _ bs ?_ hdelimited
      simp only [List.length_append]
      omega
    rw [hread]
    dsimp only
    rw [skipSpace_eq_nil_iff.2 hbs]
    rfl

end UnitFoundry.Json
