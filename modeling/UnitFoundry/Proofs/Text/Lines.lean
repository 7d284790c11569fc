import Mathlib.Data.List.TakeWhile
import UnitFoundry.Text.Blank
import UnitFoundry.Text.Lines

/-! # Lines and blanks

Lines that are written one after another, each with a newline, are read back as they are, unless
they end in a carriage return.

* **`Text.lines_flatMap`**: the lines of a text whose lines all end in a newline.
* **`Text.filterMap_lines_intercalate`**: what is read from lines with newlines between them.
* **`Text.forall_of_mem_lines`**: the characters of a line are characters of the text.
* **`Text.trimStart_append`**, **`Text.trim_append`**, **`Text.trim_sublist`**: what trimming does.
* **`Text.trim_between`**, **`Text.exists_eq_trim`**: what trimming removes. -/

namespace UnitFoundry.Text

variable {acc cs l bs : List Char} {ls : List (List Char)}

/-! ## Lines -/

/-- A line ends at its newline. -/
theorem go_append_newline (hl : '\n' ∉ l) :
    lines.go acc (l ++ '\n' :: cs) = endedLine (l.reverse ++ acc) :: lines.go [] cs := by
  induction l generalizing acc with
  | nil => rw [List.nil_append, lines.go, if_pos rfl, List.reverse_nil, List.nil_append]
  | cons c l ih =>
      obtain ⟨hc, hl⟩ := not_or.1 (mt List.mem_cons.2 hl)
      rw [List.cons_append, lines.go, if_neg (Ne.symm hc), ih hl, List.reverse_cons,
        List.append_assoc, List.singleton_append]

/-- **The lines of a text whose lines all end in a newline** are these lines, up to carriage
returns at their ends. -/
theorem lines_flatMap (hls : ∀ l ∈ ls, '\n' ∉ l) :
    lines (ls.flatMap (· ++ ['\n'])) = ls.map fun l => endedLine l.reverse := by
  induction ls with
  | nil => rfl
  | cons l ls ih =>
      have hrest := ih fun l' hl' => hls l' (List.mem_cons_of_mem _ hl')
      rw [lines] at hrest
      rw [lines, List.flatMap_cons, List.append_assoc, List.singleton_append,
        go_append_newline (hls l List.mem_cons_self), hrest, List.append_nil, List.map_cons]

theorem endedLine_reverse (h : l.getLast? ≠ some '\r') : endedLine l.reverse = l := by
  rw [endedLine.eq_def]
  split
  · rename_i acc hacc
    rw [← List.head?_reverse, hacc] at h
    exact absurd rfl h
  · exact List.reverse_reverse l

/-- A text without a newline is its only line, unless it is empty. -/
theorem lines_of_not_mem (hl : '\n' ∉ l) : lines l = if l.isEmpty then [] else [l] := by
  have hgo : ∀ acc, lines.go acc l =
      if (l.reverse ++ acc).isEmpty then [] else [(l.reverse ++ acc).reverse] := by
    induction l with
    | nil => exact fun acc => by rw [lines.go]; rfl
    | cons c l ih =>
        obtain ⟨hc, hl⟩ := not_or.1 (mt List.mem_cons.2 hl)
        intro acc
        rw [lines.go, if_neg (Ne.symm hc), ih hl, List.reverse_cons, List.append_assoc,
          List.singleton_append]
  rw [lines, hgo, List.append_nil, List.reverse_reverse, List.isEmpty_reverse]

/-- The end of a line keeps the characters before a carriage return. -/
theorem endedLine_sublist (acc : List Char) : (endedLine acc).Sublist acc.reverse := by
  rw [endedLine.eq_def]
  split
  · rw [List.reverse_cons]
    exact List.sublist_append_left _ _
  · exact List.Sublist.refl _

/-- What has been read of a line and what is left make up the lines. -/
theorem forall_of_mem_go {P : Char → Prop} (hacc : ∀ c ∈ acc, P c)
    (hcs : ∀ c ∈ cs, c ≠ '\n' → P c) (hl : l ∈ lines.go acc cs) : ∀ c ∈ l, P c := by
  induction cs generalizing acc with
  | nil =>
      rw [lines.go] at hl
      split at hl
      · exact absurd hl List.not_mem_nil
      · rw [List.mem_singleton.1 hl]
        exact fun c hc => hacc c (List.mem_reverse.1 hc)
  | cons d cs ih =>
      have hrest : ∀ c ∈ cs, c ≠ '\n' → P c := fun c hc => hcs c (List.mem_cons_of_mem _ hc)
      rw [lines.go] at hl
      split at hl
      · rcases List.mem_cons.1 hl with rfl | hl
        · exact fun c hc => hacc c (List.mem_reverse.1 ((endedLine_sublist acc).subset hc))
        · exact ih (fun c hc => absurd hc List.not_mem_nil) hrest hl
      · rename_i hd
        exact ih (List.forall_mem_cons.2 ⟨hcs d List.mem_cons_self hd, hacc⟩) hrest hl

/-- **What holds of the characters of a text, newlines apart, holds of those of its lines.** -/
theorem forall_of_mem_lines {P : Char → Prop} (hcs : ∀ c ∈ cs, c ≠ '\n' → P c)
    (hl : l ∈ lines cs) : ∀ c ∈ l, P c :=
  forall_of_mem_go (fun _ hc => absurd hc List.not_mem_nil) hcs hl

/-- **Lines with newlines between them are read one after another**, if to the reader of a line an
empty one is nothing and the carriage return at its end makes no difference. -/
theorem filterMap_lines_intercalate {β : Type} {f : List Char → Option β} (hempty : f [] = none)
    (hended : ∀ l, f (endedLine l.reverse) = f l) (hls : ∀ l ∈ ls, '\n' ∉ l) :
    (lines (['\n'].intercalate ls)).filterMap f = ls.filterMap f := by
  induction ls with
  | nil => rfl
  | cons l ls ih =>
      obtain ⟨hl, hls⟩ := List.forall_mem_cons.1 hls
      cases ls with
      | nil =>
          rw [List.intercalate_singleton, lines_of_not_mem hl]
          cases l with
          | nil => simp [hempty]
          | cons c l => rfl
      | cons l' ls =>
          rw [lines] at ih
          rw [List.intercalate_cons_cons, List.append_assoc, List.singleton_append, lines,
            go_append_newline hl, List.append_nil, List.filterMap_cons, hended, ih hls]
          exact List.filterMap_cons.symm

/-! ## Blanks -/

/-- Blanks in front of a text are removed. -/
theorem trimStart_append (hbs : ∀ c ∈ bs, isBlank c = true) (cs : List Char) :
    trimStart (bs ++ cs) = trimStart cs := by
  rw [trimStart, List.dropWhile_append_of_pos hbs, trimStart]

/-- Blanks at the end of a text are removed. -/
theorem trim_append (hbs : ∀ c ∈ bs, isBlank c = true) (cs : List Char) :
    trim (cs ++ bs) = trim cs := by
  have hend : ∀ cs, trimEnd (cs ++ bs) = trimEnd cs := by
    intro cs
    rw [trimEnd, List.reverse_append, List.dropWhile_append_of_pos, trimEnd]
    exact fun c hc => hbs c (List.mem_reverse.1 hc)
  rw [trim, trim, trimStart, List.dropWhile_append]
  split
  · rename_i hempty
    rw [List.dropWhile_eq_nil_iff.2 hbs, trimStart, List.isEmpty_iff.1 hempty]
  · exact hend _

/-- Blanks around a text are removed, if the text begins and ends with something else. -/
theorem trim_between {as : List Char} {c d : Char} (has : ∀ c ∈ as, isBlank c = true)
    (hbs : ∀ c ∈ bs, isBlank c = true) (hc : cs.head? = some c) (hcblank : isBlank c = false)
    (hd : cs.getLast? = some d) (hdblank : isBlank d = false) : trim (as ++ cs ++ bs) = cs := by
  have hstart : cs.dropWhile isBlank = cs := by
    obtain ⟨tail, rfl⟩ := List.head?_eq_some_iff.1 hc
    rw [List.dropWhile_cons_of_neg (by simp [hcblank])]
  have hend : cs.reverse.dropWhile isBlank = cs.reverse := by
    rw [← List.head?_reverse] at hd
    obtain ⟨tail, htail⟩ := List.head?_eq_some_iff.1 hd
    rw [htail, List.dropWhile_cons_of_neg (by simp [hdblank])]
  rw [trim_append hbs, trim, trimStart, List.dropWhile_append_of_pos has, hstart, trimEnd, hend,
    List.reverse_reverse]

/-- What trimming removes is blank. -/
theorem exists_eq_trim (cs : List Char) : ∃ as bs, (∀ c ∈ as, isBlank c = true) ∧
    (∀ c ∈ bs, isBlank c = true) ∧ cs = as ++ trim cs ++ bs := by
  refine ⟨cs.takeWhile isBlank, ((trimStart cs).reverse.takeWhile isBlank).reverse,
    fun c hc => List.mem_takeWhile_imp hc,
    fun c hc => List.mem_takeWhile_imp (List.mem_reverse.1 hc), ?_⟩
  rw [trim, trimEnd, List.append_assoc, ← List.reverse_append, List.takeWhile_append_dropWhile,
    List.reverse_reverse, trimStart, List.takeWhile_append_dropWhile]

/-- The carriage return before a newline does not matter to a text that is trimmed. -/
theorem trim_endedLine (l : List Char) : trim (endedLine l.reverse) = trim l := by
  rw [endedLine.eq_def]
  split
  · rename_i acc hacc
    have hreturn : ∀ c ∈ ['\r'], isBlank c = true := List.forall_mem_singleton.2 rfl
    rw [← List.reverse_reverse l, hacc, List.reverse_cons, trim_append hreturn]
  · rw [List.reverse_reverse]

theorem trimStart_eq_nil_iff : trimStart cs = [] ↔ ∀ c ∈ cs, isBlank c = true := by
  rw [trimStart, List.dropWhile_eq_nil_iff]

theorem trim_sublist (cs : List Char) : (trim cs).Sublist cs := by
  rw [trim, trimEnd]
  have hend := (List.dropWhile_sublist isBlank (l := (trimStart cs).reverse)).reverse
  rw [List.reverse_reverse] at hend
  exact hend.trans (List.dropWhile_sublist isBlank)

/-- A text that trimming leaves as it is does not end in a blank. -/
theorem isBlank_eq_false_of_trim {c : Char} (h : trim cs = cs) (hc : cs.getLast? = some c) :
    isBlank c = false := by
  have hend : (trimStart cs).reverse.dropWhile isBlank = cs.reverse := by
    rw [← List.reverse_eq_iff]
    exact h
  rw [← List.head?_reverse, ← hend] at hc
  have hhead := List.head?_dropWhile_not isBlank (trimStart cs).reverse
  rw [hc] at hhead
  exact Bool.eq_false_iff.2 fun hblank => by simp [hblank] at hhead

end UnitFoundry.Text
