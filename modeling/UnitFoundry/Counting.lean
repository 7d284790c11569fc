/-! # Counting members of a list

A count under a condition goes down when the condition is narrowed and excludes a member that it
used to admit. Loops that claim members of a fixed list end by this measure. -/

namespace UnitFoundry

/-- A narrower condition that excludes a member admits fewer members. -/
theorem countP_lt_of_excludes {α : Type} {p q : α → Bool} {l : List α} {a : α}
    (hpq : ∀ b ∈ l, p b = true → q b = true) (ha : a ∈ l) (hp : p a = false) (hq : q a = true) :
    l.countP p < l.countP q := by
  induction l with
  | nil => simp at ha
  | cons b l ih =>
    have hle : l.countP p ≤ l.countP q :=
      List.countP_mono_left fun c hc => hpq c (List.mem_cons_of_mem _ hc)
    rcases List.mem_cons.1 ha with rfl | ha
    · rw [List.countP_cons_of_neg (by simp [hp]), List.countP_cons_of_pos hq]
      omega
    · have hlt := ih (fun c hc => hpq c (List.mem_cons_of_mem _ hc)) ha
      rw [List.countP_cons, List.countP_cons]
      cases hb : p b with
      | false => simp only [Bool.false_eq_true, ↓reduceIte]; omega
      | true => simp only [hpq b List.mem_cons_self hb, ↓reduceIte]; omega

end UnitFoundry
