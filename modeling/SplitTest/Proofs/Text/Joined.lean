import Mathlib.Data.List.Basic

/-! Lists that are joined by a mark. Where the join is can be told if the marks in front of it are
counted, in particular if there are none; from the end, if there are none behind it. -/
namespace SplitTest

variable {α : Type} {mark : α}

/-- A list is split in one way at a mark with so many marks in front of it. -/
theorem append_mark_inj_of_count [DecidableEq α] {front front' back back' : List α}
    (h : front.count mark = front'.count mark) :
    front ++ mark :: back = front' ++ mark :: back' ↔ front = front' ∧ back = back' := by
  refine ⟨fun heq => ?_, fun ⟨hfront, hback⟩ => by rw [hfront, hback]⟩
  rcases List.append_eq_append_iff.mp heq with ⟨more, hfront, hback⟩ | ⟨more, hfront, hback⟩
  all_goals
    cases more with
    | nil => simp_all
    | cons a rest =>
      -- What one front has more starts with the mark of the other join.
      obtain ⟨rfl, -⟩ := List.cons.inj hback
      rw [hfront, List.count_append, List.count_cons_self] at h
      omega

/-- A list is split in one way at the first mark. -/
theorem append_mark_inj {front front' back back' : List α} (h : mark ∉ front)
    (h' : mark ∉ front') :
    front ++ mark :: back = front' ++ mark :: back' ↔ front = front' ∧ back = back' := by
  classical
  apply append_mark_inj_of_count
  rw [List.count_eq_zero.mpr h, List.count_eq_zero.mpr h']

/-- So it is at the last mark. -/
theorem append_lastMark_inj {front front' back back' : List α} (h : mark ∉ back)
    (h' : mark ∉ back') :
    front ++ mark :: back = front' ++ mark :: back' ↔ front = front' ∧ back = back' := by
  rw [← List.reverse_inj, List.reverse_append, List.reverse_append, List.reverse_cons,
    List.reverse_cons, List.append_assoc, List.append_assoc, List.singleton_append,
    List.singleton_append, append_mark_inj (by simpa using h) (by simpa using h'),
    List.reverse_inj, List.reverse_inj, and_comm]

end SplitTest
