import Mathlib.Data.List.Forall2
import Mathlib.Tactic.Tauto
import SplitTest.Proofs.Outcome

/-! Items that a search from the left reaches: the ones in front of them let it pass. -/
namespace SplitTest

variable {α β : Type} {passes hits : α → Prop} {a : α} {l : List α}

/-- Some item is a hit, and all items in front of it let a search pass. -/
def Reached (passes hits : α → Prop) (l : List α) : Prop :=
  ∃ before a after, l = before ++ a :: after ∧ (∀ b ∈ before, passes b) ∧ hits a

theorem not_reached_nil : ¬ Reached passes hits [] := by
  rintro ⟨before, a, after, h, -⟩
  simp at h

theorem reached_cons_iff :
    Reached passes hits (a :: l) ↔ hits a ∨ (passes a ∧ Reached passes hits l) := by
  constructor
  · rintro ⟨before, b, after, h, hbefore, hb⟩
    cases before with
    | nil =>
      obtain ⟨rfl, -⟩ := List.cons.inj h
      exact Or.inl hb
    | cons c before =>
      obtain ⟨rfl, rfl⟩ := List.cons.inj h
      exact Or.inr ⟨hbefore a (by simp), before, b, after, rfl,
        fun d hd => hbefore d (by simp [hd]), hb⟩
  · rintro (ha | ⟨ha, before, b, after, rfl, hbefore, hb⟩)
    · exact ⟨[], a, l, rfl, by simp, ha⟩
    · exact ⟨a :: before, b, after, rfl, by simpa using ⟨ha, hbefore⟩, hb⟩

theorem reached_congr {passes' hits' : α → Prop} (hp : ∀ b, passes b ↔ passes' b)
    (hh : ∀ b, hits b ↔ hits' b) : Reached passes hits l ↔ Reached passes' hits' l := by
  simp only [Reached, hp, hh]

/-- A search is the same in two lists whose items correspond. -/
theorem reached_iff_of_forall₂ {R : α → β → Prop} {passes' hits' : β → Prop} {l' : List β}
    (h : List.Forall₂ R l l') (hp : ∀ a b, R a b → (passes a ↔ passes' b))
    (hh : ∀ a b, R a b → (hits a ↔ hits' b)) :
    Reached passes hits l ↔ Reached passes' hits' l' := by
  induction h with
  | nil => exact iff_of_false not_reached_nil not_reached_nil
  | cons hab _ ih => rw [reached_cons_iff, reached_cons_iff, hp _ _ hab, hh _ _ hab, ih]

theorem forall_iff_of_forall₂ {R : α → β → Prop} {p : α → Prop} {q : β → Prop} {l' : List β}
    (h : List.Forall₂ R l l') (hpq : ∀ a b, R a b → (p a ↔ q b)) :
    (∀ a ∈ l, p a) ↔ ∀ b ∈ l', q b := by
  induction h with
  | nil => simp
  | cons hab _ ih => rw [List.forall_mem_cons, List.forall_mem_cons, hpq _ _ hab, ih]

/-- A search that also tells which item it came to. -/
theorem exists_reached_iff {γ : Type} (f : α → γ) :
    (∃ c, Reached passes (fun a => f a = c ∧ hits a) l) ↔ Reached passes hits l := by
  constructor
  · rintro ⟨-, before, a, after, hl, hbefore, -, ha⟩
    exact ⟨before, a, after, hl, hbefore, ha⟩
  · rintro ⟨before, a, after, hl, hbefore, ha⟩
    exact ⟨f a, before, a, after, hl, hbefore, rfl, ha⟩

theorem reached_append_iff {l' : List α} : Reached passes hits (l ++ l') ↔
    Reached passes hits l ∨ ((∀ a ∈ l, passes a) ∧ Reached passes hits l') := by
  induction l with
  | nil => simp [not_reached_nil]
  | cons a rest ih =>
    rw [List.cons_append, reached_cons_iff, ih, reached_cons_iff, List.forall_mem_cons]
    tauto

/-- A search through lists, one after the other, is one through all their items. -/
theorem reached_flatten_iff {ls : List (List α)} :
    Reached passes hits ls.flatten ↔
      Reached (fun l => ∀ a ∈ l, passes a) (Reached passes hits) ls := by
  induction ls with
  | nil => exact iff_of_false not_reached_nil not_reached_nil
  | cons l rest ih => rw [List.flatten_cons, reached_append_iff, ih, reached_cons_iff]

theorem mapM_eq_ok_iff {ε : Type} {f : α → Except ε β} :
    (∃ bs, l.mapM f = .ok bs) ↔ ∀ a ∈ l, ∃ b, f a = .ok b := by
  induction l with
  | nil => simp
  | cons a rest ih =>
    rw [List.forall_mem_cons, ← ih, List.mapM_cons]
    cases f a with
    | error e => simp
    | ok b => cases rest.mapM f <;> simp

theorem mapM_congr_of_forall₂ {ε : Type} {f : α → Except ε β} {l' : List α}
    (h : List.Forall₂ (fun a b => f a = f b) l l') : l.mapM f = l'.mapM f := by
  induction h with
  | nil => rfl
  | cons ha _ ih => rw [List.mapM_cons, List.mapM_cons, ha, ih]

theorem forall₂_of_mapM {ε : Type} {f : α → Except ε β} {bs : List β} (h : l.mapM f = .ok bs) :
    List.Forall₂ (fun a b => f a = .ok b) l bs := by
  induction l generalizing bs with
  | nil =>
    obtain rfl := Except.ok.inj h
    exact .nil
  | cons a rest ih =>
    rw [List.mapM_cons] at h
    obtain ⟨b, hb, h⟩ := Except.bind_eq_ok_iff.mp h
    obtain ⟨others, hothers, h⟩ := Except.bind_eq_ok_iff.mp h
    obtain rfl := Except.ok.inj h
    exact .cons hb (ih hothers)

/-- A step for each item fails with the error of the first item whose step fails. -/
theorem mapM_eq_error_iff {ε : Type} {f : α → Except ε β} {e : ε} :
    l.mapM f = .error e ↔ Reached (fun a => ∃ b, f a = .ok b) (fun a => f a = .error e) l := by
  induction l with
  | nil => exact iff_of_false (by simp) not_reached_nil
  | cons a rest ih =>
    rw [reached_cons_iff, ← ih, List.mapM_cons]
    cases f a with
    | error e' => simp
    | ok b => cases rest.mapM f <;> simp

end SplitTest
