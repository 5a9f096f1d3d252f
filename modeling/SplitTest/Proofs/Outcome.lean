/-! Outcomes of steps that may fail: where a value or an error comes from. -/
namespace SplitTest.Except

variable {ε ε' α β : Type}

@[simp] theorem ok_bind (a : α) (k : α → Except ε β) : (Except.ok a >>= k) = k a := rfl

@[simp] theorem error_bind (e : ε) (k : α → Except ε β) :
    ((Except.error e : Except ε α) >>= k) = .error e := rfl

@[simp] theorem pure_eq_ok (a : α) : (pure a : Except ε α) = .ok a := rfl

@[simp] theorem fmap_eq_map (f : α → β) (x : Except ε α) : f <$> x = x.map f := rfl

@[simp] theorem map_ok (f : α → β) (a : α) : (Except.ok a : Except ε α).map f = .ok (f a) := rfl

@[simp] theorem map_error (f : α → β) (e : ε) :
    (Except.error e : Except ε α).map f = .error e := rfl

@[simp] theorem mapError_ok (f : ε → ε') (a : α) :
    (Except.ok a : Except ε α).mapError f = .ok a := rfl

@[simp] theorem mapError_error (f : ε → ε') (e : ε) :
    (Except.error e : Except ε α).mapError f = .error (f e) := rfl

theorem bind_eq_ok_iff {x : Except ε α} {k : α → Except ε β} {b : β} :
    (x >>= k) = .ok b ↔ ∃ a, x = .ok a ∧ k a = .ok b := by
  cases x <;> simp

theorem bind_eq_error_iff {x : Except ε α} {k : α → Except ε β} {e : ε} :
    (x >>= k) = .error e ↔ x = .error e ∨ ∃ a, x = .ok a ∧ k a = .error e := by
  cases x <;> simp

theorem map_eq_ok_iff {x : Except ε α} {f : α → β} {b : β} :
    x.map f = .ok b ↔ ∃ a, x = .ok a ∧ f a = b := by
  cases x <;> simp

theorem map_eq_error_iff {x : Except ε α} {f : α → β} {e : ε} :
    x.map f = .error e ↔ x = .error e := by
  cases x <;> simp

theorem mapError_eq_ok_iff {x : Except ε α} {f : ε → ε'} {a : α} :
    x.mapError f = .ok a ↔ x = .ok a := by
  cases x <;> simp

theorem mapError_eq_error_iff {x : Except ε α} {f : ε → ε'} {e' : ε'} :
    x.mapError f = .error e' ↔ ∃ e, x = .error e ∧ f e = e' := by
  cases x <;> simp

theorem exists_ok_iff {x : Except ε α} {a : α} (h : x = .ok a) {p : α → Prop} :
    (∃ b, x = .ok b ∧ p b) ↔ p a := by
  simp [h]

/-- A step gives a value with a property. -/
inductive Yields (p : α → Prop) : Except ε α → Prop
  | ok {a : α} (h : p a) : Yields p (.ok a)

theorem yields_iff {p : α → Prop} {x : Except ε α} : Yields p x ↔ ∃ a, x = .ok a ∧ p a := by
  constructor
  · rintro ⟨h⟩
    exact ⟨_, rfl, h⟩
  · rintro ⟨a, rfl, h⟩
    exact .ok h

instance {p : α → Prop} [DecidablePred p] : DecidablePred (Yields p : Except ε α → Prop)
  | .ok _ => decidable_of_iff _ ⟨.ok, fun | .ok h => h⟩
  | .error _ => .isFalse nofun

end SplitTest.Except
