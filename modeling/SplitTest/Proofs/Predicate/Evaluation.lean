import SplitTest.Predicate.Basic
import SplitTest.Proofs.Number.Floating
import SplitTest.Proofs.Outcome
import SplitTest.Proofs.Reached

/-! When a predicate has no answer: evaluation reaches an integer that is too large to be compared
as a double, or too long to be compared by its numeral. -/
namespace SplitTest

/-- An integer past the range of doubles. -/
def Value.PastDoubles (v : Value) : Prop :=
  ∃ n : ℤ, v.number? = some (.int n) ∧ binary64.overflowThreshold ≤ |(n : ℚ)|

/-- An integer with more digits than numerals may have. -/
def Value.PastNumerals (v : Value) : Prop :=
  ∃ n : ℤ, v.number? = some (.int n) ∧ SplitTest.hasLongNumeral n = true

/-- Both values are numbers, and one of them is past the range of doubles. -/
def Value.Incomparable (v w : Value) : Prop :=
  v.number?.isSome ∧ w.number?.isSome ∧ (v.PastDoubles ∨ w.PastDoubles)

theorem Number.comparand_error_iff {x : Number} :
    (∃ e, x.comparand = .error e) ↔
      ∃ n : ℤ, x = .int n ∧ binary64.overflowThreshold ≤ |(n : ℚ)| := by
  unfold comparand
  cases x with
  | int n =>
    have hn := Double.ofInt?_eq_none_iff n
    rw [toDouble?]
    cases hd : Double.ofInt? n <;> simp_all
  | double x => simp [toDouble?]
  | single x => simp [toDouble?]

theorem Number.matchText_error_iff {x : Number} {e : MatchKeyError} :
    x.matchText = .error e ↔ e = .longNumeral ∧ ∃ n : ℤ, x = .int n ∧ hasLongNumeral n = true := by
  cases x with
  | int n =>
    rw [matchText]
    split_ifs with hn
    · simp [hn, Eq.comm (a := e)]
    · simp [hn]
  | double x => simp [matchText]
  | single x => simp [matchText]

theorem MatchKey.ofScalar_of_number? {s : Scalar} {x : Number} (h : s.number? = some x) :
    ofScalar s = x.matchText.map .number := by
  cases s <;> cases h <;> rfl

theorem MatchKey.ofScalar_ne_longNumeral {s : Scalar} (h : s.number? = none) :
    ofScalar s ≠ .error .longNumeral := by
  cases s <;> simp_all [Scalar.number?, ofScalar]

theorem MatchKey.ofValue_longNumeral_iff {v : Value} :
    ofValue v = .error .longNumeral ↔ v.PastNumerals := by
  unfold Value.PastNumerals
  cases v with
  | scalar s =>
    rw [ofValue, Value.number?]
    cases hs : s.number? with
    | none => simp [ofScalar_ne_longNumeral hs]
    | some x => simp [ofScalar_of_number? hs, Except.map_eq_error_iff, Number.matchText_error_iff]
  | list items => simp [ofValue, Value.number?]
  | object entries => simp [ofValue, Value.number?]

theorem accepts_error_iff {accepted : List MatchKey} {v : Value} :
    (∃ e, accepts accepted v = .error e) ↔ v.PastNumerals := by
  rw [← MatchKey.ofValue_longNumeral_iff]
  unfold accepts
  cases MatchKey.ofValue v with
  | ok key => simp
  | error e => cases e <;> simp

theorem Comparison.test_error_iff {op : Comparison} {v w : Value} :
    (∃ e, op.test v w = .error e) ↔ v.Incomparable w := by
  unfold test Value.Incomparable Value.PastDoubles
  cases hx : v.number? with
  | none => simp
  | some x => cases hy : w.number? with
    | none => simp
    | some y =>
      simp only [Option.isSome_some, Option.some.injEq, true_and, ← Number.comparand_error_iff]
      cases x.comparand with
      | error e => simp
      | ok left => cases y.comparand <;> simp

namespace Predicate

variable {args : Arguments}

/-- Evaluation reaches an integer that it cannot compare. -/
inductive Stuck (args : Arguments) : Predicate → Prop
  | all {before : List Predicate} {p : Predicate} {after : List Predicate}
      (hbefore : ∀ q ∈ before, q.evaluate args = .ok true) (hp : Stuck args p) :
      Stuck args (.all (before ++ p :: after))
  | any {before : List Predicate} {p : Predicate} {after : List Predicate}
      (hbefore : ∀ q ∈ before, q.evaluate args = .ok false) (hp : Stuck args p) :
      Stuck args (.any (before ++ p :: after))
  | not {p : Predicate} (hp : Stuck args p) : Stuck args (.not p)
  | equal {field : String} {accepted : List MatchKey} (h : (args.get field).PastNumerals) :
      Stuck args (.equal field accepted)
  | compare {op : Comparison} {field : String} {threshold : Value}
      (h : (args.get field).Incomparable threshold) : Stuck args (.compare op field threshold)

theorem stuck_all_iff {children : List Predicate} :
    Stuck args (.all children) ↔
      Reached (fun p => p.evaluate args = .ok true) (Stuck args) children := by
  constructor
  · intro h
    cases h with
    | all hbefore hp => exact ⟨_, _, _, rfl, hbefore, hp⟩
  · rintro ⟨before, p, after, rfl, hbefore, hp⟩
    exact .all hbefore hp

theorem stuck_any_iff {children : List Predicate} :
    Stuck args (.any children) ↔
      Reached (fun p => p.evaluate args = .ok false) (Stuck args) children := by
  constructor
  · intro h
    cases h with
    | any hbefore hp => exact ⟨_, _, _, rfl, hbefore, hp⟩
  · rintro ⟨before, p, after, rfl, hbefore, hp⟩
    exact .any hbefore hp

theorem stuck_not_iff {p : Predicate} : Stuck args (.not p) ↔ Stuck args p :=
  ⟨fun h => by cases h; assumption, .not⟩

theorem stuck_equal_iff {field : String} {accepted : List MatchKey} :
    Stuck args (.equal field accepted) ↔ (args.get field).PastNumerals :=
  ⟨fun h => by cases h; assumption, .equal⟩

theorem stuck_compare_iff {op : Comparison} {field : String} {threshold : Value} :
    Stuck args (.compare op field threshold) ↔ (args.get field).Incomparable threshold :=
  ⟨fun h => by cases h; assumption, .compare⟩

mutual

/-- A predicate has no answer exactly if its evaluation is stuck. -/
theorem evaluate_error_iff : ∀ p : Predicate, (∃ e, p.evaluate args = .error e) ↔ Stuck args p
  | .all children => by
    rw [evaluate, stuck_all_iff]
    exact evaluateAll_error_iff children
  | .any children => by
    rw [evaluate, stuck_any_iff]
    exact evaluateAny_error_iff children
  | .not child => by
    rw [evaluate, stuck_not_iff, ← evaluate_error_iff child]
    cases child.evaluate args <;> simp
  | .equal field accepted => by
    rw [evaluate, stuck_equal_iff]
    exact accepts_error_iff
  | .compare op field threshold => by
    rw [evaluate, stuck_compare_iff]
    exact Comparison.test_error_iff
  | .constant answer => by
    rw [evaluate]
    exact iff_of_false (by simp) nofun

theorem evaluateAll_error_iff : ∀ children : List Predicate,
    (∃ e, evaluateAll args children = .error e) ↔
      Reached (fun p => p.evaluate args = .ok true) (Stuck args) children
  | [] => by
    rw [evaluateAll]
    exact iff_of_false (by simp) not_reached_nil
  | p :: rest => by
    rw [evaluateAll, reached_cons_iff, ← evaluateAll_error_iff rest, ← evaluate_error_iff p]
    cases p.evaluate args with
    | error e => simp
    | ok answer => cases answer <;> simp

theorem evaluateAny_error_iff : ∀ children : List Predicate,
    (∃ e, evaluateAny args children = .error e) ↔
      Reached (fun p => p.evaluate args = .ok false) (Stuck args) children
  | [] => by
    rw [evaluateAny]
    exact iff_of_false (by simp) not_reached_nil
  | p :: rest => by
    rw [evaluateAny, reached_cons_iff, ← evaluateAny_error_iff rest, ← evaluate_error_iff p]
    cases p.evaluate args with
    | error e => simp
    | ok answer => cases answer <;> simp

end

end Predicate
end SplitTest
