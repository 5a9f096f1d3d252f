import SplitTest.Predicate.Basic
import SplitTest.Proofs.Number.Equality
import SplitTest.Proofs.Outcome

/-! What a predicate reads of a request: the fields that it names, and of their values no more than
type and value. -/
namespace SplitTest

/-- Values of the same type that are the same, or equal as numbers or moments. Requests are not told
apart by the content of a list or an object, so all lists are alike, and all objects. -/
inductive Value.Alike : Value → Value → Prop
  | refl (v : Value) : Alike v v
  | float {x y : Double} (h : x.eq y = true) : Alike (.float x) (.float y)
  | float64 {x y : Double} (h : x.eq y = true) :
      Alike (.scalar (.float64 x)) (.scalar (.float64 y))
  | float32 {x y : Single} (h : x.eq y = true) :
      Alike (.scalar (.float32 x)) (.scalar (.float32 y))
  | dateTime {s t : DateTime} (h : s.sameMoment t = true) :
      Alike (.scalar (.dateTime s)) (.scalar (.dateTime t))
  | list (items others : List Value) : Alike (.list items) (.list others)
  | object (entries others : Entries) : Alike (.object entries) (.object others)

/-- Equal numbers have the same canonical text: they are the same integer, or the same number. -/
theorem Floating.canonical_congr {F : Format} {x y : Floating F} (h : x.eq y = true)
    (text : Floating F → String) :
    (x.toInt?.map intText).getD (text x) = (y.toInt?.map intText).getD (text y) := by
  have hint := toInt?_congr h
  cases hx : x.toInt? with
  | none => rw [← eq_of_toInt?_eq_none h hx, hx]
  | some n => simp [← hint, hx]

theorem DateTime.sameMoment_congr {s t : DateTime} (h : s.sameMoment t = true) (u : DateTime) :
    u.sameMoment s = u.sameMoment t := by
  simp only [sameMoment, Bool.and_eq_true, beq_iff_eq] at h
  obtain ⟨⟨hoffset, hseconds⟩, hmicro⟩ := h
  simp only [sameMoment, hoffset, hseconds, hmicro]

theorem Comparison.holds_congr (op : Comparison) {x y : Double} (h : x.eq y = true) (z : Double) :
    op.holds x z = op.holds y z := by
  rcases Floating.eq_iff.mp h with ⟨s, rfl, rfl⟩ | ⟨f, g, rfl, rfl, hfg⟩
  · rfl
  · cases op <;> cases z <;> simp [holds, Floating.le, Floating.lt, Floating.eq, hfg]

theorem accepts_congr {v w : Value} (h : v.Alike w) (accepted : List MatchKey) :
    accepts accepted v = accepts accepted w := by
  have hkeys : ∀ {k k' : MatchKey}, (∀ a : MatchKey, a.same k = a.same k') →
      accepted.any (·.same k) = accepted.any (·.same k') := by
    intro k k' hk
    simp only [hk]
  cases h with
  | refl => rfl
  | float hxy | float64 hxy =>
    have htext := Floating.canonical_congr hxy Floating.text
    simp [accepts, MatchKey.ofValue, MatchKey.ofScalar, Number.matchText, Number.canonicalText,
      htext]
  | float32 hxy =>
    have htext := Floating.canonical_congr hxy FloatLayout.single.text
    simp [accepts, MatchKey.ofValue, MatchKey.ofScalar, Number.matchText, Number.canonicalText,
      htext]
  | dateTime hst =>
    refine congrArg Except.ok (hkeys fun a => ?_)
    cases a with
    | dateTime u => exact DateTime.sameMoment_congr hst u
    | _ => rfl
  | list items others => rfl
  | object entries others => rfl

theorem Comparison.test_of_comparands {v w : Value} {x y : Number} (hx : v.number? = some x)
    (hy : w.number? = some y) {d e : Double} (hd : x.comparand = .ok d) (he : y.comparand = .ok e)
    (h : d.eq e = true) (op : Comparison) (threshold : Value) :
    op.test v threshold = op.test w threshold := by
  unfold test
  rw [hx, hy]
  cases threshold.number? with
  | none => rfl
  | some z =>
    simp only [hd, he, Except.ok_bind]
    cases z.comparand with
    | error _ => rfl
    | ok right => simp [op.holds_congr h right]

theorem Comparison.test_congr {v w : Value} (h : v.Alike w) (op : Comparison) (threshold : Value) :
    op.test v threshold = op.test w threshold := by
  cases h with
  | refl => rfl
  | float hxy | float64 hxy => exact test_of_comparands rfl rfl rfl rfl hxy op threshold
  | float32 hxy =>
    exact test_of_comparands rfl rfl rfl rfl (Floating.convert_congr hxy) op threshold
  | dateTime hst => rfl
  | list items others => rfl
  | object entries others => rfl

namespace Predicate

mutual

/-- The fields that a predicate names. -/
def fields : Predicate → List String
  | .all children => fieldsAmong children
  | .any children => fieldsAmong children
  | .not child => fields child
  | .equal field _ => [field]
  | .compare _ field _ => [field]
  | .constant _ => []

def fieldsAmong : List Predicate → List String
  | [] => []
  | p :: rest => fields p ++ fieldsAmong rest

end

variable {args others : Arguments}

mutual

/-- Arguments that are alike in all fields that a predicate names get the same answer, or fail in
the same way. -/
theorem evaluate_congr (p : Predicate) (h : ∀ f ∈ p.fields, (args.get f).Alike (others.get f)) :
    p.evaluate args = p.evaluate others := by
  match p with
  | .all children => exact evaluateAll_congr children h
  | .any children => exact evaluateAny_congr children h
  | .not child => simp only [evaluate, evaluate_congr child h]
  | .equal field accepted => exact accepts_congr (h field (by simp [fields])) accepted
  | .compare op field threshold =>
    exact Comparison.test_congr (h field (by simp [fields])) op threshold
  | .constant answer => rfl

theorem evaluateAll_congr (ps : List Predicate)
    (h : ∀ f ∈ fieldsAmong ps, (args.get f).Alike (others.get f)) :
    evaluateAll args ps = evaluateAll others ps := by
  match ps with
  | [] => rfl
  | p :: rest =>
    have hp := evaluate_congr p fun f hf => h f (List.mem_append_left _ hf)
    have hrest := evaluateAll_congr rest fun f hf => h f (List.mem_append_right _ hf)
    simp only [evaluateAll, hp, hrest]

theorem evaluateAny_congr (ps : List Predicate)
    (h : ∀ f ∈ fieldsAmong ps, (args.get f).Alike (others.get f)) :
    evaluateAny args ps = evaluateAny others ps := by
  match ps with
  | [] => rfl
  | p :: rest =>
    have hp := evaluate_congr p fun f hf => h f (List.mem_append_left _ hf)
    have hrest := evaluateAny_congr rest fun f hf => h f (List.mem_append_right _ hf)
    simp only [evaluateAny, hp, hrest]

end

end Predicate
end SplitTest
