import SplitTest.Proofs.Predicate.Equality

/-! Equality tests and comparisons with the same threshold. Equality tests are exact and comparisons
are made on doubles, so they agree except on different numbers with the same double. -/
namespace SplitTest

/-- What is left of a number that is made a double. -/
def ExactNumber.rounded : ExactNumber → ExactNumber
  | rational q => rational (binary64.nearest q)
  | x => x

/-- Integers in the range of doubles, and doubles. -/
inductive Number.InDoubles : Number → Prop
  | int {n : ℤ} {d : Double} (h : Double.ofInt? n = some d) : InDoubles (.int n)
  | double (d : Double) : InDoubles (.double d)

/-- Numbers that are equal exactly if their doubles are equal. -/
def Number.ToldApart (x y : Number) : Prop :=
  ∀ d e, x.toDouble? = some d → y.toDouble? = some e → d.eq e = true → x.exact = y.exact

namespace Floating

variable {F : Format} {x y : Floating F}

theorem eq_iff_exact : x.eq y = true ↔ x.exact = y.exact ∧ x.exact ≠ .nan := by
  cases x <;> cases y <;> simp [eq, exact]

theorem eq_swap (x y : Floating F) : x.eq y = y.eq x := by
  cases x <;> cases y <;> simp [eq, eq_comm]

/-- Equal numbers are not less than each other. -/
theorem lt_eq_false_of_eq (h : x.eq y = true) : x.lt y = false := by
  rcases eq_iff.mp h with ⟨s, rfl, rfl⟩ | ⟨f, g, rfl, rfl, hfg⟩
  · cases s <;> rfl
  · simp [lt, hfg]

/-- A double is not changed where it is made a double. -/
theorem exact_rounded (d : Double) : d.exact.rounded = d.exact := by
  cases d with
  | finite f => simp only [exact, ExactNumber.rounded, f.nearest_toRat]
  | _ => rfl

end Floating

theorem hasLongNumeral_of_lt {n : ℤ} {k : ℕ} (hk : k ≤ numeralLimit)
    (h : |(n : ℚ)| < 10 ^ (k : ℤ)) : hasLongNumeral n = false := by
  have hsize : n.natAbs < 10 ^ k := by
    rw [zpow_natCast, ← Int.cast_abs, ← Nat.cast_natAbs] at h
    exact_mod_cast h
  have hlimit : ∀ m, k ≤ m → ¬ Nat.pow 10 m ≤ n.natAbs := fun m hm =>
    not_le.mpr (hsize.trans_le (Nat.pow_le_pow_right (by norm_num) hm))
  exact decide_eq_false (hlimit numeralLimit hk)

namespace Number

variable {x y : Number}

theorem exact_of_ofInt? {n : ℤ} {d : Double} (h : Double.ofInt? n = some d) :
    d.exact = .rational (binary64.nearest n) := by
  obtain ⟨f, rfl, hf⟩ := Floating.toRat?_eq_some_iff.mp (Double.toRat?_of_ofInt? h)
  show ExactNumber.rational f.toRat = _
  rw [hf]

theorem InDoubles.exists_double (h : x.InDoubles) :
    ∃ d, x.toDouble? = some d ∧ d.exact = x.exact.rounded := by
  cases h with
  | @int n d h => exact ⟨d, h, exact_of_ofInt? h⟩
  | double d => exact ⟨d, rfl, d.exact_rounded.symm⟩

theorem InDoubles.canonicalForm (h : x.InDoubles) : x.CanonicalForm := by
  cases h with
  | int => exact canonicalForm_int _
  | double d => exact canonicalForm_double d

/-- Integers in the range of doubles have numerals. -/
theorem InDoubles.matchText (h : x.InDoubles) : x.matchText = .ok x.canonicalText := by
  cases h with
  | @int n d h =>
    have hsome : Double.ofInt? n ≠ none := by simp [h]
    rw [ne_eq, Double.ofInt?_eq_none_iff, not_le] at hsome
    have hshort : hasLongNumeral n = false :=
      hasLongNumeral_of_lt (k := 400) (by decide) (hsome.trans_le Decimal.le_ten_zpow_reach)
    rw [Number.matchText, hshort]
    rfl
  | double d => rfl

end Number

namespace MatchKey

theorem keyOf_of_inDoubles {a : Scalar} {x : Number} (ha : a.number? = some x)
    (hx : x.InDoubles) : ∃ k, ofScalar a = .ok k ∧ KeyOf a k := by
  refine ⟨.number x.canonicalText, ?_, .number ha hx.canonicalForm⟩
  rw [ofScalar_of_number? ha, hx.matchText]
  rfl

end MatchKey

namespace Predicate

/-- Documents that test a field against a scalar, with the operator's name in any case of letters
and the two entries in any order. -/
inductive TestDocument (op : Operator) (field : String) (t : Scalar) : Value → Prop
  | test {key : String} {entries : Entries} (hkey : lowercase key = op.name)
      (h : entries.Perm [(.text "field", .text field), (.text "value", .scalar t)]) :
      TestDocument op field t (.object [(.text key, .object entries)])

/-- Every such document is read, and all have one answer for a request. -/
def Answers (op : Operator) (field : String) (t : Scalar) (args : Arguments) (answer : Bool) :
    Prop :=
  ∀ document, TestDocument op field t document →
    ∃ p, compile document = .ok p ∧ p.matchesRequest args = .ok answer

variable {key field : String} {t c : Scalar} {x y : Number} {args : Arguments}

theorem answers_equal {j k : MatchKey} (ht : MatchKey.ofScalar t = .ok j)
    (hc : MatchKey.ofScalar c = .ok k) (hargs : args.Holds field c) :
    Answers .equal field t args (j.same k) := by
  intro document hdocument
  obtain @⟨key, entries, hkey, h⟩ := hdocument
  obtain ⟨e, e', rfl⟩ := List.length_eq_two.mp h.length_eq
  obtain ⟨hfield, hvalues⟩ := acceptedValues_of_equalTests (.value h)
  have hmatch : matchKeyOf (.scalar t) = .ok j := by
    rw [matchKeyOf, MatchKey.ofValue, ht]
  refine ⟨.equal (lowercase field) [j], ?_, ?_⟩
  · show ofNode _ = _
    rw [ofNode_equal hkey, equalOf, hfield, Except.ok_bind, hvalues, Except.ok_bind, List.map_cons,
      List.mapM_cons, hmatch]
    rfl
  · rw [matchesRequest, evaluate, Arguments.get_of_holds hargs, accepts, MatchKey.ofValue, hc]
    simp

theorem answers_compare {op : Comparison} {left right : Double} (ht : t.number? = some x)
    (hc : c.number? = some y) (hright : x.toDouble? = some right) (hleft : y.toDouble? = some left)
    (hargs : args.Holds field c) : Answers (.compare op) field t args (op.holds left right) := by
  intro document hdocument
  obtain @⟨key, entries, hkey, h⟩ := hdocument
  obtain ⟨e, e', rfl⟩ := List.length_eq_two.mp h.length_eq
  have hfind := Entries.find?_of_perm (by decide) h
  have hfield : fieldOf .compare [e, e'] = .ok (lowercase field) :=
    fieldOf_eq_ok_iff.mpr ⟨field, hfind "field", rfl⟩
  have hvalue : Entries.find? [e, e'] "value" = some (.scalar t) := hfind "value"
  refine ⟨.compare op (lowercase field) (.scalar t), ?_, ?_⟩
  · show ofNode _ = _
    rw [ofNode_compare hkey, compareOf, hfield, Except.ok_bind, hvalue]
    rfl
  · have hcandidate : (Value.scalar c).number? = some y := hc
    have hthreshold : (Value.scalar t).number? = some x := ht
    rw [matchesRequest, evaluate, Arguments.get_of_holds hargs, Comparison.test, hcandidate,
      hthreshold]
    simp [Number.comparand, hleft, hright]

/-- With doubles that may be equal where the numbers are not, the comparisons go by the doubles. -/
theorem comparisons_agree_iff {equal : Bool} {left right : Double}
    (h : equal = true → left.eq right = true) :
    ((Comparison.ne.holds left right = true ↔ equal = false) ↔
      (left.eq right = true → equal = true)) ∧
    ((Comparison.ge.holds left right = true ↔
        Comparison.gt.holds left right = true ∨ equal = true) ↔
      (left.eq right = true → equal = true)) ∧
    ((Comparison.le.holds left right = true ↔
        Comparison.lt.holds left right = true ∨ equal = true) ↔
      (left.eq right = true → equal = true)) := by
  have hlt : left.eq right = true → left.lt right = false := Floating.lt_eq_false_of_eq
  have hgt : left.eq right = true → right.lt left = false := fun heq =>
    Floating.lt_eq_false_of_eq ((Floating.eq_swap right left).trans heq)
  simp only [Comparison.holds, Floating.le, Floating.eq_swap right left]
  cases heq : left.eq right with
  | false =>
    have hequal : equal = false := by
      rw [heq] at h
      simpa using h
    simp [hequal]
  | true => cases equal <;> simp [hlt heq, hgt heq]

/-- A test for equality agrees with the comparisons exactly if the number and the threshold are
equal or have different doubles: what is not equal is then unequal, and a weak comparison is the
strict one or equality. -/
theorem compile_comparisons_agree_iff (ht : t.number? = some x) (hc : c.number? = some y)
    (hx : x.InDoubles) (hy : y.InDoubles) (hnan : y.exact ≠ .nan) (hargs : args.Holds field c) :
    ∃ (equal : Bool) (compare : Comparison → Bool), Answers .equal field t args equal ∧
      (∀ op, Answers (.compare op) field t args (compare op)) ∧
      ((compare .ne = true ↔ equal = false) ↔ y.ToldApart x) ∧
      ((compare .ge = true ↔ compare .gt = true ∨ equal = true) ↔ y.ToldApart x) ∧
      ((compare .le = true ↔ compare .lt = true ∨ equal = true) ↔ y.ToldApart x) := by
  obtain ⟨j, hj, hjkey⟩ := MatchKey.keyOf_of_inDoubles ht hx
  obtain ⟨k, hk, hkkey⟩ := MatchKey.keyOf_of_inDoubles hc hy
  obtain ⟨right, hright, hxright⟩ := hx.exists_double
  obtain ⟨left, hleft, hyleft⟩ := hy.exists_double
  have hequal : j.same k = true ↔ y.exact = x.exact := by
    rw [hjkey.same_iff hkkey, Scalar.same_number_iff ht hc, eq_comm]
  have hdouble : left.eq right = true ↔ y.exact.rounded = x.exact.rounded := by
    have hrounded : y.exact.rounded ≠ .nan := by
      cases hexact : y.exact with
      | nan => exact absurd hexact hnan
      | _ => simp [ExactNumber.rounded]
    rw [Floating.eq_iff_exact, hyleft, hxright, and_iff_left hrounded]
  have htold : y.ToldApart x ↔ (left.eq right = true → j.same k = true) := by
    rw [hequal]
    constructor
    · intro h
      exact h left right hleft hright
    · intro h d e hd he
      obtain rfl := Option.some.inj (hleft.symm.trans hd)
      obtain rfl := Option.some.inj (hright.symm.trans he)
      exact h
  rw [htold]
  refine ⟨j.same k, fun op => op.holds left right, answers_equal hj hk hargs,
    fun op => answers_compare ht hc hright hleft hargs, comparisons_agree_iff fun hsame => ?_⟩
  rw [hdouble, hequal.mp hsame]

/-- The last integer before doubles have gaps, and the double that is equal to it. -/
theorem compile_comparisons_agree_lastWhole : ∃ (equal : Bool) (compare : Comparison → Bool),
    Answers .equal "size" (.int (2 ^ 53)) [("SIZE", .float (.ofInt (2 ^ 53)))] equal ∧
    (∀ op, Answers (.compare op) "size" (.int (2 ^ 53)) [("SIZE", .float (.ofInt (2 ^ 53)))]
      (compare op)) ∧
    (compare .ne = true ↔ equal = false) ∧
    (compare .ge = true ↔ compare .gt = true ∨ equal = true) ∧
    (compare .le = true ↔ compare .lt = true ∨ equal = true) := by
  have hvalue : (Number.double (.ofInt (2 ^ 53))).exact = (Number.int (2 ^ 53)).exact := by
    decide +kernel
  have hint : (Number.int (2 ^ 53)).InDoubles := .int (d := .ofInt (2 ^ 53)) (by decide +kernel)
  have hnan : (Number.double (.ofInt (2 ^ 53))).exact ≠ .nan := by
    rw [hvalue]
    simp [Number.exact]
  have hargs : Arguments.Holds "size" [("SIZE", .float (.ofInt (2 ^ 53)))]
      (.float (.ofInt (2 ^ 53))) :=
    @Arguments.Holds.present "size" [] [] "SIZE" _ (by decide +kernel) (by simp)
  obtain ⟨equal, compare, hequal, hcompare, hne, hge, hle⟩ :=
    compile_comparisons_agree_iff (t := .int (2 ^ 53)) rfl rfl hint (.double _) hnan hargs
  have htold : (Number.double (.ofInt (2 ^ 53))).ToldApart (.int (2 ^ 53)) :=
    fun _ _ _ _ _ => hvalue
  exact ⟨equal, compare, hequal, hcompare, hne.mpr htold, hge.mpr htold, hle.mpr htold⟩

/-- A test of a field against the last integer before doubles have gaps. -/
def lastWholeTest (operator : String) : Value :=
  .object [(.text operator, .object [(.text "field", .text "n"), (.text "value", .int (2 ^ 53))])]

/-- The next integer has the same double, so that it is neither equal nor unequal. -/
theorem not_agree_nextWhole : (Double.ofInt? (2 ^ 53)).isSome = true ∧
    (Double.ofInt? (2 ^ 53 + 1)).isSome = true ∧ ∃ answer : String → Bool,
      (∀ operator ∈ ["EQ", "NE", "GT", "GE", "LT", "LE"], ∃ p,
        compile (lastWholeTest operator) = .ok p ∧
          p.matchesRequest [("n", .int (2 ^ 53 + 1))] = .ok (answer operator)) ∧
      ¬ (answer "NE" = true ↔ answer "EQ" = false) ∧
      ¬ (answer "GE" = true ↔ answer "GT" = true ∨ answer "EQ" = true) ∧
      ¬ (answer "LE" = true ↔ answer "LT" = true ∨ answer "EQ" = true) := by
  have hanswers : ∀ operator ∈ ["EQ", "NE", "GT", "GE", "LT", "LE"],
      Except.Yields (fun p => p.matchesRequest [("n", .int (2 ^ 53 + 1))] =
        .ok (operator = "GE" || operator = "LE")) (compile (lastWholeTest operator)) := by
    decide +kernel
  refine ⟨by decide +kernel, by decide +kernel, fun operator => operator = "GE" || operator = "LE",
    fun operator hoperator => Except.yields_iff.mp (hanswers operator hoperator), ?_⟩
  decide

end Predicate
end SplitTest
