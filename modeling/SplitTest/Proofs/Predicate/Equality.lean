import SplitTest.Proofs.Number.Text
import SplitTest.Proofs.Predicate.Grammar

/-! Equality tests are exact: numbers are equal as reals, however they are written, and values of
different kinds are never equal. -/
namespace SplitTest

/-- What a number is: without a value, infinite, or a rational. -/
inductive ExactNumber where
  | nan
  | infinity (negative : Bool)
  | rational (q : ℚ)
deriving DecidableEq

def Floating.exact {F : Format} : Floating F → ExactNumber
  | nan => .nan
  | infinity s => .infinity s
  | finite x => .rational x.toRat

def Number.exact : Number → ExactNumber
  | int n => .rational n
  | double x => x.exact
  | single x => x.exact

namespace Floating

variable {F : Format} {x y : Floating F}

theorem toInt?_eq_some_iff {n : ℤ} : x.toInt? = some n ↔ x.exact = .rational n := by
  cases x with
  | finite x =>
    simp only [toInt?, exact, ExactNumber.rational.injEq]
    constructor
    · intro h
      split_ifs at h with hden
      rw [← Option.some.inj h]
      exact (Rat.coe_int_num_of_den_eq_one hden).symm
    · intro h
      rw [h]
      simp
  | _ => simp [toInt?, exact]

/-- Numbers that are the same exactly are the same, but for the sign of zero. -/
theorem eq_of_exact_eq (h : x.exact = y.exact) (hx : x.toInt? = none) : x = y := by
  cases x with
  | nan => cases y <;> simp_all [exact]
  | infinity s => cases y <;> simp_all [exact]
  | finite x =>
    cases y with
    | finite y =>
      have hxy : x.toRat = y.toRat := ExactNumber.rational.inj h
      have h0 : x.toRat ≠ 0 := by
        intro h0
        simp [toInt?, h0] at hx
      rw [Finite.eq_of_toRat_eq hxy h0]
    | _ => cases h

end Floating

namespace Number

variable {x y : Number}

/-- The two forms of a canonical text: that of an integer, and that of a double that is none. -/
inductive CanonicalForm (x : Number) : Prop
  | whole (n : ℤ) (htext : x.canonicalText = intText n) (hvalue : x.exact = .rational n)
  | other (d : Double) (htext : x.canonicalText = d.text) (hvalue : x.exact = d.exact)
      (hd : d.toInt? = none)

theorem canonicalForm_int (n : ℤ) : CanonicalForm (.int n) :=
  .whole n rfl rfl

theorem canonicalForm_double (d : Double) : CanonicalForm (.double d) := by
  cases hd : d.toInt? with
  | none => exact .other d (by rw [canonicalText, hd]; rfl) rfl hd
  | some n => exact .whole n (by rw [canonicalText, hd]; rfl) (Floating.toInt?_eq_some_iff.mp hd)

/-- Canonical texts are the same exactly if the numbers are equal. -/
theorem CanonicalForm.text_eq_iff (hx : CanonicalForm x) (hy : CanonicalForm y) :
    x.canonicalText = y.canonicalText ↔ x.exact = y.exact := by
  have hapart : ∀ (d : Double) (n : ℤ), d.toInt? = none → d.exact ≠ .rational n := by
    intro d n hd h
    rw [Floating.toInt?_eq_some_iff.mpr h] at hd
    cases hd
  cases hx with
  | whole n htext hvalue =>
    rw [htext, hvalue]
    cases hy with
    | whole k htext' hvalue' =>
      rw [htext', hvalue', intText_injective.eq_iff, ExactNumber.rational.injEq, Int.cast_inj]
    | other d htext' hvalue' hd =>
      rw [htext', hvalue']
      exact iff_of_false (d.text_ne_intText n).symm (hapart d n hd).symm
  | other d htext hvalue hd =>
    rw [htext, hvalue]
    cases hy with
    | whole n htext' hvalue' =>
      rw [htext', hvalue']
      exact iff_of_false (d.text_ne_intText n) (hapart d n hd)
    | other e htext' hvalue' he =>
      rw [htext', hvalue', Double.text_injective.eq_iff]
      exact ⟨fun h => h ▸ rfl, fun h => Floating.eq_of_exact_eq h hd⟩

end Number

/-- Scalars of documents that equality tests do not tell apart. -/
inductive Scalar.Same : Scalar → Scalar → Prop
  | null : Same .null .null
  | bool (b : Bool) : Same (.bool b) (.bool b)
  | text (s : String) : Same (.text s) (.text s)
  | number {a b : Scalar} {x y : Number} (ha : a.number? = some x) (hb : b.number? = some y)
      (h : x.exact = y.exact) : Same a b

theorem Scalar.same_number_iff {a b : Scalar} {x y : Number} (ha : a.number? = some x)
    (hb : b.number? = some y) : a.Same b ↔ x.exact = y.exact := by
  constructor
  · intro h
    cases h with
    | number ha' hb' h =>
      obtain rfl := Option.some.inj (ha.symm.trans ha')
      obtain rfl := Option.some.inj (hb.symm.trans hb')
      exact h
    | _ => cases ha
  · exact .number ha hb

namespace MatchKey

/-- The key of a scalar of a document. -/
inductive KeyOf : Scalar → MatchKey → Prop
  | null : KeyOf .null .null
  | bool (b : Bool) : KeyOf (.bool b) (.bool b)
  | text (s : String) : KeyOf (.text s) (.text s)
  | number {a : Scalar} {x : Number} (ha : a.number? = some x) (hx : x.CanonicalForm) :
      KeyOf a (.number x.canonicalText)

theorem exists_keyOf {a : Scalar} (h : Json.Writable a) : ∃ k, ofScalar a = .ok k ∧ KeyOf a k := by
  cases h with
  | null => exact ⟨_, rfl, .null⟩
  | bool b => exact ⟨_, rfl, .bool b⟩
  | text s => exact ⟨_, rfl, .text s⟩
  | float x => exact ⟨_, rfl, .number rfl (Number.canonicalForm_double x)⟩
  | int n hn =>
    refine ⟨_, ?_, .number rfl (Number.canonicalForm_int n)⟩
    rw [ofScalar_of_number? rfl, Number.matchText, hn]
    rfl

theorem KeyOf.same_iff {a b : Scalar} {j k : MatchKey} (hj : KeyOf a j) (hk : KeyOf b k) :
    j.same k = true ↔ a.Same b := by
  have heq : j.same k = true ↔ j = k := by
    cases hj <;> simp [same]
  rw [heq]
  cases hj with
  | number ha hx =>
    cases hk with
    | number hb hy => rw [Scalar.same_number_iff ha hb, ← hx.text_eq_iff hy, number.injEq]
    | _ =>
      refine iff_of_false (by simp) fun h => ?_
      cases h <;> simp_all [Scalar.number?]
  | _ =>
    cases hk with
    | number hb hy =>
      refine iff_of_false (by simp) fun h => ?_
      cases h <;> simp_all [Scalar.number?]
    | _ =>
      constructor
      · intro h
        cases h <;> constructor
      · intro h
        cases h <;> simp_all [Scalar.number?]

theorem same_congr {j k : MatchKey} (h : j.same k = true) (l : MatchKey) : j.same l = k.same l := by
  cases j with
  | dateTime s =>
    cases k with
    | dateTime t =>
      cases l with
      | dateTime u =>
        simp only [same, DateTime.sameMoment, Bool.and_eq_true, beq_iff_eq] at h ⊢
        rw [h.1.1, h.1.2, h.2]
      | _ => rfl
    | _ => simp [same] at h
  | _ =>
    obtain rfl : _ = k := by simpa [same] using h
    rfl

end MatchKey

/-- The scalar that a request has in a field: the last value under the field's name in any case of
letters, or null if there is none. -/
inductive Arguments.Holds (field : String) : Arguments → Scalar → Prop
  | present {before after : Arguments} {name : String} {b : Scalar}
      (hname : lowercase name = lowercase field)
      (hafter : ∀ e ∈ after, lowercase e.1 ≠ lowercase field) :
      Holds field (before ++ (name, .scalar b) :: after) b
  | missing {args : Arguments} (h : ∀ e ∈ args, lowercase e.1 ≠ lowercase field) :
      Holds field args .null

theorem Arguments.get_of_holds {field : String} {args : Arguments} {b : Scalar}
    (h : Holds field args b) : args.lowered.get (lowercase field) = .scalar b := by
  have hnone : ∀ others : Arguments, (∀ e ∈ others, lowercase e.1 ≠ lowercase field) →
      Assoc.find? (lowercase field)
        (others.map fun e => (lowercase e.1, e.2)).reverse = none := by
    intro others hothers
    rw [← Option.not_isSome_iff_eq_none, Assoc.find?_isSome_iff]
    simpa using fun name v hv => hothers _ hv
  unfold get lowered
  rw [Assoc.find?_ofList]
  cases h with
  | @present before after name b hname hafter =>
    rw [List.map_append, List.map_cons, List.reverse_append, List.reverse_cons, List.append_assoc,
      Assoc.find?_append, hnone after hafter, Option.none_or, List.singleton_append,
      Assoc.find?_cons, if_pos (beq_iff_eq.mpr hname)]
    rfl
  | missing h =>
    rw [hnone args h]
    rfl

namespace Predicate

/-- Keys that are left out are answered for by others. -/
theorem any_distinct (keys : List MatchKey) (k : MatchKey) :
    (distinct keys).any (·.same k) = keys.any (·.same k) := by
  have hfold : ∀ seen : List MatchKey, (keys.foldl (fun seen key =>
      if seen.any (·.same key) then seen else seen ++ [key]) seen).any (·.same k) =
        (seen.any (·.same k) || keys.any (·.same k)) := by
    induction keys with
    | nil => simp
    | cons key rest ih =>
      intro seen
      rw [List.foldl_cons, ih, List.any_cons]
      split_ifs with hseen
      · obtain ⟨other, hother, hsame⟩ := List.any_eq_true.mp hseen
        have hkey : key.same k = true → seen.any (·.same k) = true := fun h =>
          List.any_eq_true.mpr ⟨other, hother, (MatchKey.same_congr hsame k).trans h⟩
        cases hk : key.same k with
        | false => simp
        | true => simp [hkey hk]
      · simp [Bool.or_assoc]
  exact (hfold []).trans (by simp)

/-- What an equality test says: its field, and the scalars that it accepts. -/
inductive EqualTests (field : String) : List Scalar → Value → Prop
  | value {entries : Entries} {a : Scalar}
      (h : entries.Perm [(.text "field", .text field), (.text "value", .scalar a)]) :
      EqualTests field [a] (.object entries)
  | values {entries : Entries} {as : List Scalar}
      (h : entries.Perm [(.text "field", .text field), (.text "values", .list (as.map .scalar))]) :
      EqualTests field as (.object entries)

theorem exists_keys {as : List Scalar} (has : ∀ a ∈ as, Json.Writable a) :
    ∃ keys, (as.map Value.scalar).mapM matchKeyOf = .ok keys ∧
      List.Forall₂ MatchKey.KeyOf as keys := by
  induction as with
  | nil => exact ⟨[], rfl, .nil⟩
  | cons a rest ih =>
    obtain ⟨ha, hrest⟩ := List.forall_mem_cons.mp has
    obtain ⟨k, hk, hkey⟩ := MatchKey.exists_keyOf ha
    obtain ⟨keys, hkeys, hforall⟩ := ih hrest
    refine ⟨k :: keys, ?_, .cons hkey hforall⟩
    have hmatch : matchKeyOf (.scalar a) = .ok k := by
      rw [matchKeyOf, MatchKey.ofValue, hk]
    rw [List.map_cons, List.mapM_cons, hmatch, hkeys]
    rfl

theorem acceptedValues_of_equalTests {field : String} {as : List Scalar} {e e' : Scalar × Value}
    (h : EqualTests field as (.object [e, e'])) : fieldOf .equal [e, e'] = .ok (lowercase field) ∧
      acceptedValues [e, e'] = .ok (as.map .scalar) := by
  cases h with
  | value h =>
    have hfind := Entries.find?_of_perm (by decide) h
    exact ⟨fieldOf_eq_ok_iff.mpr ⟨field, hfind "field", rfl⟩,
      acceptedValues_eq_ok_iff.mpr (Or.inr ⟨hfind "values", _, hfind "value", rfl⟩)⟩
  | values h =>
    have hfind := Entries.find?_of_perm (by decide) h
    exact ⟨fieldOf_eq_ok_iff.mpr ⟨field, hfind "field", rfl⟩,
      acceptedValues_eq_ok_iff.mpr (Or.inl (hfind "values"))⟩

theorem equalOf_of_equalTests {field : String} {as : List Scalar} {operand : Value}
    (h : EqualTests field as operand) (has : ∀ a ∈ as, Json.Writable a) :
    ∃ keys, List.Forall₂ MatchKey.KeyOf as keys ∧
      equalOf operand = .ok (.equal (lowercase field) (distinct keys)) := by
  obtain ⟨keys, hkeys, hforall⟩ := exists_keys has
  obtain ⟨e, e', rfl⟩ : ∃ e e', operand = .object [e, e'] := by
    cases h with
    | value h | values h =>
      obtain ⟨e, e', rfl⟩ := List.length_eq_two.mp h.length_eq
      exact ⟨e, e', rfl⟩
  obtain ⟨hfield, hvalues⟩ := acceptedValues_of_equalTests h
  refine ⟨keys, hforall, ?_⟩
  rw [equalOf, hfield, Except.ok_bind, hvalues, Except.ok_bind, hkeys]
  rfl

theorem accepts_distinct {as : List Scalar} {keys : List MatchKey} {b : Scalar}
    (h : List.Forall₂ MatchKey.KeyOf as keys) (hb : Json.Writable b) :
    ∃ answer, accepts (distinct keys) (.scalar b) = .ok answer ∧
      (answer = true ↔ ∃ a ∈ as, a.Same b) := by
  obtain ⟨k, hk, hkey⟩ := MatchKey.exists_keyOf hb
  refine ⟨(distinct keys).any (·.same k), by rw [accepts, MatchKey.ofValue, hk], ?_⟩
  rw [any_distinct]
  induction h with
  | nil => simp
  | cons hfirst _ ih =>
    rw [List.any_cons, Bool.or_eq_true, ih, hfirst.same_iff hkey, List.exists_mem_cons_iff]

variable {key field : String} {as : List Scalar} {operand : Value}

/-- An equality test answers for every scalar that its field may hold, a missing one being null, and
holds exactly if that is one of the accepted scalars: the same null, truth value or text, or a
number that is equal exactly. -/
theorem compile_equal (hkey : lowercase key = "eq") (h : EqualTests field as operand)
    (has : ∀ a ∈ as, Json.Writable a) : ∃ p, compile (.object [(.text key, operand)]) = .ok p ∧
      ∀ (args : Arguments) (b : Scalar), Json.Writable b → args.Holds field b →
        ∃ answer, p.matchesRequest args = .ok answer ∧ (answer = true ↔ ∃ a ∈ as, a.Same b) := by
  obtain ⟨keys, hforall, hequal⟩ := equalOf_of_equalTests h has
  refine ⟨.equal (lowercase field) (distinct keys), ?_, fun args b hb hholds => ?_⟩
  · exact (ofNode_equal hkey operand).trans hequal
  · rw [matchesRequest, evaluate, Arguments.get_of_holds hholds]
    exact accepts_distinct hforall hb

/-- Zero, and an integer that is too large by one for a double to tell it from its neighbour. -/
def nextToDouble : List Scalar :=
  [.int 0, .int (2 ^ 53 + 1)]

/-- A negative zero is zero, but the double nearest to an integer need not be equal to it. -/
theorem compile_equal_nextToDouble : ∃ p,
    compile (.object [(.text "EQ", .object [(.text "values", .list (nextToDouble.map .scalar)),
      (.text "field", .text "Size")])]) = .ok p ∧
    p.matchesRequest [("SIZE", .float (.zero true))] = .ok true ∧
    p.matchesRequest [("size", .float (.ofInt (2 ^ 53 + 1)))] = .ok false := by
  have hkey : lowercase "EQ" = "eq" := by decide +kernel
  have hwritable : ∀ a ∈ nextToDouble, Json.Writable a :=
    List.forall_mem_cons.mpr ⟨.int _ (by decide +kernel),
      List.forall_mem_singleton.mpr (.int _ (by decide +kernel))⟩
  have htests : EqualTests "Size" nextToDouble (.object
      [(.text "values", .list (nextToDouble.map .scalar)), (.text "field", .text "Size")]) :=
    .values (List.Perm.swap ..)
  obtain ⟨p, hp, hanswer⟩ := compile_equal hkey htests hwritable
  have hholds : Arguments.Holds "Size" [("SIZE", .float (.zero true))] (.float (.zero true)) :=
    @Arguments.Holds.present "Size" [] [] "SIZE" _ (by decide +kernel) (by simp)
  have hholds' : Arguments.Holds "Size" [("size", .float (.ofInt (2 ^ 53 + 1)))]
      (.float (.ofInt (2 ^ 53 + 1))) :=
    @Arguments.Holds.present "Size" [] [] "size" _ (by decide +kernel) (by simp)
  obtain ⟨zero, hzero, hsame⟩ := hanswer _ _ (.float _) hholds
  obtain ⟨large, hlarge, hapart⟩ := hanswer _ _ (.float _) hholds'
  have hequal : (Scalar.int 0).Same (.float (.zero true)) := .number rfl rfl (by decide +kernel)
  have hdifferent : ¬ ∃ a ∈ nextToDouble, a.Same (.float (.ofInt (2 ^ 53 + 1))) := by
    rintro ⟨a, ha, h⟩
    simp only [nextToDouble, List.mem_cons, List.not_mem_nil, or_false] at ha
    rcases ha with rfl | rfl
    · exact absurd ((Scalar.same_number_iff rfl rfl).mp h) (by decide +kernel)
    · exact absurd ((Scalar.same_number_iff rfl rfl).mp h) (by decide +kernel)
  refine ⟨p, hp, ?_, ?_⟩
  · rw [hzero, hsame.mpr ⟨_, List.mem_cons_self .., hequal⟩]
  · rw [hlarge, Bool.eq_false_iff.mpr fun h => hdifferent (hapart.mp h)]

end Predicate
end SplitTest
