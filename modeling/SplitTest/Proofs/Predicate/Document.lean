import SplitTest.Predicate.Document
import SplitTest.Proofs.Json.Scalars
import SplitTest.Proofs.Predicate.Evaluation

/-! When reading a targeting document fails on arithmetic and not on its shape: it comes to an
integer among the values of an equality test whose numeral is too long. -/
namespace SplitTest

/-- The operator of a key in any case of letters. -/
def Operator.ofKey? (key : String) : Option Operator :=
  Operator.ofName? (lowercase key)

namespace Predicate

theorem ofItems_eq_mapM (items : List Value) : ofItems items = items.mapM ofNode := by
  induction items with
  | nil => rfl
  | cons v rest ih => rw [ofItems, ih, List.mapM_cons]

/-- The predicate of a node's operand under its operator. -/
def ofOperand : Operator → Value → Except PredicateError Predicate
  | .all, .list items => .all <$> items.mapM ofNode
  | .all, _ => .error (.node (.notArray .all))
  | .any, .list items => .any <$> items.mapM ofNode
  | .any, _ => .error (.node (.notArray .any))
  | .not, .object [entry] => .not <$> ofNode (.object [entry])
  | .not, _ => .error (.node .notSingle)
  | .equal, operand => equalOf operand
  | .override, operand => .ok (.constant (operand matches .bool true))
  | .compare op, operand => compareOf op operand

/-- A node is read by its operator, and of that its lower case. -/
theorem ofNode_entry (key : String) (operand : Value) :
    ofNode (.object [(.text key, operand)]) =
      match Operator.ofKey? key with
      | none => .error (.unknownOperator (lowercase key))
      | some op => ofOperand op operand := by
  unfold Operator.ofKey?
  rw [ofNode.eq_def]
  dsimp only
  cases Operator.ofName? (lowercase key) with
  | none => rfl
  | some op =>
    cases op with
    | all | any =>
      cases operand with
      | list items => simp only [ofOperand, ofItems_eq_mapM]
      | _ => rfl
    | not =>
      cases operand with
      | object entries =>
        cases entries with
        | nil => rfl
        | cons _ rest => cases rest <;> rfl
      | _ => rfl
    | _ => rfl

theorem ofNode_of_operator {key : String} {op : Operator} (hk : Operator.ofKey? key = some op)
    (operand : Value) : ofNode (.object [(.text key, operand)]) = ofOperand op operand := by
  rw [ofNode_entry, hk]

/-- Reading a node comes to an integer that is too long; all that stands in front of it is fine. -/
inductive Overlong : Value → Prop
  | all {key : String} {before : List Value} {v : Value} {after : List Value}
      (hk : Operator.ofKey? key = some .all) (hbefore : ∀ w ∈ before, ∃ p, ofNode w = .ok p)
      (hv : Overlong v) : Overlong (.object [(.text key, .list (before ++ v :: after))])
  | any {key : String} {before : List Value} {v : Value} {after : List Value}
      (hk : Operator.ofKey? key = some .any) (hbefore : ∀ w ∈ before, ∃ p, ofNode w = .ok p)
      (hv : Overlong v) : Overlong (.object [(.text key, .list (before ++ v :: after))])
  | not {key : String} {entry : Scalar × Value} (hk : Operator.ofKey? key = some .not)
      (hv : Overlong (.object [entry])) : Overlong (.object [(.text key, .object [entry])])
  | equal {key field : String} {a b : Scalar × Value} {values : List Value}
      (hk : Operator.ofKey? key = some .equal) (hf : fieldOf .equal [a, b] = .ok field)
      (ha : acceptedValues [a, b] = .ok values)
      (hv : Reached (fun v => ∃ k, MatchKey.ofValue v = .ok k) Value.PastNumerals values) :
      Overlong (.object [(.text key, .object [a, b])])

variable {kind : NodeKind} {entries : Entries} {key : String}

/-- Looking for a field fails on the shape of its node only. -/
theorem fieldOf_ne_error {e : PredicateError} (he : ∀ n, .node n ≠ e) :
    fieldOf kind entries ≠ .error e := by
  unfold fieldOf
  split <;> simp [he]

theorem acceptedValues_ne_error {e : PredicateError} (he : ∀ n, .node n ≠ e) :
    acceptedValues entries ≠ .error e := by
  unfold acceptedValues
  split <;> simp [he]

theorem matchKeyOf_ok_iff {v : Value} :
    (∃ k, matchKeyOf v = .ok k) ↔ ∃ k, MatchKey.ofValue v = .ok k := by
  unfold matchKeyOf
  cases MatchKey.ofValue v with
  | ok k => simp
  | error e => cases e <;> simp

theorem matchKeyOf_longNumeral_iff {v : Value} :
    matchKeyOf v = .error .longNumeral ↔ v.PastNumerals := by
  rw [← MatchKey.ofValue_longNumeral_iff]
  unfold matchKeyOf
  cases MatchKey.ofValue v with
  | ok k => simp
  | error e => cases e <;> simp

theorem equalOf_longNumeral_iff {a b : Scalar × Value} :
    equalOf (.object [a, b]) = .error .longNumeral ↔ ∃ field values,
      fieldOf .equal [a, b] = .ok field ∧ acceptedValues [a, b] = .ok values ∧
        Reached (fun v => ∃ k, MatchKey.ofValue v = .ok k) Value.PastNumerals values := by
  have hkeys : ∀ values : List Value, values.mapM matchKeyOf = .error .longNumeral ↔
      Reached (fun v => ∃ k, MatchKey.ofValue v = .ok k) Value.PastNumerals values := fun values =>
    mapM_eq_error_iff.trans
      (reached_congr (fun _ => matchKeyOf_ok_iff) (fun _ => matchKeyOf_longNumeral_iff))
  simp [equalOf, Except.bind_eq_error_iff, fieldOf_ne_error, acceptedValues_ne_error, hkeys]

theorem compareOf_ne_error {op : Comparison} {v : Value} {e : PredicateError}
    (he : ∀ n, .node n ≠ e) : compareOf op v ≠ .error e := by
  unfold compareOf
  split
  · next a b =>
    cases hv : Entries.find? [a, b] "value" <;>
      simp [Except.bind_eq_error_iff, fieldOf_ne_error, he]
  · simp [he]

theorem exists_pair_of_equalOf {v : Value} (h : equalOf v = .error .longNumeral) :
    ∃ a b, v = .object [a, b] := by
  unfold equalOf at h
  split at h
  · next a b => exact ⟨a, b, rfl⟩
  · simp at h

theorem exists_key_of_ofNode {v : Value} (h : ofNode v = .error .longNumeral) :
    ∃ key operand, v = .object [(.text key, operand)] := by
  unfold ofNode at h
  split at h
  · next key operand => exact ⟨key, operand, rfl⟩
  · simp at h
  · simp at h
  · simp at h

mutual

theorem overlong_of_ofNode (v : Value) (h : ofNode v = .error .longNumeral) : Overlong v := by
  obtain ⟨key, operand, rfl⟩ := exists_key_of_ofNode h
  unfold ofNode at h
  split at h
  · simp at h
  · next items hk =>
    rw [Except.fmap_eq_map, Except.map_eq_error_iff] at h
    obtain ⟨before, v, after, rfl, hbefore, hv⟩ := reached_of_ofItems items h
    exact .all hk hbefore hv
  · simp at h
  · next items hk =>
    rw [Except.fmap_eq_map, Except.map_eq_error_iff] at h
    obtain ⟨before, v, after, rfl, hbefore, hv⟩ := reached_of_ofItems items h
    exact .any hk hbefore hv
  · simp at h
  · next entry hk =>
    rw [Except.fmap_eq_map, Except.map_eq_error_iff] at h
    exact .not hk (overlong_of_ofNode (.object [entry]) h)
  · simp at h
  · next hk =>
    obtain ⟨a, b, rfl⟩ := exists_pair_of_equalOf h
    obtain ⟨field, values, hf, ha, hv⟩ := equalOf_longNumeral_iff.mp h
    exact .equal hk hf ha hv
  · simp at h
  · exact absurd h (compareOf_ne_error (by simp))

theorem reached_of_ofItems (items : List Value) (h : ofItems items = .error .longNumeral) :
    Reached (fun v => ∃ p, ofNode v = .ok p) Overlong items := by
  match items with
  | [] => cases h
  | v :: rest =>
    rw [reached_cons_iff]
    rw [ofItems, Except.bind_eq_error_iff] at h
    rcases h with h | ⟨p, hp, h⟩
    · exact Or.inl (overlong_of_ofNode v h)
    · refine Or.inr ⟨⟨p, hp⟩, reached_of_ofItems rest ?_⟩
      simpa [Except.bind_eq_error_iff] using h

end

/-- Reading a node fails on arithmetic exactly if it comes to an integer that is too long. -/
theorem ofNode_longNumeral_iff {v : Value} : ofNode v = .error .longNumeral ↔ Overlong v := by
  refine ⟨overlong_of_ofNode v, fun h => ?_⟩
  induction h with
  | @all key before v after hk hbefore _ ih =>
    have hitems := mapM_eq_error_iff.mpr ⟨before, v, after, rfl, hbefore, ih⟩
    rw [ofNode_of_operator hk, ofOperand, hitems, Except.fmap_eq_map, Except.map_error]
  | @any key before v after hk hbefore _ ih =>
    have hitems := mapM_eq_error_iff.mpr ⟨before, v, after, rfl, hbefore, ih⟩
    rw [ofNode_of_operator hk, ofOperand, hitems, Except.fmap_eq_map, Except.map_error]
  | not hk _ ih =>
    rw [ofNode_of_operator hk, ofOperand, ih, Except.fmap_eq_map, Except.map_error]
  | equal hk hf ha hv =>
    have hequal := equalOf_longNumeral_iff.mpr ⟨_, _, hf, ha, hv⟩
    rw [ofNode_of_operator hk, ofOperand, hequal]

/-- So does reading a decoded document. -/
theorem ofDocument_longNumeral_iff {v : Value} :
    ofDocument v = .error .longNumeral ↔ Overlong v := by
  rw [← ofNode_longNumeral_iff]
  unfold ofDocument
  split
  · rfl
  · next hne =>
    refine iff_of_false (by simp) fun h => ?_
    obtain ⟨key, operand, rfl⟩ := exists_key_of_ofNode h
    exact hne _ rfl

theorem not_pastNumerals_of_writable {v : Value} (h : v.Every Json.Writable) :
    ¬ v.PastNumerals := by
  rintro ⟨n, hn, hlong⟩
  cases h with
  | scalar hs => cases hs <;> simp_all [Value.number?, Scalar.number?]
  | list => cases hn
  | object => cases hn

theorem acceptedValues_every {P : Scalar → Prop} (h : Value.Every P (.object entries))
    {values : List Value} (ha : acceptedValues entries = .ok values) : ∀ v ∈ values, v.Every P := by
  have hfind : ∀ {name v}, entries.find? name = some v → v.Every P := fun hf => by
    obtain ⟨k, hk⟩ := Assoc.exists_mem_of_findBy? hf
    exact h.of_mem_object hk
  unfold acceptedValues at ha
  split at ha
  · next hvalues =>
    obtain rfl := Except.ok.inj ha
    exact fun v hv => (hfind hvalues).of_mem_list hv
  · cases ha
  · next hvalue =>
    obtain rfl := Except.ok.inj ha
    simpa using hfind hvalue
  · cases ha

/-- No document that holds writable scalars only comes to an integer that is too long. -/
theorem not_overlong_of_writable {v : Value} (h : v.Every Json.Writable) : ¬ Overlong v := by
  intro ho
  induction ho with
  | all _ _ _ ih | any _ _ _ ih =>
    have hlist := h.of_mem_object (List.mem_singleton_self _)
    exact ih (hlist.of_mem_list (by simp))
  | not _ _ ih => exact ih (h.of_mem_object (List.mem_singleton_self _))
  | equal _ _ ha hv =>
    obtain ⟨before, v, after, rfl, -, hlong⟩ := hv
    have hpair := h.of_mem_object (List.mem_singleton_self _)
    exact not_pastNumerals_of_writable (acceptedValues_every hpair ha v (by simp)) hlong

/-- Documents in texts are JSON, so only decoded ones come to such an integer. -/
theorem compile_longNumeral_iff {v : Value} :
    Predicate.compile v = .error .longNumeral ↔ Overlong v := by
  unfold Predicate.compile
  split
  · next s =>
    refine iff_of_false ?_ (by rintro ⟨⟩)
    unfold ofJson
    split
    · simp
    · next w hw =>
      rw [ofDocument_longNumeral_iff]
      exact not_overlong_of_writable (Json.parse_every hw)
  · exact ofDocument_longNumeral_iff

end Predicate
end SplitTest
