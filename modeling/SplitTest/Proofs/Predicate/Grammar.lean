import Mathlib
import SplitTest.Proofs.Predicate.Document

/-! The language of targeting documents: which values describe a predicate, and which error the
others are refused with. -/
namespace SplitTest

def Operator.name : Operator → String
  | all => "all"
  | any => "any"
  | not => "not"
  | equal => "eq"
  | override => "override"
  | compare op => op.name

theorem Operator.ofName?_name (op : Operator) : ofName? op.name = some op := by
  cases op with
  | compare op => cases op <;> rfl
  | _ => rfl

theorem Operator.name_of_ofName? {name : String} {op : Operator} (h : ofName? name = some op) :
    op.name = name := by
  unfold ofName? at h
  split at h
  case h_6 =>
    obtain ⟨c, hc, rfl⟩ := Option.map_eq_some_iff.mp h
    simpa [Operator.name] using List.find?_some hc
  all_goals exact Option.some.inj h ▸ rfl

/-- An operator is read from its name only. -/
theorem Operator.ofName?_eq_some_iff {name : String} {op : Operator} :
    ofName? name = some op ↔ op.name = name :=
  ⟨name_of_ofName?, fun h => h ▸ ofName?_name op⟩

theorem Operator.ofName?_eq_none_iff {name : String} :
    ofName? name = none ↔ ∀ op : Operator, op.name ≠ name := by
  simp only [Option.eq_none_iff_forall_ne_some, ne_eq, ofName?_eq_some_iff]

/-- Keys and values of an object with two entries, in either order. -/
theorem Entries.perm_of_find? {a b : Scalar × Value} {name other : String} {v w : Value}
    (hne : name ≠ other) (hv : Entries.find? [a, b] name = some v)
    (hw : Entries.find? [a, b] other = some w) :
    [a, b].Perm [(.text name, v), (.text other, w)] := by
  have hmem : (.text name, v) ∈ [a, b] := Assoc.mem_of_find? hv
  have hmem' : (.text other, w) ∈ [a, b] := Assoc.mem_of_find? hw
  have hnodup : [(Scalar.text name, v), (.text other, w)].Nodup := by simp [hne]
  have hsubset : [(Scalar.text name, v), (.text other, w)] ⊆ [a, b] := by
    simp only [List.cons_subset, List.nil_subset, and_true]
    exact ⟨hmem, hmem'⟩
  exact ((hnodup.subperm hsubset).perm_of_length_le (by simp)).symm

theorem Entries.find?_of_perm {entries : Entries} {name other : String} {v w : Value}
    (hne : name ≠ other) (hp : entries.Perm [(.text name, v), (.text other, w)]) (key : String) :
    entries.find? key = Entries.find? [(.text name, v), (.text other, w)] key := by
  have hnodup : ([(Scalar.text name, v), (.text other, w)].map (·.1)).Nodup := by simp [hne]
  exact (Assoc.find?_perm hp.symm hnodup (Scalar.text key)).symm

namespace Predicate

/-- What an equality test says: a field, and the value or the values that it accepts. -/
inductive EqualOperand : Value → Prop
  | value {entries : Entries} {field : String} {s : Scalar}
      (h : entries.Perm [(.text "field", .text field), (.text "value", .scalar s)]) :
      EqualOperand (.object entries)
  | values {entries : Entries} {field : String} {items : List Value}
      (h : entries.Perm [(.text "field", .text field), (.text "values", .list items)])
      (hitems : ∀ w ∈ items, ∃ s, w = .scalar s) : EqualOperand (.object entries)

/-- What a comparison says: a field, and any value as its threshold. -/
inductive CompareOperand : Value → Prop
  | pair {entries : Entries} {field : String} {threshold : Value}
      (h : entries.Perm [(.text "field", .text field), (.text "value", threshold)]) :
      CompareOperand (.object entries)

/-- The documents that describe a predicate. -/
inductive Grammar : Value → Prop
  | group {key : String} {items : List Value} (hk : lowercase key = "all" ∨ lowercase key = "any")
      (h : ∀ v ∈ items, Grammar v) : Grammar (.object [(.text key, .list items)])
  | not {key : String} {operand : Value} (hk : lowercase key = "not") (h : Grammar operand) :
      Grammar (.object [(.text key, operand)])
  | override {key : String} {operand : Value} (hk : lowercase key = "override") :
      Grammar (.object [(.text key, operand)])
  | equal {key : String} {operand : Value} (hk : lowercase key = "eq") (h : EqualOperand operand) :
      Grammar (.object [(.text key, operand)])
  | compare {key : String} {operand : Value} (op : Comparison) (hk : lowercase key = op.name)
      (h : CompareOperand operand) : Grammar (.object [(.text key, operand)])

/-- The first defect of a document, from the outside in and from left to right, is an operator that
there is not. -/
inductive UnknownFirst (name : String) : Value → Prop
  | here {key : String} {operand : Value} (hk : lowercase key = name)
      (h : ∀ op : Operator, op.name ≠ name) : UnknownFirst name (.object [(.text key, operand)])
  | child {key : String} {items : List Value} (hk : lowercase key = "all" ∨ lowercase key = "any")
      {before after : List Value} {v : Value} (hitems : items = before ++ v :: after)
      (hbefore : ∀ w ∈ before, Grammar w) (hv : UnknownFirst name v) :
      UnknownFirst name (.object [(.text key, .list items)])
  | negated {key : String} {operand : Value} (hk : lowercase key = "not")
      (h : UnknownFirst name operand) : UnknownFirst name (.object [(.text key, operand)])

variable {kind : NodeKind} {entries : Entries} {v : Value}

theorem fieldOf_eq_ok_iff {field : String} : fieldOf kind entries = .ok field ↔
    ∃ name, entries.find? "field" = some (.text name) ∧ lowercase name = field := by
  unfold fieldOf
  split
  · next h => simp [h]
  · next name h => simp [h, Value.text]
  · next w hne h =>
    refine iff_of_false (by simp) ?_
    rintro ⟨name, hname, -⟩
    exact hne name (Option.some.inj (h.symm.trans hname))

theorem acceptedValues_eq_ok_iff {values : List Value} : acceptedValues entries = .ok values ↔
    entries.find? "values" = some (.list values) ∨
      entries.find? "values" = none ∧ ∃ w, entries.find? "value" = some w ∧ [w] = values := by
  unfold acceptedValues
  split
  · next h => simp [h]
  · next w hne h =>
    refine iff_of_false (by simp) ?_
    rintro (hlist | ⟨hnone, -⟩)
    · exact hne values (Option.some.inj (h.symm.trans hlist))
    · cases h.symm.trans hnone
  · next h h' => simp [h, h']
  · next h h' => simp [h, h']

theorem exists_scalar_of_matchKeyOf {k : MatchKey} (h : matchKeyOf v = .ok k) :
    ∃ s, v = .scalar s := by
  cases v with
  | scalar s => exact ⟨s, rfl⟩
  | list items => cases h
  | object entries => cases h

theorem matchKeyOf_writable {s : Scalar} (h : Json.Writable s) :
    ∃ k, matchKeyOf (.scalar s) = .ok k := by
  cases h with
  | null | bool | text | float => exact ⟨_, rfl⟩
  | int n hn =>
    refine ⟨.number (intText n), ?_⟩
    simp [matchKeyOf, MatchKey.ofValue, MatchKey.ofScalar, Number.matchText, hn]

theorem equalOf_pair_ok_iff {a b : Scalar × Value} : (∃ p, equalOf (.object [a, b]) = .ok p) ↔
    ∃ field values, fieldOf .equal [a, b] = .ok field ∧ acceptedValues [a, b] = .ok values ∧
      ∀ w ∈ values, ∃ k, matchKeyOf w = .ok k := by
  simp only [← mapM_eq_ok_iff, equalOf, Except.bind_eq_ok_iff, Except.pure_eq_ok]
  constructor
  · rintro ⟨p, field, hf, values, ha, keys, hkeys, -⟩
    exact ⟨field, values, hf, ha, keys, hkeys⟩
  · rintro ⟨field, values, hf, ha, keys, hkeys⟩
    exact ⟨_, field, hf, values, ha, keys, hkeys, rfl⟩

theorem equalOperand_of_equalOf {p : Predicate} (h : equalOf v = .ok p) : EqualOperand v := by
  unfold equalOf at h
  split at h
  · next a b =>
    obtain ⟨field, values, hf, ha, hkeys⟩ := equalOf_pair_ok_iff.mp ⟨p, h⟩
    obtain ⟨name, hname, -⟩ := fieldOf_eq_ok_iff.mp hf
    rcases acceptedValues_eq_ok_iff.mp ha with hlist | ⟨-, w, hw, rfl⟩
    · refine .values (Entries.perm_of_find? (by decide) hname hlist) fun w hw => ?_
      obtain ⟨k, hk⟩ := hkeys w hw
      exact exists_scalar_of_matchKeyOf hk
    · obtain ⟨k, hk⟩ := hkeys w (List.mem_singleton_self w)
      obtain ⟨s, rfl⟩ := exists_scalar_of_matchKeyOf hk
      exact .value (Entries.perm_of_find? (by decide) hname hw)
  · cases h

theorem equalOf_of_equalOperand (h : EqualOperand v) (hv : v.Every Json.Writable) :
    ∃ p, equalOf v = .ok p := by
  cases h with
  | @value entries field s h =>
    obtain ⟨a, b, rfl⟩ := List.length_eq_two.mp h.length_eq
    have hfind := Entries.find?_of_perm (by decide) h
    have hs : (Value.scalar s).Every Json.Writable :=
      hv.of_mem_object (h.mem_iff.mpr (List.mem_cons_of_mem _ (List.mem_singleton_self _)))
    have hfield : fieldOf .equal [a, b] = .ok (lowercase field) :=
      fieldOf_eq_ok_iff.mpr ⟨field, hfind "field", rfl⟩
    have hvalues := acceptedValues_eq_ok_iff.mpr (Or.inr ⟨hfind "values", _, hfind "value", rfl⟩)
    refine equalOf_pair_ok_iff.mpr ⟨_, _, hfield, hvalues, fun w hw => ?_⟩
    obtain rfl := List.mem_singleton.mp hw
    cases hs with
    | scalar hs => exact matchKeyOf_writable hs
  | @values entries field items h hitems =>
    obtain ⟨a, b, rfl⟩ := List.length_eq_two.mp h.length_eq
    have hfind := Entries.find?_of_perm (by decide) h
    have hlist : (Value.list items).Every Json.Writable :=
      hv.of_mem_object (h.mem_iff.mpr (List.mem_cons_of_mem _ (List.mem_singleton_self _)))
    have hfield : fieldOf .equal [a, b] = .ok (lowercase field) :=
      fieldOf_eq_ok_iff.mpr ⟨field, hfind "field", rfl⟩
    have hvalues := acceptedValues_eq_ok_iff.mpr (Or.inl (hfind "values"))
    refine equalOf_pair_ok_iff.mpr ⟨_, _, hfield, hvalues, fun w hw => ?_⟩
    obtain ⟨s, rfl⟩ := hitems w hw
    cases hlist.of_mem_list hw with
    | scalar hs => exact matchKeyOf_writable hs

theorem compareOf_pair_ok_iff {op : Comparison} {a b : Scalar × Value} :
    (∃ p, compareOf op (.object [a, b]) = .ok p) ↔ ∃ field threshold,
      fieldOf .compare [a, b] = .ok field ∧ Entries.find? [a, b] "value" = some threshold := by
  simp only [compareOf, Except.bind_eq_ok_iff]
  cases Entries.find? [a, b] "value" <;> simp

theorem compareOf_ok_iff {op : Comparison} :
    (∃ p, compareOf op v = .ok p) ↔ CompareOperand v := by
  constructor
  · rintro ⟨p, h⟩
    unfold compareOf at h
    split at h
    · next a b =>
      obtain ⟨field, threshold, hf, ht⟩ := compareOf_pair_ok_iff.mp ⟨p, h⟩
      obtain ⟨name, hname, -⟩ := fieldOf_eq_ok_iff.mp hf
      exact .pair (Entries.perm_of_find? (by decide) hname ht)
    · cases h
  · intro h
    obtain @⟨entries, field, threshold, h⟩ := h
    obtain ⟨a, b, rfl⟩ := List.length_eq_two.mp h.length_eq
    have hfind := Entries.find?_of_perm (by decide) h
    have hfield : fieldOf .compare [a, b] = .ok (lowercase field) :=
      fieldOf_eq_ok_iff.mpr ⟨field, hfind "field", rfl⟩
    exact compareOf_pair_ok_iff.mpr ⟨_, _, hfield, hfind "value"⟩

theorem matchKeyOf_ne_unknownOperator {name : String} :
    matchKeyOf v ≠ .error (.unknownOperator name) := by
  unfold matchKeyOf
  split <;> simp

theorem equalOf_ne_unknownOperator {name : String} :
    equalOf v ≠ .error (.unknownOperator name) := by
  have hkeys : ∀ values : List Value, values.mapM matchKeyOf ≠ .error (.unknownOperator name) := by
    intro values h
    obtain ⟨_, w, _, -, -, hw⟩ := mapM_eq_error_iff.mp h
    exact matchKeyOf_ne_unknownOperator hw
  unfold equalOf
  split <;> simp [Except.bind_eq_error_iff, fieldOf_ne_error, acceptedValues_ne_error, hkeys]

/-- What the two outcomes that matter tell about the values that were read. -/
structure Tells {α : Type} (accepted : Prop) (unknown : String → Prop)
    (outcome : Except PredicateError α) : Prop where
  ok : ∀ a, outcome = .ok a → accepted
  unknownOperator : ∀ name, outcome = .error (.unknownOperator name) → unknown name

section

variable {α β : Type} {accepted accepted' : Prop} {unknown unknown' : String → Prop}

theorem tells_node {e : NodeError} :
    Tells accepted unknown (.error (.node e) : Except PredicateError α) :=
  ⟨nofun, nofun⟩

theorem Tells.map {outcome : Except PredicateError α} {f : α → β}
    (h : Tells accepted unknown outcome) (hok : accepted → accepted')
    (hunknown : ∀ name, unknown name → unknown' name) :
    Tells accepted' unknown' (f <$> outcome) := by
  constructor
  · intro b hb
    obtain ⟨a, ha, -⟩ := Except.map_eq_ok_iff.mp hb
    exact hok (h.ok a ha)
  · intro name hname
    exact hunknown name (h.unknownOperator name (Except.map_eq_error_iff.mp hname))

end

theorem tells_equalOf {key : String} (hk : lowercase key = "eq") :
    Tells (Grammar (.object [(.text key, v)])) (UnknownFirst · (.object [(.text key, v)]))
      (equalOf v) := by
  constructor
  · intro p hp
    exact .equal hk (equalOperand_of_equalOf hp)
  · intro name h
    exact absurd h equalOf_ne_unknownOperator

theorem tells_compareOf {key : String} {op : Comparison} (hk : lowercase key = op.name) :
    Tells (Grammar (.object [(.text key, v)])) (UnknownFirst · (.object [(.text key, v)]))
      (compareOf op v) := by
  constructor
  · intro p hp
    exact .compare op hk (compareOf_ok_iff.mp ⟨p, hp⟩)
  · intro name h
    exact absurd h (compareOf_ne_error (by simp))

theorem tells_group {key : String} {items : List Value}
    {outcome : Except PredicateError (List Predicate)} {f : List Predicate → Predicate}
    (hk : lowercase key = "all" ∨ lowercase key = "any")
    (h : Tells (∀ v ∈ items, Grammar v) (fun name => Reached Grammar (UnknownFirst name) items)
      outcome) :
    Tells (Grammar (.object [(.text key, .list items)]))
      (UnknownFirst · (.object [(.text key, .list items)])) (f <$> outcome) := by
  refine h.map (fun hitems => .group hk hitems) fun name hname => ?_
  obtain ⟨before, w, after, hitems, hbefore, hw⟩ := hname
  exact .child hk hitems hbefore hw

-- The induction follows the reader: a node by its operator, then the items of a list in order.
mutual

theorem tells_ofNode (v : Value) : Tells (Grammar v) (UnknownFirst · v) (ofNode v) := by
  unfold ofNode
  split
  · next key operand =>
    split
    · next hk =>
      refine ⟨nofun, fun name hname => ?_⟩
      obtain rfl := PredicateError.unknownOperator.inj (Except.error.inj hname)
      exact .here rfl (Operator.ofName?_eq_none_iff.mp hk)
    · next items hk =>
      exact tells_group (Or.inl (Operator.name_of_ofName? hk).symm) (tells_ofItems items)
    · exact tells_node
    · next items hk =>
      exact tells_group (Or.inr (Operator.name_of_ofName? hk).symm) (tells_ofItems items)
    · exact tells_node
    · next entry hk =>
      have hname := (Operator.name_of_ofName? hk).symm
      exact (tells_ofNode (.object [entry])).map (.not hname) fun _ => .negated hname
    · exact tells_node
    · next hk => exact tells_equalOf (Operator.name_of_ofName? hk).symm
    · next hk =>
      exact ⟨fun _ _ => .override (Operator.name_of_ofName? hk).symm, nofun⟩
    · next hk => exact tells_compareOf (Operator.name_of_ofName? hk).symm
  all_goals exact tells_node

theorem tells_ofItems (items : List Value) : Tells (∀ v ∈ items, Grammar v)
    (fun name => Reached Grammar (UnknownFirst name) items) (ofItems items) := by
  match items with
  | [] => exact ⟨fun _ _ => by simp, nofun⟩
  | v :: rest =>
    have hv := tells_ofNode v
    have hrest := tells_ofItems rest
    constructor
    · intro ps hps
      obtain ⟨p, hp, hps⟩ := Except.bind_eq_ok_iff.mp hps
      obtain ⟨qs, hqs, -⟩ := Except.bind_eq_ok_iff.mp hps
      exact List.forall_mem_cons.mpr ⟨hv.ok p hp, hrest.ok qs hqs⟩
    · intro name hname
      rw [reached_cons_iff]
      rcases Except.bind_eq_error_iff.mp hname with hfirst | ⟨p, hp, hname⟩
      · exact Or.inl (hv.unknownOperator name hfirst)
      · rcases Except.bind_eq_error_iff.mp hname with hothers | ⟨qs, -, hqs⟩
        · exact Or.inr ⟨hv.ok p hp, hrest.unknownOperator name hothers⟩
        · cases hqs

end

theorem ofNode_of_name (op : Operator) {key : String} (hk : lowercase key = op.name)
    (operand : Value) : ofNode (.object [(.text key, operand)]) = ofOperand op operand :=
  ofNode_of_operator (Operator.ofName?_eq_some_iff.mpr hk.symm) operand

theorem ofNode_group {key : String} (hk : lowercase key = "all" ∨ lowercase key = "any")
    (items : List Value) : ∃ f : List Predicate → Predicate,
      ofNode (.object [(.text key, .list items)]) = f <$> items.mapM ofNode := by
  rcases hk with hk | hk
  · exact ⟨.all, ofNode_of_name .all hk _⟩
  · exact ⟨.any, ofNode_of_name .any hk _⟩

theorem ofNode_not {key : String} (hk : lowercase key = "not") (entry : Scalar × Value) :
    ofNode (.object [(.text key, .object [entry])]) = .not <$> ofNode (.object [entry]) :=
  ofNode_of_name .not hk _

theorem ofNode_equal {key : String} (hk : lowercase key = "eq") (operand : Value) :
    ofNode (.object [(.text key, operand)]) = equalOf operand :=
  ofNode_of_name .equal hk operand

theorem ofNode_compare {key : String} {op : Comparison} (hk : lowercase key = op.name)
    (operand : Value) : ofNode (.object [(.text key, operand)]) = compareOf op operand :=
  ofNode_of_name (.compare op) hk operand

theorem Grammar.exists_entry (h : Grammar v) : ∃ entry, v = .object [entry] := by
  cases h <;> exact ⟨_, rfl⟩

theorem UnknownFirst.exists_entry {name : String} (h : UnknownFirst name v) :
    ∃ entry, v = .object [entry] := by
  cases h <;> exact ⟨_, rfl⟩

theorem ofNode_of_grammar (h : Grammar v) (hv : v.Every Json.Writable) :
    ∃ p, ofNode v = .ok p := by
  induction h with
  | @group key items hk _ ih =>
    obtain ⟨f, hf⟩ := ofNode_group hk items
    have hlist := hv.of_mem_object (List.mem_singleton_self _)
    obtain ⟨ps, hps⟩ := mapM_eq_ok_iff.mpr fun w hw => ih w hw (hlist.of_mem_list hw)
    exact ⟨f ps, by rw [hf, hps, Except.fmap_eq_map, Except.map_ok]⟩
  | @not key operand hk h ih =>
    obtain ⟨entry, rfl⟩ := h.exists_entry
    obtain ⟨p, hp⟩ := ih (hv.of_mem_object (List.mem_singleton_self _))
    exact ⟨.not p, by rw [ofNode_not hk, hp, Except.fmap_eq_map, Except.map_ok]⟩
  | override hk => exact ⟨_, ofNode_of_name .override hk _⟩
  | @equal key operand hk h =>
    rw [ofNode_equal hk]
    exact equalOf_of_equalOperand h (hv.of_mem_object (List.mem_singleton_self _))
  | @compare key operand op hk h =>
    rw [ofNode_compare hk]
    exact compareOf_ok_iff.mpr h

theorem ofNode_of_unknownFirst {name : String} (h : UnknownFirst name v)
    (hv : v.Every Json.Writable) : ofNode v = .error (.unknownOperator name) := by
  induction h with
  | @here key operand hk h =>
    have hop := Operator.ofName?_eq_none_iff.mpr h
    rw [ofNode_entry, Operator.ofKey?, hk, hop]
  | @child key items hk before after v hitems hbefore _ ih =>
    obtain ⟨f, hf⟩ := ofNode_group hk items
    have hlist := hv.of_mem_object (List.mem_singleton_self _)
    subst hitems
    have hpass : ∀ w ∈ before, ∃ p, ofNode w = .ok p := fun w hw =>
      ofNode_of_grammar (hbefore w hw) (hlist.of_mem_list (List.mem_append_left _ hw))
    have hhit := ih (hlist.of_mem_list (by simp))
    rw [hf, Except.fmap_eq_map, Except.map_eq_error_iff, mapM_eq_error_iff]
    exact ⟨before, v, after, rfl, hpass, hhit⟩
  | @negated key operand hk h ih =>
    obtain ⟨entry, rfl⟩ := h.exists_entry
    have hp := ih (hv.of_mem_object (List.mem_singleton_self _))
    rw [ofNode_not hk, hp, Except.fmap_eq_map, Except.map_error]

/-- The document that a value holds: its text as JSON, or else the value itself. -/
def document? : Value → Option Value
  | .text s => (Json.parse s).toOption
  | v => some v

theorem ofDocument_eq_ofNode (h : ∃ entry, v = .object [entry]) : ofDocument v = ofNode v := by
  obtain ⟨entry, rfl⟩ := h
  rfl

theorem tells_ofDocument (v : Value) : Tells (Grammar v) (UnknownFirst · v) (ofDocument v) := by
  unfold ofDocument
  split
  · exact tells_ofNode _
  · exact tells_node

theorem ofDocument_ok_iff (hv : v.Every Json.Writable) :
    (∃ p, ofDocument v = .ok p) ↔ Grammar v := by
  constructor
  · rintro ⟨p, hp⟩
    exact (tells_ofDocument v).ok p hp
  · intro h
    rw [ofDocument_eq_ofNode h.exists_entry]
    exact ofNode_of_grammar h hv

theorem ofDocument_unknownOperator_iff {name : String} (hv : v.Every Json.Writable) :
    ofDocument v = .error (.unknownOperator name) ↔ UnknownFirst name v := by
  constructor
  · intro h
    exact (tells_ofDocument v).unknownOperator name h
  · intro h
    rw [ofDocument_eq_ofNode h.exists_entry]
    exact ofNode_of_unknownFirst h hv

theorem compile_of_ne_text (h : ∀ s, v ≠ .text s) : compile v = ofDocument v := by
  unfold compile
  split
  · next s => exact absurd rfl (h s)
  · rfl

theorem document?_of_ne_text (h : ∀ s, v ≠ .text s) : document? v = some v := by
  unfold document?
  split
  · next s => exact absurd rfl (h s)
  · rfl

/-- A value either holds no document and is refused, or it is read as the document that it holds. -/
theorem compile_of_document? (hv : Json.Decoded v) :
    (∃ e, document? v = none ∧ compile v = .error (.node e)) ∨
    ∃ d, document? v = some d ∧ d.Every Json.Writable ∧ compile v = ofDocument d := by
  by_cases htext : ∃ s, v = .text s
  · obtain ⟨s, rfl⟩ := htext
    cases hs : Json.parse s with
    | error e => exact Or.inl ⟨.json e, by simp [document?, compile, ofJson, hs, Except.toOption]⟩
    | ok d =>
      refine Or.inr ⟨d, ?_, Json.parse_every hs, ?_⟩
      · simp [document?, hs, Except.toOption]
      · simp [compile, ofJson, hs]
  · have hne : ∀ s, v ≠ .text s := not_exists.mp htext
    exact Or.inr ⟨v, document?_of_ne_text hne, hv.every, compile_of_ne_text hne⟩

/-- Of the values that JSON holds, exactly those whose document is in the grammar describe a
predicate. The error of another one names its operator, if the first defect of its document is an
operator that there is not; otherwise it is about the node. -/
theorem compile_decoded (hv : Json.Decoded v) :
    ((∃ p, compile v = .ok p) ↔ ∃ d, document? v = some d ∧ Grammar d) ∧
    (∀ name, compile v = .error (.unknownOperator name) ↔
      ∃ d, document? v = some d ∧ UnknownFirst name d) ∧
    ((∃ e, compile v = .error (.node e)) ↔
      ∀ d, document? v = some d → ¬ Grammar d ∧ ∀ name, ¬ UnknownFirst name d) ∧
    compile v ≠ .error .longNumeral := by
  rcases compile_of_document? hv with ⟨e, hnone, hc⟩ | ⟨d, hd, hevery, hc⟩
  · simp [hnone, hc]
  · have hlong : ofDocument d ≠ .error .longNumeral := fun h =>
      not_overlong_of_writable hevery (ofDocument_longNumeral_iff.mp h)
    simp only [hd, hc, Option.some.injEq, exists_eq_left', forall_eq', ← ofDocument_ok_iff hevery,
      ← ofDocument_unknownOperator_iff hevery]
    refine ⟨trivial, fun _ => trivial, ?_, hlong⟩
    cases h : ofDocument d with
    | ok p => simp
    | error e => cases e with
      | node e => simp
      | unknownOperator name => simp
      | longNumeral => exact absurd h hlong

/-- A good child before one with an operator that there is not, and one that is no node. -/
def strayOperator : Value :=
  .object [(.text "ANY", .list [.object [(.text "Override", .null)],
    .object [(.text "Near", .int 1)], .null])]

theorem compile_decoded_strayOperator :
    Json.Decoded strayOperator ∧ compile strayOperator = .error (.unknownOperator "near") := by
  have hread : Json.Decoded strayOperator := .text (by
    show Json.parse "\x7b\"ANY\": [\x7b\"Override\": null\x7d, \x7b\"Near\": 1\x7d, null]\x7d" = _
    cbv)
  have hgood : Grammar (.object [(.text "Override", .null)]) := .override (by decide +kernel)
  have hstray : UnknownFirst "near" (.object [(.text "Near", .int 1)]) :=
    .here (by decide +kernel) (Operator.ofName?_eq_none_iff.mp rfl)
  have hfirst : UnknownFirst "near" strayOperator :=
    .child (Or.inr (by decide +kernel)) rfl (List.forall_mem_singleton.mpr hgood) hstray
  exact ⟨hread, ((compile_decoded hread).2.1 "near").mpr ⟨_, rfl, hfirst⟩⟩

/-- A text that holds a document describes a predicate, and is not in the grammar itself. -/
theorem compile_ok_textOverride : Json.Decoded (.text "\x7b\"OVERRIDE\": true\x7d") ∧
    ¬ ((∃ p, compile (.text "\x7b\"OVERRIDE\": true\x7d") = .ok p) ↔
      Grammar (.text "\x7b\"OVERRIDE\": true\x7d")) := by
  have hread : Json.Decoded (.text "\x7b\"OVERRIDE\": true\x7d") := .text (by
    show Json.parse "\"\x7b\\\"OVERRIDE\\\": true\x7d\"" = _
    cbv)
  have hparse : Json.parse "\x7b\"OVERRIDE\": true\x7d" =
      .ok (.object [(.text "OVERRIDE", .bool true)]) := by cbv
  have hcompile : compile (.text "\x7b\"OVERRIDE\": true\x7d") = .ok (.constant true) := by
    rw [Value.text, compile, hparse]
    rfl
  refine ⟨hread, fun h => ?_⟩
  cases h.mp ⟨_, hcompile⟩

end Predicate
end SplitTest
