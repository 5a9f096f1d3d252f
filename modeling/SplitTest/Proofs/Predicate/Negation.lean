import SplitTest.Proofs.Predicate.Document

/-! Negated groups. A group of predicates is negated by negating each of them and asking for any
instead of all, or for all instead of any: documents of both forms are accepted together, and the
children are tried in the same order and up to the same one. -/
namespace SplitTest.Predicate

variable {args : Arguments} {passing : Bool} {ps : List Predicate}

/-- A group of predicates that are tried from the left as long as their answer is `passing`: all of
them have to hold, or any. -/
def group (passing : Bool) (children : List Predicate) : Predicate :=
  match passing with
  | true => .all children
  | false => .any children

theorem evaluate_group_nil : (group passing []).evaluate args = .ok passing := by
  cases passing <;> rfl

theorem evaluate_group_cons (p : Predicate) : (group passing (p :: ps)).evaluate args =
    p.evaluate args >>= fun answer =>
      if answer = passing then (group passing ps).evaluate args else .ok (!passing) := by
  cases passing with
  | true => rfl
  | false =>
    simp only [group, evaluate, evaluateAny]
    cases p.evaluate args with
    | error e => rfl
    | ok answer => cases answer <;> rfl

theorem evaluate_not (p : Predicate) :
    (Predicate.not p).evaluate args = (p.evaluate args).map (!·) := by
  rw [evaluate, Except.fmap_eq_map]

/-- Negation goes into a group, which becomes one of the other kind. -/
theorem evaluate_not_group : (Predicate.not (group passing ps)).evaluate args =
    (group (!passing) (ps.map .not)).evaluate args := by
  induction ps with
  | nil => rw [evaluate_not, List.map_nil, evaluate_group_nil, evaluate_group_nil, Except.map_ok]
  | cons p rest ih =>
    rw [List.map_cons, evaluate_group_cons, evaluate_not, evaluate_group_cons, evaluate_not, ← ih,
      evaluate_not]
    cases p.evaluate args with
    | error e => rfl
    | ok answer => cases answer <;> cases passing <;> rfl

/-- Trying the children of a group fails at a place: the child there has no answer, and those in
front of it give the one that lets the others be tried. -/
structure FailsAt (args : Arguments) (passing : Bool) (children : List Predicate) (i : ℕ)
    (e : EvaluationError) : Prop where
  fails : ∃ p, children[i]? = some p ∧ p.evaluate args = .error e
  passed : ∀ q ∈ children.take i, q.evaluate args = .ok passing

theorem FailsAt.cons {p : Predicate} {i : ℕ} {e : EvaluationError}
    (hp : p.evaluate args = .ok passing) (h : FailsAt args passing ps i e) :
    FailsAt args passing (p :: ps) (i + 1) e :=
  ⟨h.fails, List.forall_mem_cons.mpr ⟨hp, h.passed⟩⟩

/-- A group without an answer fails at one of its children. -/
theorem exists_failsAt {e : EvaluationError} (h : (group passing ps).evaluate args = .error e) :
    ∃ i, FailsAt args passing ps i e := by
  induction ps with
  | nil => simp [evaluate_group_nil] at h
  | cons p rest ih =>
    rw [evaluate_group_cons, Except.bind_eq_error_iff] at h
    rcases h with hp | ⟨answer, hp, h⟩
    · exact ⟨0, ⟨p, rfl, hp⟩, by simp⟩
    · split_ifs at h with hpass
      obtain ⟨i, hi⟩ := ih h
      exact ⟨i + 1, hi.cons (hpass ▸ hp)⟩

theorem FailsAt.map_not {i : ℕ} {e : EvaluationError} (h : FailsAt args passing ps i e) :
    FailsAt args (!passing) (ps.map .not) i e := by
  obtain ⟨p, hi, hp⟩ := h.fails
  constructor
  · exact ⟨.not p, by simp [hi], by rw [evaluate_not, hp, Except.map_error]⟩
  · rw [← List.map_take, List.forall_mem_map]
    intro q hq
    rw [evaluate_not, h.passed q hq, Except.map_ok]

/-- A document with one operator. -/
def node (key : String) (operand : Value) : Value :=
  .object [(.text key, operand)]

/-- The operator of a group. -/
def groupName (passing : Bool) : String :=
  if passing then "all" else "any"

theorem ofNode_groupNode {key : String} (hk : lowercase key = groupName passing)
    (ds : List Value) : ofNode (node key (.list ds)) = (ds.mapM ofNode).map (group passing) := by
  cases passing with
  | true => exact ofNode_of_operator (congrArg Operator.ofName? hk : _ = some .all) (.list ds)
  | false => exact ofNode_of_operator (congrArg Operator.ofName? hk : _ = some .any) (.list ds)

theorem exists_entry_of_ofNode {v : Value} {p : Predicate} (h : ofNode v = .ok p) :
    ∃ entry, v = .object [entry] := by
  unfold ofNode at h
  split at h
  · exact ⟨_, rfl⟩
  all_goals cases h

/-- The negation of a document is read if the document is. -/
theorem ofNode_negated_iff {key : String} (hk : lowercase key = "not") {v : Value} {q : Predicate} :
    ofNode (node key v) = .ok q ↔ ∃ p, ofNode v = .ok p ∧ .not p = q := by
  have hnot : ofNode (node key v) = ofOperand .not v :=
    ofNode_of_operator (congrArg Operator.ofName? hk) v
  rw [hnot]
  constructor
  · intro h
    cases v with
    | object entries =>
      match entries with
      | [entry] => exact Except.map_eq_ok_iff.mp h
      | [] => cases h
      | _ :: _ :: _ => cases h
    | scalar s => cases h
    | list items => cases h
  · rintro ⟨p, hp, rfl⟩
    obtain ⟨entry, rfl⟩ := exists_entry_of_ofNode hp
    rw [ofOperand, hp, Except.fmap_eq_map, Except.map_ok]

theorem mapM_negated_iff {key : String} (hk : lowercase key = "not") {ds : List Value}
    {qs : List Predicate} : (ds.map (node key)).mapM ofNode = .ok qs ↔
      ∃ ps, ds.mapM ofNode = .ok ps ∧ ps.map .not = qs := by
  induction ds generalizing qs with
  | nil => simp
  | cons d rest ih =>
    simp only [List.map_cons, List.mapM_cons, Except.bind_eq_ok_iff, ofNode_negated_iff hk, ih,
      Except.pure_eq_ok, Except.ok.injEq]
    constructor
    · rintro ⟨-, ⟨p, hp, rfl⟩, -, ⟨ps, hps, rfl⟩, rfl⟩
      exact ⟨p :: ps, ⟨p, hp, ps, hps, rfl⟩, rfl⟩
    · rintro ⟨-, ⟨p, hp, ps, hps, rfl⟩, rfl⟩
      exact ⟨_, ⟨p, hp, rfl⟩, _, ⟨ps, hps, rfl⟩, rfl⟩

/-- Two documents of the negation of a group: they are accepted together, and have the same outcome
for all arguments. Where that is an error, both fail at the child of the same document. -/
structure Dual (passing : Bool) (ds : List Value) (v w : Value) : Prop where
  accepted : (∃ p, compile v = .ok p) ↔ ∃ q, compile w = .ok q
  alike : ∀ p q, compile v = .ok p → compile w = .ok q → ∃ ps, ds.mapM ofNode = .ok ps ∧
    p = .not (group passing ps) ∧ q = group (!passing) (ps.map .not) ∧
      ∀ args, p.evaluate args = q.evaluate args ∧ ∀ e, p.evaluate args = .error e →
        ∃ i, FailsAt args passing ps i e ∧ FailsAt args (!passing) (ps.map .not) i e

theorem dual_group {notKey key dualKey : String} (hnot : lowercase notKey = "not")
    (hk : lowercase key = groupName passing) (hdual : lowercase dualKey = groupName (!passing))
    (ds : List Value) : Dual passing ds (node notKey (node key (.list ds)))
      (node dualKey (.list (ds.map (node notKey)))) := by
  have hleft : ∀ p, compile (node notKey (node key (.list ds))) = .ok p ↔
      ∃ ps, ds.mapM ofNode = .ok ps ∧ .not (group passing ps) = p := by
    intro p
    refine (ofNode_negated_iff hnot).trans ?_
    simp [ofNode_groupNode hk, Except.map_eq_ok_iff]
  have hright : ∀ q, compile (node dualKey (.list (ds.map (node notKey)))) = .ok q ↔
      ∃ ps, ds.mapM ofNode = .ok ps ∧ group (!passing) (ps.map .not) = q := by
    intro q
    refine (Iff.of_eq (congrArg (· = .ok q) (ofNode_groupNode hdual _))).trans ?_
    simp only [Except.map_eq_ok_iff, mapM_negated_iff hnot]
    constructor
    · rintro ⟨-, ⟨ps, hps, rfl⟩, rfl⟩
      exact ⟨ps, hps, rfl⟩
    · rintro ⟨ps, hps, rfl⟩
      exact ⟨_, ⟨ps, hps, rfl⟩, rfl⟩
  constructor
  · simp only [hleft, hright]
    constructor
    · rintro ⟨-, ps, hps, -⟩
      exact ⟨_, ps, hps, rfl⟩
    · rintro ⟨-, ps, hps, -⟩
      exact ⟨_, ps, hps, rfl⟩
  · intro p q hp hq
    obtain ⟨ps, hps, rfl⟩ := (hleft p).mp hp
    obtain ⟨ps', hps', rfl⟩ := (hright q).mp hq
    obtain rfl := Except.ok.inj (hps.symm.trans hps')
    refine ⟨ps, hps, rfl, rfl, fun args => ⟨evaluate_not_group, fun e he => ?_⟩⟩
    rw [evaluate_not, Except.map_eq_error_iff] at he
    obtain ⟨i, hi⟩ := exists_failsAt he
    exact ⟨i, hi, hi.map_not⟩

/-- The negation of a group in documents. The negation of all is accepted together with any of the
negations, and has the same outcome, also where a child has no answer; so has the negation of any
with all of the negations. -/
theorem compile_deMorgan {notKey allKey anyKey : String} (hnot : lowercase notKey = "not")
    (hall : lowercase allKey = "all") (hany : lowercase anyKey = "any") (ds : List Value) :
    Dual true ds (node notKey (node allKey (.list ds)))
        (node anyKey (.list (ds.map (node notKey)))) ∧
      Dual false ds (node notKey (node anyKey (.list ds)))
        (node allKey (.list (ds.map (node notKey)))) :=
  ⟨dual_group hnot hall hany ds, dual_group hnot hany hall ds⟩

/-- A test of an age that is too large for a comparison, after one that passes. -/
def agedUsers : List Value :=
  [node "NOT" (node "any" (.list [])),
    node "ge" (.object [(.text "field", .text "Age"), (.text "value", .int 18)])]

theorem compile_deMorgan_hugeAge :
    compile (node "Not" (node "ALL" (.list agedUsers))) =
        .ok (.not (.all [.not (.any []), .compare .ge "age" (.int 18)])) ∧
      ∃ q, compile (node "ANY" (.list (agedUsers.map (node "Not")))) = .ok q ∧
        q.evaluate [("age", .int (10 ^ 400))] = .error .integerTooLarge := by
  have hp : compile (node "Not" (node "ALL" (.list agedUsers))) =
      .ok (.not (.all [.not (.any []), .compare .ge "age" (.int 18)])) := rfl
  have hfails : (Predicate.not (.all [.not (.any []), .compare .ge "age" (.int 18)])).evaluate
      [("age", .int (10 ^ 400))] = .error .integerTooLarge := by decide +kernel
  have hnot : lowercase "Not" = "not" := by decide
  have hall : lowercase "ALL" = "all" := by decide
  have hany : lowercase "ANY" = "any" := by decide
  obtain ⟨⟨haccepted, halike⟩, -⟩ := compile_deMorgan hnot hall hany agedUsers
  obtain ⟨q, hq⟩ := haccepted.mp ⟨_, hp⟩
  obtain ⟨ps, -, -, -, hsame⟩ := halike _ q hp hq
  exact ⟨hp, q, hq, (hsame _).1 ▸ hfails⟩

end SplitTest.Predicate
