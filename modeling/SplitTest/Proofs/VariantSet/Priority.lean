import SplitTest.Proofs.VariantSet.Check

/-! Earlier variants have priority. Slices that follow one another, and ranges, are searched from
the first variant on, so that a bucket which one of the first variants gets is not affected by what
comes after them. -/
namespace SplitTest.VariantSet

variable {buckets b offset : ℤ} {vs : List Variant} {i k : ℕ}

/-- A search that goes on past a variant finds the positions after it. -/
theorem next_eq_some_iff {x : Except ShareError (Option ℕ)} :
    (do return (← x).map (· + 1)) = .ok (some k) ↔ ∃ j, k = j + 1 ∧ x = .ok (some j) := by
  rw [Except.bind_eq_ok_iff]
  constructor
  · rintro ⟨found, hx, h⟩
    obtain ⟨j, rfl, rfl⟩ := Option.map_eq_some_iff.mp (Except.ok.inj h)
    exact ⟨j, rfl, hx⟩
  · rintro ⟨j, rfl, hx⟩
    exact ⟨some j, hx, rfl⟩

/-- A search among slices finds one of the first positions from the variants up to there. -/
theorem stackedPosition_take_iff (hk : k < i) :
    stackedPosition buckets b offset (vs.take i) = .ok (some k) ↔
      stackedPosition buckets b offset vs = .ok (some k) := by
  -- The running offset is the same in both searches up to the position.
  induction vs generalizing offset i k with
  | nil => rw [List.take_nil]
  | cons v rest ih =>
    obtain ⟨n, rfl⟩ := Nat.exists_eq_add_one_of_ne_zero (by omega : i ≠ 0)
    rw [List.take_succ_cons, stackedPosition, stackedPosition]
    cases wholeShare v.size buckets with
    | error e => rfl
    | ok share =>
      simp only [Except.ok_bind]
      split_ifs
      · rfl
      · rw [next_eq_some_iff, next_eq_some_iff]
        exact exists_congr fun j => and_congr_right fun hj => ih (by omega)

/-- So does a search among ranges. -/
theorem rangePosition_take_iff (hk : k < i) :
    rangePosition buckets b (vs.take i) = .ok (some k) ↔
      rangePosition buckets b vs = .ok (some k) := by
  induction vs generalizing i k with
  | nil => rw [List.take_nil]
  | cons v rest ih =>
    obtain ⟨n, rfl⟩ := Nat.exists_eq_add_one_of_ne_zero (by omega : i ≠ 0)
    rw [List.take_succ_cons, rangePosition, rangePosition]
    cases wholeShare v.rangeStart buckets with
    | error e => rfl
    | ok lower =>
      cases wholeShare v.rangeEnd buckets with
      | error e => rfl
      | ok upper =>
        simp only [Except.ok_bind]
        split_ifs
        · rfl
        · rw [next_eq_some_iff, next_eq_some_iff]
          exact exists_congr fun j => and_congr_right fun hj => ih (by omega)

theorem position?_take_iff {a : Arrangement} (ha : a = .multi ∨ a = .range) (hk : k < i) :
    position? ⟨a, vs.take i, buckets⟩ b = .ok (some k) ↔
      position? ⟨a, vs, buckets⟩ b = .ok (some k) := by
  rcases ha with rfl | rfl
  · exact stackedPosition_take_iff hk
  · exact rangePosition_take_iff hk

theorem ofName?_searched {type : String} {a : Arrangement}
    (ht : type ∈ ["multi_variant", "range_variant"]) (ha : Arrangement.ofName? type = some a) :
    a = .multi ∨ a = .range := by
  have hname : a.name = type := by simpa using List.find?_some ha
  subst hname
  revert ht
  cases a <;> decide

theorem choose_congr {set set' : VariantSet} (hp : set.position? b = .ok (some k))
    (hp' : set'.position? b = .ok (some k)) (hv : set.variants[k]? = set'.variants[k]?) :
    set.choose b = set'.choose b := by
  simp only [choose, hp, hp', Except.ok_bind, hv]

/-- A bucket that one of the first variants gets in a set is not affected by the others: in all sets
of the type that start with the same variants it gets its answer from the same position, and the
same answer. -/
theorem ofType_take {type : String} (ht : type ∈ ["multi_variant", "range_variant"])
    {vs vs' : List Variant} {set set' : VariantSet} (h : ofType type vs buckets = .ok set)
    (h' : ofType type vs' buckets = .ok set') (hsame : vs.take i = vs'.take i) (b : ℤ)
    (hk : k < i) :
    (set.position? b = .ok (some k) ↔ set'.position? b = .ok (some k)) ∧
      (set.position? b = .ok (some k) → set.choose b = set'.choose b) := by
  obtain ⟨a, ha, -, rfl⟩ := ofType_eq_ok_iff.mp h
  obtain ⟨a', ha', -, rfl⟩ := ofType_eq_ok_iff.mp h'
  obtain rfl := Option.some.inj (ha.symm.trans ha')
  have hsearched := ofName?_searched ht ha
  have hposition : position? ⟨a, vs, buckets⟩ b = .ok (some k) ↔
      position? ⟨a, vs', buckets⟩ b = .ok (some k) := by
    rw [← position?_take_iff hsearched hk, hsame, position?_take_iff hsearched hk]
  have hvariant : vs[k]? = vs'[k]? := by
    rw [← List.getElem?_take_of_lt hk, hsame, List.getElem?_take_of_lt hk]
  exact ⟨hposition, fun hp => choose_congr hp (hposition.mp hp) hvariant⟩

/-- Shares of eighths, the second of which takes back one of the first. -/
def takenBack : List Variant :=
  [("up", 1 / 4), ("back", -1 / 8), ("again", 1 / 2)].map fun (name, size) =>
    ⟨name, .ofRat false size, .ofInt 0, .ofInt 0⟩

/-- The same shares, and one for the rest. -/
def takenBackAndRest : List Variant :=
  takenBack ++ [⟨"rest", .ofRat false (3 / 8), .ofInt 0, .ofInt 0⟩]

theorem ofType_take_takenBack :
    ofType "multi_variant" takenBack 8 = .ok ⟨.multi, takenBack, 8⟩ ∧
      ofType "multi_variant" takenBackAndRest 8 = .ok ⟨.multi, takenBackAndRest, 8⟩ ∧
      position? ⟨.multi, takenBack, 8⟩ 3 = .ok (some 2) ∧
      position? ⟨.multi, takenBackAndRest, 8⟩ 3 = .ok (some 2) ∧
      choose ⟨.multi, takenBackAndRest, 8⟩ 3 = .ok "again" := by
  obtain ⟨hset, hset', hposition, hagain⟩ :
      ofType "multi_variant" takenBack 8 = .ok ⟨.multi, takenBack, 8⟩ ∧
        ofType "multi_variant" takenBackAndRest 8 = .ok ⟨.multi, takenBackAndRest, 8⟩ ∧
        position? ⟨.multi, takenBack, 8⟩ 3 = .ok (some 2) ∧
        choose ⟨.multi, takenBack, 8⟩ 3 = .ok "again" := by decide +kernel
  obtain ⟨hsame, hchoose⟩ := ofType_take (i := 3) (k := 2) (by decide) hset hset' rfl 3 (by decide)
  exact ⟨hset, hset', hposition, hsame.mp hposition, (hchoose hposition).symm.trans hagain⟩

end SplitTest.VariantSet
