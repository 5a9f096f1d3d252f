import SplitTest.Proofs.Experiment.Relevance
import SplitTest.Proofs.Predicate.LetterCase

/-! The letter case of all that is asked of an experiment: its targeting, the name of the argument
that places a request, and the names of the arguments themselves. -/
namespace SplitTest

namespace Lowercase

theorem ofChar_ne_nil (c : Char) : ofChar c ≠ [] := by
  unfold ofChar
  split
  · exact List.cons_ne_nil _ _
  · split
    · exact List.cons_ne_nil _ _
    · split <;> exact List.cons_ne_nil _ _

theorem ofChars_eq_nil_iff {afterCased : Bool} {cs : List Char} :
    ofChars afterCased cs = [] ↔ cs = [] := by
  cases cs with
  | nil => simp [ofChars]
  | cons c rest =>
    rw [ofChars]
    split_ifs <;> simp [ofChar_ne_nil]

end Lowercase

theorem lowercase_eq_empty_iff {s : String} : lowercase s = "" ↔ s = "" := by
  rw [lowercase, ← String.toList_inj, String.toList_ofList, String.toList_empty,
    Lowercase.ofChars_eq_nil_iff, ← String.toList_inj, String.toList_empty]

/-- Arguments with their names in another case, and in another order. -/
def Arguments.Recased (args others : Arguments) : Prop :=
  ∃ turned : Arguments,
    List.Forall₂ (fun a b => lowercase a.1 = lowercase b.1 ∧ a.2 = b.2) args turned ∧
      turned.Perm others

theorem Arguments.get_lowered_of_recased {args others : Arguments} (h : args.Recased others)
    (hnodup : (args.map fun arg => lowercase arg.1).Nodup) (name : String) :
    args.lowered.get name = others.lowered.get name := by
  obtain ⟨turned, hcase, hperm⟩ := h
  have hentries : args.map (fun arg => (lowercase arg.1, arg.2)) =
      turned.map (fun arg => (lowercase arg.1, arg.2)) := by
    rw [← List.forall₂_eq_eq_eq, List.forall₂_map_left_iff, List.forall₂_map_right_iff]
    exact hcase.imp fun _ _ h => Prod.ext h.1 h.2
  have hnames := congrArg (List.map Prod.fst) hentries
  rw [List.map_map, List.map_map] at hnames
  have hlowered : args.lowered = turned.lowered := congrArg Assoc.ofList hentries
  rw [hlowered]
  exact get_lowered_perm hperm (hnames ▸ hnodup) name

theorem Predicate.matchesRequest_of_recased {args others : Arguments} (p : Predicate)
    (h : args.Recased others) (hnodup : (args.map fun arg => lowercase arg.1).Nodup) :
    p.matchesRequest args = p.matchesRequest others := by
  refine p.evaluate_congr fun f _ => ?_
  rw [Arguments.get_lowered_of_recased h hnodup]
  exact .refl _

namespace Experiment

theorem variant_of_recased {args others : Arguments} (x : Experiment) (now : Double)
    (h : args.Recased others) (hnodup : (args.map fun arg => lowercase arg.1).Nodup) :
    x.variant now args = x.variant now others := by
  have halike : ∀ name, (args.lowered.get name).Alike (others.lowered.get name) := fun name => by
    rw [Arguments.get_lowered_of_recased h hnodup]
    exact .refl _
  exact congrArg (Except.map (·.variant)) (assign_congr (halike _) (fun f _ => halike f) now)

/-- A configuration that names another argument to place requests by. -/
def keyedBy (c : Configuration) (key : String) : Configuration :=
  { c with definition := { c.definition with bucketKey := key } }

theorem bucketKeyOf_keyedBy {c : Configuration} {key : String}
    (h : lowercase key = lowercase c.definition.bucketKey) :
    bucketKeyOf (keyedBy c key) = bucketKeyOf c := by
  have hempty : key = "" ↔ c.definition.bucketKey = "" := by
    rw [← lowercase_eq_empty_iff, h, lowercase_eq_empty_iff]
  unfold bucketKeyOf keyedBy
  simp only [hempty]
  split_ifs
  · rfl
  · exact h

theorem compile_keyedBy {c : Configuration} {key : String}
    (h : lowercase key = lowercase c.definition.bucketKey) :
    compile (keyedBy c key) = compile c := by
  unfold compile
  rw [bucketKeyOf_keyedBy h]
  rfl

/-- Nothing depends on letter case: targeting that is re-cased is read as the same predicate or
refused with the same error, and requests with re-cased arguments in any order get the same answers,
also where the configuration re-cases the argument that places them. -/
theorem answers_of_recased :
    (∀ v w : Value, v.Recased w → Predicate.compile v = Predicate.compile w) ∧
    ∀ args others : Arguments, args.Recased others → (args.map fun arg => lowercase arg.1).Nodup →
      (∀ p : Predicate, p.matchesRequest args = p.matchesRequest others) ∧
      ∀ (c : Configuration) (key : String), lowercase key = lowercase c.definition.bucketKey →
        compile (keyedBy c key) = compile c ∧
        ∀ now, (compile c).map (·.variant now args) =
          (compile (keyedBy c key)).map (·.variant now others) := by
  refine ⟨fun v w h => Predicate.compile_of_recased h, fun args others hargs hnodup => ?_⟩
  refine ⟨fun p => p.matchesRequest_of_recased hargs hnodup, fun c key hkey => ?_⟩
  have hcompile := compile_keyedBy hkey
  have hvariant : ∀ now (x : Experiment), x.variant now args = x.variant now others :=
    fun now x => variant_of_recased x now hargs hnodup
  refine ⟨hcompile, fun now => ?_⟩
  simp only [hcompile, hvariant]

/-- Targeting by country, and the same with other letters. -/
def byCountry (operator test field : String) : Value :=
  .object [(.text operator, .list [.object [(.text test,
    .object [(.text "field", .text field), (.text "value", .text "DE")])]])]

/-- An offer that is placed by the argument of the user. -/
def countryOffer : Configuration :=
  ⟨7, "offer", "", some true, "", "feature_rollout", .ofInt 0, .ofInt 100,
    { Definition.empty with
      bucketKey := "User_ID"
      bucketSeed := "s"
      variants := [⟨"shown", .ofInt 1, .zero, .zero⟩]
      targeting := byCountry "any" "eq" "country" }⟩

/-- The arguments of `germanAtThirty`, in other letters and another order. -/
def shoutedAtThirty : Arguments :=
  [("USER_ID", .text "u1"), ("COUNTRY", .text "DE"), ("Age", .int 30)]

theorem byCountry_recased :
    (byCountry "any" "eq" "country").Recased (byCountry "ANY" "Eq" "Country") := by
  refine .node (by decide) (.children rfl fun v w h => ?_)
  obtain ⟨rfl, rfl⟩ := Prod.mk.inj (List.mem_singleton.mp h)
  exact .node (by decide) (.operand (.cons (.field (by decide)) (.cons (.same _) .nil)))

theorem germanAtThirty_recased : germanAtThirty.Recased shoutedAtThirty :=
  ⟨[("Age", .int 30), ("USER_ID", .text "u1"), ("COUNTRY", .text "DE")],
    .cons ⟨by decide, rfl⟩ (.cons ⟨by decide, rfl⟩ (.cons ⟨by decide, rfl⟩ .nil)),
    (List.perm_append_singleton _ [_, _]).symm⟩

theorem answers_of_recased_countryOffer :
    Predicate.compile (byCountry "ANY" "Eq" "Country") =
      .ok (.any [.equal "country" [.text "DE"]]) ∧
    (compile (keyedBy countryOffer "user_ID")).map (·.variant (.ofInt 5) shoutedAtThirty) =
      .ok (.ok "shown") := by
  obtain ⟨hdocuments, hrequests⟩ := answers_of_recased
  have hnodup : (germanAtThirty.map fun arg => lowercase arg.1).Nodup := by decide
  have hshown : (compile countryOffer).map (·.variant (.ofInt 5) germanAtThirty) =
      .ok (.ok "shown") := by decide +kernel
  have hanswers := (hrequests germanAtThirty shoutedAtThirty germanAtThirty_recased hnodup).2
    countryOffer "user_ID" (by decide)
  constructor
  · rw [← hdocuments _ _ byCountry_recased]
    rfl
  · rw [← hanswers.2, hshown]

end Experiment
end SplitTest
