import SplitTest.Proofs.Assoc
import SplitTest.Proofs.Experiment.Decision
import SplitTest.Proofs.Predicate.Relevance

/-! What an experiment reads of a request: the argument that places it, and the fields that its
targeting and its overrides name. The other arguments, and the order of all of them, do not matter.
-/
namespace SplitTest

/-- Arguments whose names differ also in lower case are found in any order. -/
theorem Arguments.get_lowered_perm {args others : Arguments} (hp : args.Perm others)
    (h : (args.map fun arg => lowercase arg.1).Nodup) (name : String) :
    args.lowered.get name = others.lowered.get name := by
  have hkeys : ((args.map fun arg => (lowercase arg.1, arg.2)).map (·.1)).Nodup := by
    rwa [List.map_map]
  have hperm := hp.map fun arg => (lowercase arg.1, arg.2)
  have hkeys' := (hperm.map (·.1)).nodup_iff.mp hkeys
  have hfind := Assoc.find?_perm hperm hkeys name
  unfold Arguments.get Arguments.lowered
  rw [Assoc.ofList_of_nodup hkeys, Assoc.ofList_of_nodup hkeys', hfind]

theorem Value.Alike.isMissing_eq {v w : Value} (h : v.Alike w) : v.isMissing = w.isMissing := by
  cases h <;> rfl

namespace Experiment

variable {x : Experiment} {args others : Arguments}

/-- The fields that targeting and overrides name. -/
def fields (x : Experiment) : List String :=
  x.targeting.fields ++ x.overrides.flatten.flatMap (·.2.fields)

theorem firstMatch_congr {overrides : List Override}
    (h : ∀ f ∈ overrides.flatMap (·.2.fields), (args.get f).Alike (others.get f)) :
    firstMatch args overrides = firstMatch others overrides := by
  induction overrides with
  | nil => rfl
  | cons o rest ih =>
    rw [List.flatMap_cons] at h
    have hfirst := o.2.evaluate_congr fun f hf => h f (List.mem_append_left _ hf)
    have hrest := ih fun f hf => h f (List.mem_append_right _ hf)
    simp only [firstMatch, hfirst, hrest]

theorem place_congr {v w : Value} (h : v.Alike w) : x.place v = x.place w := by
  cases h <;> rfl

theorem assign_congr (hkey : (args.lowered.get x.bucketKey).Alike (others.lowered.get x.bucketKey))
    (h : ∀ f ∈ x.fields, (args.lowered.get f).Alike (others.lowered.get f)) (now : Double) :
    x.assign now args = x.assign now others := by
  have htargeting := x.targeting.evaluate_congr fun f hf => h f (List.mem_append_left _ hf)
  have hoverride : x.overrideFor args.lowered = x.overrideFor others.lowered :=
    firstMatch_congr fun f hf => h f (List.mem_append_right _ hf)
  rw [assign_eq_finish, assign_eq_finish]
  unfold progress progressFor
  rw [hkey.isMissing_eq, hoverride, htargeting]
  split_ifs
  · rfl
  · cases x.overrideFor others.lowered with
    | error e => rfl
    | ok found => cases found with
      | some variant => rfl
      | none => cases x.targeting.evaluate others.lowered with
        | error e => rfl
        | ok hit => cases hit with
          | false => rfl
          | true => exact place_congr hkey
  · rfl

/-- Requests that are alike in the argument that places them and in all fields that are named get
the same variant or the same error. So do requests with the same arguments in another order, unless
two of their names are equal in lower case. -/
theorem variant_of_alike (x : Experiment) (now : Double) (args others : Arguments) :
    ((args.lowered.get x.bucketKey).Alike (others.lowered.get x.bucketKey) →
      (∀ f ∈ x.fields, (args.lowered.get f).Alike (others.lowered.get f)) →
      x.variant now args = x.variant now others) ∧
    (args.Perm others → (args.map fun arg => lowercase arg.1).Nodup →
      x.variant now args = x.variant now others) := by
  constructor
  · intro hkey h
    exact congrArg (Except.map (·.variant)) (assign_congr hkey h now)
  · intro hp hnodup
    have hget := Arguments.get_lowered_perm hp hnodup
    have halike : ∀ name, (args.lowered.get name).Alike (others.lowered.get name) := by
      intro name
      rw [hget name]
      exact .refl _
    exact congrArg (Except.map (·.variant)) (assign_congr (halike _) (fun f _ => halike f) now)

/-- An experiment that reads two arguments. -/
def germanOffer : Experiment :=
  ⟨7, "offer", "user_id", "s", true, .ofInt 0, .ofInt 100,
    ⟨.rollout, [⟨"shown", .ofInt 1, .zero, .zero⟩], 1000⟩, .equal "country" [.text "DE"], []⟩

def germanAtThirty : Arguments :=
  [("age", .int 30), ("User_ID", .text "u1"), ("country", .text "DE")]

def germanOnFreePlan : Arguments :=
  [("COUNTRY", .text "DE"), ("user_id", .text "u1"), ("plan", .text "free")]

theorem variant_of_alike_germanOffer :
    germanOffer.variant (.ofInt 5) germanAtThirty = .ok "shown" ∧
    germanOffer.variant (.ofInt 5) germanOnFreePlan = .ok "shown" ∧
    germanOffer.variant (.ofInt 5) germanOnFreePlan.reverse = .ok "shown" := by
  have hshown : germanOffer.variant (.ofInt 5) germanAtThirty = .ok "shown" := by decide +kernel
  have hlowered : germanAtThirty.lowered =
      [("age", .int 30), ("user_id", .text "u1"), ("country", .text "DE")] := by rfl
  have hlowered' : germanOnFreePlan.lowered =
      [("country", .text "DE"), ("user_id", .text "u1"), ("plan", .text "free")] := by rfl
  have hkey : (germanAtThirty.lowered.get germanOffer.bucketKey).Alike
      (germanOnFreePlan.lowered.get germanOffer.bucketKey) := by
    rw [hlowered, hlowered']
    exact .refl (.text "u1")
  have hfields : ∀ f ∈ germanOffer.fields,
      (germanAtThirty.lowered.get f).Alike (germanOnFreePlan.lowered.get f) := by
    intro f hf
    obtain rfl := List.mem_singleton.mp hf
    rw [hlowered, hlowered']
    exact .refl (.text "DE")
  have hother := (variant_of_alike germanOffer (.ofInt 5) germanAtThirty germanOnFreePlan).1
    hkey hfields
  have hturned := (variant_of_alike germanOffer (.ofInt 5) germanOnFreePlan _).2
    (List.reverse_perm _).symm (by decide +kernel)
  exact ⟨hshown, hother ▸ hshown, hturned ▸ hother ▸ hshown⟩

end Experiment
end SplitTest
