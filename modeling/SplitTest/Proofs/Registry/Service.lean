import SplitTest.Proofs.Configuration.Reading
import SplitTest.Proofs.Experiment.Service
import SplitTest.Proofs.Registry.Transparency

/-! What becomes of requests to experiments that passed their check: each is answered as callers
are told, except for those that come to a number that cannot be computed with. -/
namespace SplitTest

/-- A variant, or one of the two errors that callers are told of. -/
def Answered : Except RegistryError String → Prop
  | .ok _ => True
  | .error (.request (.missingKey _ _)) => True
  | .error (.request (.keyType _)) => True
  | .error _ => False

instance : DecidablePred Answered
  | .ok _ => .isTrue trivial
  | .error (.request (.missingKey _ _)) => .isTrue trivial
  | .error (.request (.keyType _)) => .isTrue trivial
  | .error (.request (.evaluation _)) => .isFalse id
  | .error (.request (.share _)) => .isFalse id
  | .error (.unknownExperiment _) => .isFalse id
  | .error (.compile _) => .isFalse id

theorem answered_mapError_iff {outcome : Except RequestError String} :
    Answered (outcome.mapError .request) ↔ Served outcome := by
  cases outcome with
  | ok v => rfl
  | error e => cases e <;> rfl

namespace Manifest

variable {m : Manifest} {name : String} {x : Experiment}

theorem compileConfig_eq_ok_iff {c : Configuration} :
    compileConfig c = .ok x ↔ Experiment.compile c = .ok x := by
  unfold compileConfig
  split
  · next hnone =>
    refine iff_of_false (by simp) fun hx => ?_
    obtain ⟨a, ha, -⟩ := (Experiment.compile_eq_ok_iff.mp hx).exists_arrangement
    simp [hnone] at ha
  · exact Except.mapError_eq_ok_iff

theorem experiment_eq_ok_iff :
    m.experiment name = .ok x ↔ ∃ c, m.find? name = some c ∧ Experiment.compile c = .ok x := by
  unfold experiment config
  cases m.find? name with
  | none => simp
  | some c => simp [compileConfig_eq_ok_iff]

end Manifest

/-- A compiled experiment of a manifest that was read has a variant set that is checked. -/
theorem ManifestReading.checked_of_parse {format : ManifestFormat} {content : Content}
    {reading : ManifestReading} (hread : parse format content = .ok reading) {name : String}
    {x : Experiment} (hx : reading.manifest.experiment name = .ok x) : x.variantSet.Checked := by
  obtain ⟨c, hc, hcompile⟩ := Manifest.experiment_eq_ok_iff.mp hx
  have hfinite := finite_of_parse hread (Assoc.mem_of_find? hc)
  obtain ⟨a, -, hcheck, hset⟩ := (Experiment.compile_eq_ok_iff.mp hcompile).exists_arrangement
  rw [hset]
  exact ⟨rfl, hcheck, hfinite.variants⟩

namespace Registry

/-- Of an experiment that passes its check, exactly the requests that get stuck are not answered as
callers are told: some on integers that predicates compare, some on sizes and ends of variants. -/
theorem answered_iff {contents : Nat → Manifest} {r : Registry} {s : Snapshot}
    (hr : r.Coherent contents) (hs : s.manifest = contents s.number) {format : ManifestFormat}
    {content : Content} {reading : ManifestReading}
    (hread : ManifestReading.parse format content = .ok reading)
    (hm : s.manifest = reading.manifest) {name : String}
    (hv : (r.check s name).value = .ok ()) (now : Double) (args : Arguments) :
    Answered (r.variant s now name args).value ↔
      ¬ ∃ x, s.manifest.experiment name = .ok x ∧ x.Stuck now args := by
  rw [(variant_spec hr hs now name args).1]
  rw [(check_spec hr hs name).1] at hv
  obtain ⟨x, hx, -⟩ := Except.map_eq_ok_iff.mp hv
  have hset : x.variantSet.Checked := ManifestReading.checked_of_parse hread (hm ▸ hx)
  unfold Manifest.variant
  rw [hx, Except.ok_bind, answered_mapError_iff, Experiment.served_iff hset]
  simp

/-- A manifest with one experiment, for requests with an age past eighteen. -/
def agedOffer : String :=
  "offer:\n  type: feature_rollout\n  stop_ts: 9\n  experiment:\n" ++
    "    variants:\n    - name: shown\n      size: 1\n" ++
    "    targeting:\n      gt:\n        field: age\n        value: 18\n"

def requestOfAge (age : ℤ) : Arguments := [("user_id", .text "u1"), ("age", .int age)]

theorem agedOffer_yields :
    Except.Yields (fun reading =>
      (empty.check ⟨0, reading.manifest⟩ "offer").value = .ok () ∧
        Answered (empty.variant ⟨0, reading.manifest⟩ (.ofInt 5) "offer" (requestOfAge 20)).value ∧
        ¬ Answered (empty.variant ⟨0, reading.manifest⟩ (.ofInt 5) "offer"
          (requestOfAge (10 ^ 400))).value)
      (ManifestReading.parse .yaml (.text agedOffer)) := by
  decide +kernel

theorem answered_iff_age_twenty :
    ∃ reading, ManifestReading.parse .yaml (.text agedOffer) = .ok reading ∧
      (empty.check ⟨0, reading.manifest⟩ "offer").value = .ok () ∧
      ¬ ∃ x, reading.manifest.experiment "offer" = .ok x ∧
        x.Stuck (.ofInt 5) (requestOfAge 20) := by
  obtain ⟨reading, hread, hcheck, hanswer, -⟩ := Except.yields_iff.mp agedOffer_yields
  have hr : empty.Coherent fun _ => reading.manifest := empty_coherent
  exact ⟨reading, hread, hcheck, (answered_iff hr rfl hread rfl hcheck _ _).mp hanswer⟩

/-- The same experiment cannot serve an age that no double comes near. -/
theorem not_answered_age_past_doubles :
    ∃ reading, ManifestReading.parse .yaml (.text agedOffer) = .ok reading ∧
      (empty.check ⟨0, reading.manifest⟩ "offer").value = .ok () ∧
      ¬ Answered (empty.variant ⟨0, reading.manifest⟩ (.ofInt 5) "offer"
        (requestOfAge (10 ^ 400))).value := by
  obtain ⟨reading, hread, hcheck, -, hnot⟩ := Except.yields_iff.mp agedOffer_yields
  exact ⟨reading, hread, hcheck, hnot⟩

end Registry
end SplitTest
