import SplitTest.Proofs.Experiment.Derailment
import SplitTest.Proofs.Registry.Service

/-! The check of all experiments at once: it tells each fault under the name that it belongs to,
unless a configuration derails. -/
namespace SplitTest

/-- A name with the error of its check, if it has one. -/
def failure? (name : String) : Except RegistryError Unit → Option (String × RegistryError)
  | .ok _ => none
  | .error e => some (name, e)

/-- The configuration that a manifest has under a name derails. -/
def Manifest.Derails (m : Manifest) (name : String) : Prop :=
  ∃ c a, m.find? name = some c ∧ Arrangement.ofName? c.type = some a ∧ c.Derails a

namespace Manifest

variable {m : Manifest} {name : String} {names : List String}

theorem compileConfig_of_ofName? {c : Configuration} {a : Arrangement}
    (ha : Arrangement.ofName? c.type = some a) :
    compileConfig c = (Experiment.compile c).mapError .compile := by
  unfold compileConfig
  rw [ha]

end Manifest

namespace Registry

end Registry
end SplitTest
