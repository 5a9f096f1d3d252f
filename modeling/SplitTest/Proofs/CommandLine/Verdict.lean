import SplitTest.CommandLine.Report
import SplitTest.Proofs.Json.Ascii
import SplitTest.Proofs.Manifest.Names
import SplitTest.Proofs.Registry.Isolation

/-! The verdict on a manifest: what the exit code of the check of all experiments says of the
entries of the document. -/
namespace SplitTest

namespace Value

variable (v : Value)

/-- A value that is a configuration which does not compile. -/
def Fails : Prop :=
  ∃ c e, Configuration.ofDocument v = .ok c ∧ Manifest.compileConfig c = .error e

/-- A value that is a configuration whose compilation ends in an error of arithmetic. -/
def Derails : Prop :=
  ∃ c a, Configuration.ofDocument v = .ok c ∧ Arrangement.ofName? c.type = some a ∧ c.Derails a

variable {v}

theorem Derails.fails (h : v.Derails) : v.Fails := by
  obtain ⟨c, a, hc, ha, hd⟩ := h
  obtain ⟨e, he, -⟩ := (Experiment.compile_arithmetic_iff ha).mpr hd
  exact ⟨c, .compile e, hc, by rw [Manifest.compileConfig_of_ofName? ha, he]; rfl⟩

end Value

namespace Manifest

variable {m : Manifest} {name : String}

/-- The names that do not compile, each with its error. -/
def failures (m : Manifest) (names : List String) : List (String × RegistryError) :=
  names.filterMap fun name => failure? name (m.check name)

variable {entries : Entries}

end Manifest

namespace CommandLine.Report

variable {contents : Nat → Manifest} {s : Session} {names : List String}

section Verdict

variable {path : FilePath} {bytes : List UInt8} {entries : Entries}
  (h : (ManifestFormat.ofPath path).decode (.bytes bytes) = .ok (.object entries)) (now : Double)

include h

end Verdict

end CommandLine.Report
end SplitTest
