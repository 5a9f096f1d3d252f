/-! The default registry: one that is used where none is named, built when it is first asked for. -/
namespace SplitTest

structure DefaultRegistry (ρ : Type) where
  current : Option ρ

namespace DefaultRegistry

variable {ρ ε : Type}

/-- The default registry. One is built only if there is none, and kept if that succeeds. -/
def get (d : DefaultRegistry ρ) (build : Unit → Except ε ρ) : Except ε ρ × DefaultRegistry ρ :=
  match d.current with
  | some r => (.ok r, d)
  | none =>
    match build () with
    | .ok r => (.ok r, ⟨some r⟩)
    | .error e => (.error e, d)

/-- Another registry in its place, or none, so that the next one is built. -/
def install (_ : DefaultRegistry ρ) (r : Option ρ) : DefaultRegistry ρ := ⟨r⟩

end DefaultRegistry
end SplitTest
