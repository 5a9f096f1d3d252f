import SplitTest.Predicate.Basic
import SplitTest.Proofs.Assoc
import SplitTest.Proofs.Text.Lowercase

/-! Arguments with their names in lower case. They are stable: names that are in lower case and
different are left as they are, and so predicates may be evaluated on them at once. -/
namespace SplitTest.Arguments

variable {args : Arguments}

/-- Every name is its own lower-case form, and no two are the same. -/
structure InLowerCase (args : Arguments) : Prop where
  lowercase_eq : ∀ arg ∈ args, lowercase arg.1 = arg.1
  nodup : (args.map (·.1)).Nodup

/-- The value of the last argument whose name has a lower-case form. -/
def lastValue? (args : Arguments) (key : String) : Option Value :=
  (args.filter fun arg => lowercase arg.1 == key).getLast?.map (·.2)

theorem keys_lowered (args : Arguments) :
    args.lowered.map (·.1) = (args.map fun arg => lowercase arg.1).eraseDups := by
  rw [lowered, Assoc.keys_ofList, List.map_map]
  rfl

theorem find?_lowered (args : Arguments) (key : String) :
    Assoc.find? key args.lowered = args.lastValue? key := by
  rw [lowered, Assoc.find?_ofList, Assoc.find?_eq_map_find?, ← List.map_reverse, List.find?_map,
    lastValue?, List.getLast?_filter, Option.map_map]
  rfl

theorem inLowerCase_lowered (args : Arguments) : args.lowered.InLowerCase := by
  refine ⟨fun arg harg => ?_, Assoc.nodup_keys_ofList _⟩
  have hkey : arg.1 ∈ args.lowered.map (·.1) := List.mem_map_of_mem harg
  rw [keys_lowered, List.mem_eraseDups] at hkey
  obtain ⟨given, -, hname⟩ := List.mem_map.mp hkey
  rw [← hname, lowercase_lowercase]

theorem InLowerCase.lowered_eq (h : args.InLowerCase) : args.lowered = args := by
  have hsame : args.map (fun arg => (lowercase arg.1, arg.2)) = args.map id :=
    List.map_congr_left fun arg harg => Prod.ext (h.lowercase_eq arg harg) rfl
  change Assoc.ofList (args.map fun arg => (lowercase arg.1, arg.2)) = args
  rw [hsame, List.map_id, Assoc.ofList_of_nodup h.nodup]

/-- What lower case leaves as it is, is what is in lower case. -/
theorem lowered_eq_self_iff : args.lowered = args ↔ args.InLowerCase :=
  ⟨fun h => h ▸ inLowerCase_lowered args, InLowerCase.lowered_eq⟩

/-- Lower case is stable, also in the order of the arguments. Each lower-case form of a name stands
once, in the order of the first names that have it, with the value of the last one. Predicates
answer requests in lower case as they are evaluated on them. -/
theorem lowered_stable (args : Arguments) :
    args.lowered.lowered = args.lowered ∧
      (args.lowered = args ↔ args.InLowerCase) ∧
      args.lowered.map (·.1) = (args.map fun arg => lowercase arg.1).eraseDups ∧
      (args.lowered.map (·.1)).Nodup ∧
      (∀ key, Assoc.find? key args.lowered = args.lastValue? key) ∧
      ∀ p : Predicate, p.matchesRequest args.lowered = p.evaluate args.lowered := by
  have hlower := inLowerCase_lowered args
  refine ⟨hlower.lowered_eq, lowered_eq_self_iff, keys_lowered args, hlower.nodup,
    find?_lowered args, fun p => ?_⟩
  rw [Predicate.matchesRequest, hlower.lowered_eq]

/-- Names of three forms; a sigma at the end of a word is a final one. -/
example : (Arguments.lowered [("ΟΔΟΣ", .null), ("Age", .null), ("οδος", .null),
    ("İ", .null)]).map (·.1) = ["οδος", "age", "i\u0307"] := by
  decide +kernel

end SplitTest.Arguments
