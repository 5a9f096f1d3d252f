import SplitTest.Proofs.Experiment.Compiled
import SplitTest.Proofs.Json.Scalars
import SplitTest.Proofs.Number.Numeral
import SplitTest.Proofs.Text.Joined

/-! Default seeds: id, name and version of the shuffle can be told from the bytes that are hashed,
since numerals hold no dots and so the first dot and the last one are those that join the parts. -/
namespace SplitTest

section Bytes

/-- The bytes from a place on are put behind those that were taken before. -/
theorem toList_loop (bytes : ByteArray) (i : ℕ) (taken : List UInt8) :
    ByteArray.toList.loop bytes i taken = taken.reverse ++ bytes.data.toList.drop i := by
  fun_induction ByteArray.toList.loop bytes i taken with
  | case1 i taken hi ih =>
    have hlength : i < bytes.data.toList.length := by simpa using hi
    have hbyte : bytes.data.toList[i] = bytes.get! i := by simp [ByteArray.get!, hi]
    rw [ih, List.drop_eq_getElem_cons hlength, hbyte, List.reverse_cons, List.append_assoc,
      List.singleton_append]
  | case2 i taken hi =>
    have hlength : bytes.data.toList.length ≤ i := by simpa using hi
    rw [List.drop_eq_nil_of_le hlength, List.append_nil]

/-- Texts are told apart by their bytes. -/
theorem utf8Bytes_injective : Function.Injective utf8Bytes := by
  intro s t h
  have hdata : s.toUTF8.data.toList = t.toUTF8.data.toList := by
    simpa [utf8Bytes, ByteArray.toList, toList_loop] using h
  exact String.toByteArray_inj.mp (ByteArray.ext (Array.toList_inj.mp hdata))

end Bytes

theorem dot_not_mem_intNumeral (n : ℤ) : '.' ∉ intNumeral n := by
  intro h
  rcases mem_intNumeral h with hdigit | hminus
  · exact absurd hdigit (by decide)
  · exact absurd hminus (by decide)

/-- A configuration that has no seed of its own, and numerals that can be written. -/
structure Configuration.DefaultSeeded (c : Configuration) : Prop where
  unseeded : c.definition.bucketSeed = ""
  id : (numeral c.id.natAbs).length ≤ numeralLimit
  shuffleVersion : (numeral c.definition.shuffleVersion.natAbs).length ≤ numeralLimit

namespace Experiment

variable {c c' : Configuration}

/-- Id, name and version of the shuffle, joined by dots. -/
def dottedParts (c : Configuration) : String :=
  intText c.id ++ "." ++ c.name ++ "." ++ intText c.definition.shuffleVersion

theorem toList_dottedParts (c : Configuration) :
    (dottedParts c).toList = intNumeral c.id ++ '.' ::
      (c.name.toList ++ '.' :: intNumeral c.definition.shuffleVersion) := by
  simp [dottedParts, intText]

/-- The name may hold dots and digits; the parts can be told all the same. -/
theorem dottedParts_eq_iff : dottedParts c = dottedParts c' ↔
    c.id = c'.id ∧ c.name = c'.name ∧
      c.definition.shuffleVersion = c'.definition.shuffleVersion := by
  rw [← String.toList_inj, toList_dottedParts, toList_dottedParts,
    append_mark_inj (dot_not_mem_intNumeral _) (dot_not_mem_intNumeral _),
    append_lastMark_inj (dot_not_mem_intNumeral _) (dot_not_mem_intNumeral _),
    intNumeral_injective.eq_iff, String.toList_inj, intNumeral_injective.eq_iff]

theorem seedOf_of_defaultSeeded (h : c.DefaultSeeded) : seedOf c = .ok (dottedParts c) := by
  have hid : hasLongNumeral c.id = false :=
    Json.hasLongNumeral_of_digits (ofDecimalDigits_numeral _).symm h.id
  have hversion : hasLongNumeral c.definition.shuffleVersion = false :=
    Json.hasLongNumeral_of_digits (ofDecimalDigits_numeral _).symm h.shuffleVersion
  rw [seedOf, if_pos h.unseeded, defaultSeed, hid, hversion]
  rfl

theorem bucketBytes_eq_iff {seed seed' key : String} :
    bucketBytes seed key = bucketBytes seed' key ↔ seed = seed' := by
  unfold bucketBytes
  rw [utf8Bytes_injective.eq_iff, String.append_left_inj]

/-- Configurations without seeds of their own hash the same bytes for a key if and only if id, name
and version of the shuffle are the same. -/
theorem defaultSeeds_bytes_eq_iff (h : c.DefaultSeeded) (h' : c'.DefaultSeeded) :
    ∃ seed seed', seedOf c = .ok seed ∧ seedOf c' = .ok seed' ∧
      (∀ x, compile c = .ok x → x.bucketSeed = seed) ∧
      (∀ x', compile c' = .ok x' → x'.bucketSeed = seed') ∧
      ∀ key, bucketBytes seed key = bucketBytes seed' key ↔
        c.id = c'.id ∧ c.name = c'.name ∧
          c.definition.shuffleVersion = c'.definition.shuffleVersion := by
  have hseed := seedOf_of_defaultSeeded h
  have hseed' := seedOf_of_defaultSeeded h'
  refine ⟨_, _, hseed, hseed', fun x hx => ?_, fun x' hx' => ?_, fun key => ?_⟩
  · exact Except.ok.inj ((compile_eq_ok_iff.mp hx).seed.symm.trans hseed)
  · exact Except.ok.inj ((compile_eq_ok_iff.mp hx').seed.symm.trans hseed')
  · rw [bucketBytes_eq_iff, dottedParts_eq_iff]

/-- A configuration of which only id, name and version of the shuffle matter. -/
def shuffled (id : ℤ) (name : String) (version : ℤ) : Configuration :=
  ⟨id, name, "", none, "", "feature_rollout", .zero, .zero,
    { Definition.empty with shuffleVersion := version }⟩

theorem defaultSeeds_bytes_eq_iff_dottedNames :
    (shuffled 1 "2.3" (-4)).DefaultSeeded ∧ (shuffled 1 "2" 3).DefaultSeeded ∧
    ∃ seed seed', seedOf (shuffled 1 "2.3" (-4)) = .ok seed ∧
      seedOf (shuffled 1 "2" 3) = .ok seed' ∧
      bucketBytes seed ".-4" ≠ bucketBytes seed' ".-4" := by
  have hshort : ∀ n < 10, (numeral n).length ≤ numeralLimit := fun n hn => by
    rw [numeral_of_lt hn, List.length_singleton]
    decide
  have hseeded : (shuffled 1 "2.3" (-4)).DefaultSeeded :=
    ⟨rfl, hshort 1 (by decide), hshort 4 (by decide)⟩
  have hseeded' : (shuffled 1 "2" 3).DefaultSeeded :=
    ⟨rfl, hshort 1 (by decide), hshort 3 (by decide)⟩
  obtain ⟨seed, seed', hseed, hseed', -, -, hbytes⟩ := defaultSeeds_bytes_eq_iff hseeded hseeded'
  have hnames : (shuffled 1 "2.3" (-4)).name ≠ (shuffled 1 "2" 3).name := by decide
  exact ⟨hseeded, hseeded', seed, seed', hseed, hseed', fun heq => hnames ((hbytes _).mp heq).2.1⟩

end Experiment
end SplitTest
