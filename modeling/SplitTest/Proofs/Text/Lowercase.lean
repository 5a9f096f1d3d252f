import Mathlib.Data.List.Basic
import Mathlib.Data.Int.Notation
import SplitTest.Text.Lowercase

/-! Lower case is final: a text in lower case is its own lower-case form. The rows of the table
bring no code point to one that another row brings further. -/
namespace SplitTest.Lowercase

/-- Where a row brings a code point. -/
def Shift.image (s : Shift) (n : ℕ) : ℕ :=
  (n + s.shift).toNat

/-- Code points of one row are not brought to those of another: they end before these or start after
them, or they are in steps between them. -/
def Shift.misses (s t : Shift) : Bool :=
  (s.image s.last).blt t.first || t.last.blt (s.image s.first) ||
    ((s.first == s.last || s.step % t.step == 0) && t.first.ble (s.image s.first) &&
      (s.image s.first - t.first) % t.step != 0)

theorem Shift.applies_iff {s : Shift} {n : ℕ} : s.applies n = true ↔
    s.first ≤ n ∧ n ≤ s.last ∧ (n - s.first) % s.step = 0 := by
  simp [applies, and_assoc]

theorem Shift.misses_iff {s t : Shift} : s.misses t = true ↔
    s.image s.last < t.first ∨ t.last < s.image s.first ∨
      ((s.first = s.last ∨ s.step % t.step = 0) ∧ t.first ≤ s.image s.first ∧
        (s.image s.first - t.first) % t.step ≠ 0) := by
  simp [misses, or_assoc, and_assoc, Nat.blt_eq, Nat.ble_eq]

theorem Shift.image_mono (s : Shift) {n m : ℕ} (h : n ≤ m) : s.image n ≤ s.image m := by
  unfold image
  omega

theorem Shift.not_applies_of_misses {s t : Shift} (h : s.misses t = true) {n : ℕ}
    (hn : s.applies n = true) : t.applies (s.image n) = false := by
  rw [applies_iff] at hn
  obtain ⟨hfirst, hlast, hstep⟩ := hn
  have hlow := s.image_mono hfirst
  have hhigh := s.image_mono hlast
  rw [← Bool.not_eq_true, applies_iff]
  rintro ⟨hfrom, hto, hon⟩
  rcases misses_iff.mp h with hbefore | hafter | ⟨hsteps, hinside, hoff⟩
  · omega
  · omega
  · -- The first code point is not on a step of the other row, and the others are whole steps
    -- after it.
    have hshift : s.image n = s.image s.first + (n - s.first) := by
      have hpos : s.image s.first ≠ 0 := by
        intro hzero
        rw [hzero, Nat.zero_sub] at hoff
        exact hoff (Nat.zero_mod _)
      unfold image at hpos ⊢
      omega
    have hsteps : t.step ∣ n - s.first := by
      rcases hsteps with hone | hmultiple
      · rw [Nat.sub_eq_zero_of_le (hone ▸ hlast)]
        exact Nat.dvd_zero _
      · exact Nat.dvd_trans (Nat.dvd_of_mod_eq_zero hmultiple) (Nat.dvd_of_mod_eq_zero hstep)
    have htotal : s.image n - t.first = s.image s.first - t.first + (n - s.first) := by omega
    rw [htotal, ← Nat.dvd_iff_mod_eq_zero, Nat.dvd_add_left hsteps] at hon
    exact hoff (Nat.mod_eq_zero_of_dvd hon)

/-- A dotted capital I, whose form has two characters, as a row of its own. -/
def dottedRow : Shift := ⟨0x130, 0x130, 1, 0⟩

theorem misses_shifts : (shifts.all fun s => (dottedRow :: shifts).all s.misses) = true := by
  decide +kernel

theorem not_applies_image {s t : Shift} (hs : s ∈ shifts) (ht : t ∈ dottedRow :: shifts) {n : ℕ}
    (hn : s.applies n = true) : t.applies (s.image n) = false := by
  have hrow := List.all_eq_true.mp misses_shifts s hs
  exact Shift.not_applies_of_misses (List.all_eq_true.mp hrow t ht) hn

/-- The row of the letters from A to Z. -/
def asciiRow : Shift := ⟨0x41, 0x5a, 1, 32⟩

theorem asciiRow_mem : asciiRow ∈ shifts :=
  List.mem_cons_self

theorem applies_asciiRow_iff {c : Char} :
    asciiRow.applies c.toNat = true ↔ 'A' ≤ c ∧ c ≤ 'Z' := by
  simp only [Shift.applies_iff, asciiRow, Nat.mod_one, and_true, Char.le_def,
    UInt32.le_iff_toNat_le]
  rfl

/-- A character that is its own lower-case form wherever it stands. -/
structure Settled (c : Char) : Prop where
  ne_sigma : c ≠ 'Σ'
  ofChar_eq : ofChar c = [c]

theorem settled_of_unshifted {c : Char} (hc : c ≠ 'İ')
    (h : ∀ s ∈ shifts, s.applies c.toNat = false) : Settled c := by
  have hnone : shifts.find? (·.applies c.toNat) = none := by simpa using h
  constructor
  · rintro rfl
    revert hnone
    decide +kernel
  · unfold ofChar
    have hupper := h asciiRow asciiRow_mem
    rw [← Bool.not_eq_true, applies_asciiRow_iff] at hupper
    rw [if_neg hupper, if_neg hc, hnone, ite_self]

theorem settled_image {s : Shift} (hs : s ∈ shifts) {n : ℕ} (hn : s.applies n = true) :
    Settled (Char.ofNat (s.image n)) := by
  have hmiss : ∀ t ∈ dottedRow :: shifts, t.applies (s.image n) = false :=
    fun t ht => not_applies_image hs ht hn
  by_cases hvalid : (s.image n).isValidChar
  · have hcode : (Char.ofNat (s.image n)).toNat = s.image n := by
      rw [Char.ofNat, dif_pos hvalid]
      rfl
    refine settled_of_unshifted ?_ fun t ht => ?_
    · intro hdotted
      have hrow := hmiss dottedRow List.mem_cons_self
      rw [← hcode, hdotted] at hrow
      cases hrow
    · rw [hcode]
      exact hmiss t (List.mem_cons_of_mem _ ht)
  · have hzero : Char.ofNat (s.image n) = '\x00' := dif_neg hvalid
    rw [hzero]
    exact ⟨by decide, by decide⟩

theorem settled_of_mem_ofChar {c d : Char} (h : d ∈ ofChar c) : Settled d := by
  unfold ofChar at h
  split_ifs at h with hascii hupper hdotted
  · rw [List.mem_singleton] at h
    exact h ▸ settled_image asciiRow_mem (applies_asciiRow_iff.mpr hupper)
  · obtain rfl := List.mem_singleton.mp h
    refine ⟨?_, by rw [ofChar, if_pos hascii, if_neg hupper]⟩
    rintro rfl
    revert hascii
    decide
  · rcases List.mem_pair.mp h with rfl | rfl
    · exact ⟨by decide, by decide +kernel⟩
    · exact ⟨by decide, by decide +kernel⟩
  · split at h
    · next s hs =>
      have happlies : s.applies c.toNat = true := by simpa using List.find?_some hs
      rw [List.mem_singleton] at h
      exact h ▸ settled_image (List.mem_of_find?_eq_some hs) happlies
    · next hnone =>
      obtain rfl := List.mem_singleton.mp h
      exact settled_of_unshifted hdotted (by simpa using hnone)

theorem settled_of_mem_ofChars {afterCased : Bool} {cs : List Char} {d : Char}
    (h : d ∈ ofChars afterCased cs) : Settled d := by
  induction cs generalizing afterCased with
  | nil => cases h
  | cons c rest ih =>
    rw [ofChars, List.mem_append] at h
    rcases h with h | h
    · split_ifs at h
      · exact List.mem_singleton.mp h ▸ ⟨by decide, by decide +kernel⟩
      · exact List.mem_singleton.mp h ▸ ⟨by decide, by decide +kernel⟩
      · exact settled_of_mem_ofChar h
    · exact ih h

theorem ofChars_of_settled {afterCased : Bool} {cs : List Char} (h : ∀ c ∈ cs, Settled c) :
    ofChars afterCased cs = cs := by
  induction cs generalizing afterCased with
  | nil => rfl
  | cons c rest ih =>
    rw [List.forall_mem_cons] at h
    rw [ofChars, if_neg h.1.ne_sigma, h.1.ofChar_eq, ih h.2, List.singleton_append]

end SplitTest.Lowercase

namespace SplitTest

/-- Lower case does not change what is in lower case. -/
theorem lowercase_lowercase (s : String) : lowercase (lowercase s) = lowercase s := by
  unfold lowercase
  rw [String.toList_ofList, Lowercase.ofChars_of_settled fun _ => Lowercase.settled_of_mem_ofChars]

end SplitTest
