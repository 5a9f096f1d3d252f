import Mathlib.Data.List.Induction
import Mathlib.Tactic.Ring
import SplitTest.Number.Numeral

/-! Numerals and their values: a numeral reads back, and numbers with the same numeral are equal. -/
namespace SplitTest

section Digits

variable {d : ℕ} (h : d < 10)
include h

theorem isDigit_digitChar : isDigit (digitChar d) = true := by
  have hall : ∀ d < 10, isDigit (digitChar d) = true := by decide
  exact hall d h

theorem digitValue?_digitChar : digitValue? (digitChar d) = some d := by
  have hall : ∀ d < 10, digitValue? (digitChar d) = some d := by decide
  exact hall d h

end Digits

theorem numeralOnto_eq_append (n : ℕ) (tail : List Char) :
    numeralOnto n tail = numeral n ++ tail := by
  induction n using Nat.strong_induction_on generalizing tail with
  | _ n ih =>
    unfold numeral
    rw [numeralOnto, numeralOnto.eq_def n []]
    split_ifs with hn
    · rfl
    · have hless : n / 10 < n := by omega
      rw [ih _ hless, ih _ hless, List.append_assoc]
      rfl

theorem numeral_of_lt {n : ℕ} (h : n < 10) : numeral n = [digitChar n] := by
  rw [numeral, numeralOnto, if_pos h]

theorem numeral_of_ge {n : ℕ} (h : 10 ≤ n) :
    numeral n = numeral (n / 10) ++ [digitChar (n % 10)] := by
  rw [numeral, numeralOnto, if_neg (by omega), numeralOnto_eq_append]

theorem numeral_ne_nil (n : ℕ) : numeral n ≠ [] := by
  rcases lt_or_ge n 10 with h | h
  · simp [numeral_of_lt h]
  · simp [numeral_of_ge h]

theorem isDigit_of_mem_numeral {n : ℕ} : ∀ c ∈ numeral n, isDigit c = true := by
  induction n using Nat.strong_induction_on with
  | _ n ih =>
    rcases lt_or_ge n 10 with h | h
    · rw [numeral_of_lt h]
      exact List.forall_mem_singleton.mpr (isDigit_digitChar h)
    · rw [numeral_of_ge h, List.forall_mem_append]
      have hless : n / 10 < n := by omega
      exact ⟨ih _ hless, List.forall_mem_singleton.mpr (isDigit_digitChar (by omega))⟩

theorem pow_length_numeral_le {n : ℕ} (h : 0 < n) : 10 ^ ((numeral n).length - 1) ≤ n := by
  induction n using Nat.strong_induction_on with
  | _ n ih =>
    rcases lt_or_ge n 10 with hn | hn
    · rw [numeral_of_lt hn]
      exact h
    · have hlength := List.length_pos_iff.mpr (numeral_ne_nil (n / 10))
      have hpow := ih (n / 10) (by omega) (by omega)
      rw [numeral_of_ge hn, List.length_append, List.length_singleton, Nat.add_sub_cancel]
      calc 10 ^ (numeral (n / 10)).length
          = 10 ^ ((numeral (n / 10)).length - 1) * 10 := by
            rw [← pow_succ, Nat.sub_add_cancel hlength]
        _ ≤ n / 10 * 10 := Nat.mul_le_mul_right _ hpow
        _ ≤ n := Nat.div_mul_le_self n 10

/-- Digits end where another character stands. -/
theorem takeWhile_digits_append {digits tail : List Char} (hdigits : ∀ c ∈ digits, isDigit c = true)
    (htail : ∀ c ∈ tail.head?, isDigit c = false) :
    (digits ++ tail).takeWhile isDigit = digits ∧ (digits ++ tail).dropWhile isDigit = tail := by
  have hstop : tail.takeWhile isDigit = [] ∧ tail.dropWhile isDigit = tail := by
    cases tail with
    | nil => exact ⟨rfl, rfl⟩
    | cons c s => simp [htail c rfl]
  rw [List.takeWhile_append_of_pos hdigits, List.dropWhile_append_of_pos hdigits, hstop.1, hstop.2,
    List.append_nil]
  exact ⟨rfl, rfl⟩

section Values

theorem ofDigits_lt {value : Char → ℕ} (hv : ∀ c, value c < 10) (cs : List Char) :
    ofDigits 10 value cs < 10 ^ cs.length := by
  have hfold : ∀ n, cs.foldl (fun n c => 10 * n + value c) n < (n + 1) * 10 ^ cs.length := by
    induction cs with
    | nil => simp
    | cons c rest ih =>
      intro n
      have hc := hv c
      calc rest.foldl (fun n c => 10 * n + value c) (10 * n + value c)
          < (10 * n + value c + 1) * 10 ^ rest.length := ih _
        _ ≤ (10 * (n + 1)) * 10 ^ rest.length := Nat.mul_le_mul_right _ (by omega)
        _ = (n + 1) * 10 ^ (rest.length + 1) := by ring
  simpa [ofDigits] using hfold 0

theorem ofDecimalDigits_lt (cs : List Char) : ofDecimalDigits cs < 10 ^ cs.length := by
  refine ofDigits_lt (fun c => ?_) cs
  unfold digitValue?
  split_ifs with h
  · have hle : c.toNat ≤ '9'.toNat := h.2
    have hnine : '9'.toNat = 57 := rfl
    have hzero : '0'.toNat = 48 := rfl
    simp only [Option.getD_some]
    omega
  · simp

theorem ofDigits_append (base : ℕ) (value : Char → ℕ) (as bs : List Char) :
    ofDigits base value (as ++ bs) =
      ofDigits base value as * base ^ bs.length + ofDigits base value bs := by
  induction bs using List.reverseRecOn with
  | nil => simp [ofDigits]
  | append_singleton bs b ih =>
    have hstep : ∀ cs, ofDigits base value (cs ++ [b]) =
        base * ofDigits base value cs + value b := by
      simp [ofDigits]
    rw [← List.append_assoc, hstep, hstep, ih, List.length_append, List.length_singleton]
    ring

theorem ofDecimalDigits_append (as bs : List Char) :
    ofDecimalDigits (as ++ bs) = ofDecimalDigits as * 10 ^ bs.length + ofDecimalDigits bs :=
  ofDigits_append 10 _ as bs

theorem ofDecimalDigits_digitChar {d : ℕ} (h : d < 10) : ofDecimalDigits [digitChar d] = d := by
  simp [ofDecimalDigits, ofDigits, digitValue?_digitChar h]

theorem ofDecimalDigits_zeros (k : ℕ) : ofDecimalDigits (List.replicate k '0') = 0 := by
  induction k with
  | zero => rfl
  | succ k ih =>
    rw [List.replicate_succ', ofDecimalDigits_append, ih]
    rfl

/-- A numeral reads back. -/
theorem ofDecimalDigits_numeral (n : ℕ) : ofDecimalDigits (numeral n) = n := by
  induction n using Nat.strong_induction_on with
  | _ n ih =>
    rcases lt_or_ge n 10 with h | h
    · rw [numeral_of_lt h, ofDecimalDigits_digitChar h]
    · rw [numeral_of_ge h, ofDecimalDigits_append, ih _ (by omega),
        ofDecimalDigits_digitChar (by omega), List.length_singleton]
      omega

theorem ofDecimalDigits_paddedNumeral (width n : ℕ) :
    ofDecimalDigits (paddedNumeral width n) = n := by
  unfold paddedNumeral
  rw [ofDecimalDigits_append, ofDecimalDigits_zeros, ofDecimalDigits_numeral, Nat.zero_mul,
    Nat.zero_add]

end Values

theorem numeral_injective : Function.Injective numeral :=
  Function.LeftInverse.injective ofDecimalDigits_numeral

theorem mem_intNumeral {n : ℤ} {c : Char} (h : c ∈ intNumeral n) : isDigit c = true ∨ c = '-' := by
  unfold intNumeral at h
  split_ifs at h
  · rcases List.mem_cons.mp h with h | h
    · exact Or.inr h
    · exact Or.inl (isDigit_of_mem_numeral c h)
  · exact Or.inl (isDigit_of_mem_numeral c h)

theorem isDigit_minus : isDigit '-' = false := by decide

theorem intNumeral_injective : Function.Injective intNumeral := by
  have hminus : ∀ (k : ℕ) (s : List Char), numeral k ≠ '-' :: s := by
    intro k s h
    have hdigit := isDigit_of_mem_numeral '-' (h ▸ List.mem_cons_self ..)
    rw [isDigit_minus] at hdigit
    cases hdigit
  intro n k h
  unfold intNumeral at h
  split_ifs at h with hn hk hk
  · have := numeral_injective (List.cons.inj h).2
    omega
  · exact absurd h.symm (hminus _ _)
  · exact absurd h (hminus _ _)
  · have := numeral_injective h
    omega

theorem intText_injective : Function.Injective intText := by
  intro n k h
  exact intNumeral_injective (String.ofList_injective h)

end SplitTest
