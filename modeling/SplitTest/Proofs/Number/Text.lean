import SplitTest.Number.Layout
import SplitTest.Number.Reading
import SplitTest.Proofs.Number.Shortest

/-! The text of a double reads back, so that doubles with the same text are the same; and it is not
the text of an integer. -/
namespace SplitTest

section Characters

variable {c : Char}

theorem asciiLower_of_isDigit (h : isDigit c = true) : asciiLower c = c := by
  unfold asciiLower
  refine if_neg fun hletter => ?_
  have hbounds : '0' ≤ c ∧ c ≤ '9' := by simpa [isDigit] using h
  have hdigit : c.toNat ≤ '9'.toNat := hbounds.2
  have hupper : 'A'.toNat ≤ c.toNat := hletter.1
  have hapart : '9'.toNat < 'A'.toNat := by decide
  omega

theorem readSign_digit (h : isDigit c = true) (s : List Char) :
    readSign (c :: s) = (false, c :: s) := by
  unfold readSign
  split
  · next heq =>
    cases heq
    exact absurd h (by decide)
  · next heq =>
    cases heq
    exact absurd h (by decide)
  · rfl

theorem readSign_signed (h : isDigit c = true) (negative : Bool) (s : List Char) :
    readSign (if negative then '-' :: c :: s else c :: s) = (negative, c :: s) := by
  cases negative with
  | true => rfl
  | false => exact readSign_digit h s

end Characters

theorem span_digits {digits tail : List Char} (hdigits : ∀ c ∈ digits, isDigit c = true)
    (htail : ∀ c ∈ tail.head?, isDigit c = false) :
    (digits ++ tail).span isDigit = (digits, tail) := by
  obtain ⟨htake, hdrop⟩ := takeWhile_digits_append hdigits htail
  rw [List.span_eq_takeWhile_dropWhile, htake, hdrop]

/-- A text of digits, perhaps with a fraction and an exponent, and the decimal it writes down. -/
inductive DecimalText : List Char → Decimal → Prop
  | mk {whole tail fraction suffix : List Char} {power : ℤ} (hne : whole ≠ [])
      (hwhole : ∀ c ∈ whole, isDigit c = true) (htail : ∀ c ∈ tail.head?, isDigit c = false)
      (hfraction : readFraction tail = (fraction, suffix))
      (hpower : readExponent? suffix = some power) :
      DecimalText (whole ++ tail) ⟨ofDecimalDigits (whole ++ fraction), power - fraction.length⟩

theorem readPlainDouble?_of_decimalText {body : List Char} {d : Decimal} (h : DecimalText body d)
    (negative : Bool) : readPlainDouble? (if negative then '-' :: body else body) =
      some (.ofMagnitude negative d.toRat) := by
  cases h with
  | @mk whole tail fraction suffix power hne hwhole htail hfraction hpower =>
    obtain ⟨c, rest, rfl⟩ := List.exists_cons_of_ne_nil hne
    have hc := hwhole c (List.mem_cons_self ..)
    have hword : ∀ w : String, w.toList.head?.any isDigit = false →
        String.ofList (((c :: rest) ++ tail).map asciiLower) ≠ w := by
      rintro w hw rfl
      simp [asciiLower_of_isDigit hc, hc] at hw
    unfold readPlainDouble?
    rw [List.cons_append, readSign_signed hc]
    dsimp only
    rw [← List.cons_append, span_digits hwhole htail]
    split
    · exact absurd ‹_› (hword _ (by decide))
    · exact absurd ‹_› (hword _ (by decide))
    · exact absurd ‹_› (hword _ (by decide))
    · simp [hfraction, hpower, Decimal.toFloating_eq_ofMagnitude]

section Layouts

variable {digits : List Char}

theorem decimalText_point {whole fraction : List Char} (hne : whole ≠ [])
    (hwhole : ∀ c ∈ whole, isDigit c = true) (hfraction : ∀ c ∈ fraction, isDigit c = true) :
    DecimalText (whole ++ '.' :: fraction)
      ⟨ofDecimalDigits (whole ++ fraction), 0 - fraction.length⟩ := by
  have hspan : readFraction ('.' :: fraction) = (fraction, []) := by
    have h : (fraction ++ []).span isDigit = (fraction, []) := span_digits hfraction (by simp)
    rwa [List.append_nil] at h
  exact .mk hne hwhole (by simp [isDigit]) hspan rfl

theorem isDigit_zero : ∀ c ∈ ['0'], isDigit c = true :=
  List.forall_mem_singleton.mpr rfl

theorem isDigit_zeros {k : ℕ} : ∀ c ∈ List.replicate k '0', isDigit c = true := by
  intro c hc
  rw [List.eq_of_mem_replicate hc]
  decide

theorem ofDecimalDigits_zero_cons (cs : List Char) :
    ofDecimalDigits ('0' :: cs) = ofDecimalDigits cs := by
  have hzero : ofDecimalDigits ['0'] = 0 := rfl
  rw [← List.singleton_append, ofDecimalDigits_append, hzero, zero_mul, zero_add]

theorem ofDecimalDigits_append_zeros (k : ℕ) (cs : List Char) :
    ofDecimalDigits (cs ++ List.replicate k '0') = ofDecimalDigits cs * 10 ^ k := by
  rw [ofDecimalDigits_append, ofDecimalDigits_zeros, List.length_replicate, add_zero]

section Positional

variable {point : ℤ} {k : ℕ}

theorem positional_of_nonpos (h : point ≤ 0) : FloatLayout.positional digits point =
    ['0'] ++ '.' :: (List.replicate (-point).toNat '0' ++ digits) :=
  if_pos h

theorem positional_of_length_le (hk : 0 < k) (h : digits.length ≤ k) :
    FloatLayout.positional digits k =
      digits ++ List.replicate (k - digits.length) '0' ++ '.' :: ['0'] := by
  have hpoint : ¬ (k : ℤ) ≤ 0 := by omega
  unfold FloatLayout.positional
  rw [if_neg hpoint, Int.toNat_natCast, List.take_of_length_le h, List.drop_of_length_le h]
  rfl

theorem positional_of_lt_length (hk : 0 < k) (h : k < digits.length) :
    FloatLayout.positional digits k = digits.take k ++ '.' :: digits.drop k := by
  have hpoint : ¬ (k : ℤ) ≤ 0 := by omega
  have hdrop : ¬ (digits.drop k).isEmpty = true := by
    rw [List.isEmpty_iff, List.drop_eq_nil_iff]
    omega
  simp only [FloatLayout.positional, if_neg hpoint, Int.toNat_natCast, if_neg hdrop,
    List.length_take_of_le h.le, Nat.sub_self, List.replicate_zero, List.append_nil]

end Positional

/-- Zeros on either side of digits only move the point. -/
theorem positional_text (hne : digits ≠ []) (hdigits : ∀ c ∈ digits, isDigit c = true) (point : ℤ) :
    ∃ d, DecimalText (FloatLayout.positional digits point) d ∧
      d.toRat = ofDecimalDigits digits * 10 ^ (point - digits.length) := by
  rcases le_or_gt point 0 with hpoint | hpoint
  · rw [positional_of_nonpos hpoint]
    refine ⟨_, decimalText_point (List.cons_ne_nil '0' []) isDigit_zero
      (List.forall_mem_append.mpr ⟨isDigit_zeros, hdigits⟩), ?_⟩
    have hvalue : ofDecimalDigits (['0'] ++ (List.replicate (-point).toNat '0' ++ digits)) =
        ofDecimalDigits digits := by
      rw [List.singleton_append, ofDecimalDigits_zero_cons, ofDecimalDigits_append,
        ofDecimalDigits_zeros, zero_mul, zero_add]
    have hplaces : (0 : ℤ) - (List.replicate (-point).toNat '0' ++ digits).length =
        point - digits.length := by
      rw [List.length_append, List.length_replicate]
      omega
    rw [Decimal.toRat, hvalue, hplaces]
  obtain ⟨k, rfl⟩ := Int.eq_ofNat_of_zero_le hpoint.le
  have hk : 0 < k := by omega
  rcases le_or_gt digits.length k with hall | hpart
  · rw [positional_of_length_le hk hall]
    refine ⟨_, decimalText_point (by simp [hne])
      (List.forall_mem_append.mpr ⟨hdigits, isDigit_zeros⟩) isDigit_zero, ?_⟩
    have hvalue : ofDecimalDigits (digits ++ List.replicate (k - digits.length) '0' ++ ['0']) =
        ofDecimalDigits digits * 10 ^ (k - digits.length) * 10 := by
      rw [ofDecimalDigits_append _ ['0'], ofDecimalDigits_append_zeros]
      rfl
    have hplaces : (k : ℤ) - digits.length = (k - digits.length : ℕ) := by omega
    have hlast : (0 : ℤ) - ['0'].length = -1 := rfl
    rw [Decimal.toRat, hvalue, hplaces, hlast, zpow_natCast, zpow_neg_one]
    push_cast
    ring
  · rw [positional_of_lt_length hk hpart]
    have hwhole : digits.take k ≠ [] := by
      rw [ne_eq, List.take_eq_nil_iff]
      simp [hne, hk.ne']
    refine ⟨_, decimalText_point hwhole (fun c hc => hdigits c (List.mem_of_mem_take hc))
      (fun c hc => hdigits c (List.mem_of_mem_drop hc)), ?_⟩
    have hplaces : (0 : ℤ) - (digits.drop k).length = k - digits.length := by
      rw [List.length_drop]
      omega
    rw [Decimal.toRat, List.take_append_drop, hplaces]

theorem readExponent?_signed (width : ℕ) (exponent : ℤ) :
    readExponent? ('e' :: (if exponent < 0 then '-' else '+') ::
      paddedNumeral width exponent.natAbs) = some exponent := by
  have hsign : readSign ((if exponent < 0 then '-' else '+') ::
      paddedNumeral width exponent.natAbs) =
        (decide (exponent < 0), paddedNumeral width exponent.natAbs) := by
    split_ifs with h <;> simp [readSign, h]
  have hlower : asciiLower 'e' = 'e' := by decide
  have hnonempty : (paddedNumeral width exponent.natAbs).isEmpty = false := by
    simp [paddedNumeral, numeral_ne_nil]
  have hdigits : (paddedNumeral width exponent.natAbs).all isDigit = true :=
    List.all_eq_true.mpr (List.forall_mem_append.mpr ⟨isDigit_zeros, isDigit_of_mem_numeral⟩)
  simp only [readExponent?, hsign, hlower, hnonempty, hdigits, ofDecimalDigits_paddedNumeral,
    Bool.not_false, and_self, if_true, decide_eq_true_eq]
  split_ifs <;> congr 1 <;> omega

theorem scientific_text (layout : FloatLayout) (hne : digits ≠ [])
    (hdigits : ∀ c ∈ digits, isDigit c = true) (exponent : ℤ) :
    ∃ d, DecimalText (layout.scientific digits exponent) d ∧
      d.toRat = ofDecimalDigits digits * 10 ^ (exponent + 1 - digits.length) := by
  obtain ⟨first, rest, rfl⟩ := List.exists_cons_of_ne_nil hne
  obtain ⟨hfirst, hrest⟩ := List.forall_mem_cons.mp hdigits
  have hplaces : exponent - rest.length = exponent + 1 - (first :: rest).length := by
    rw [List.length_cons]
    omega
  have hpower := readExponent?_signed layout.exponentWidth exponent
  have hmark : ∀ c ∈ ('e' :: (if exponent < 0 then '-' else '+') ::
      paddedNumeral layout.exponentWidth exponent.natAbs).head?, isDigit c = false := by
    simp [isDigit]
  unfold FloatLayout.scientific
  rw [List.append_assoc]
  cases rest with
  | nil =>
    refine ⟨_, .mk (List.cons_ne_nil first []) hdigits hmark rfl hpower, ?_⟩
    rw [← hplaces]
    rfl
  | cons second rest =>
    refine ⟨_, .mk (List.cons_ne_nil first []) (List.forall_mem_singleton.mpr hfirst)
      (by simp [isDigit]) (span_digits hrest hmark) hpower, ?_⟩
    rw [← hplaces]
    rfl

theorem decimal_text (layout : FloatLayout) (size : ℚ) (d : Decimal) :
    ∃ d', DecimalText (layout.decimal size d) d' ∧ d'.toRat = d.toRat := by
  have hvalue : d.toRat = ofDecimalDigits (numeral d.digits) * 10 ^ d.exponent := by
    rw [ofDecimalDigits_numeral, Decimal.toRat]
  unfold FloatLayout.decimal
  dsimp only
  split_ifs
  · obtain ⟨d', htext, hd'⟩ := positional_text (numeral_ne_nil d.digits) isDigit_of_mem_numeral
      (d.exponent + (numeral d.digits).length - 1 + 1)
    refine ⟨d', htext, hd'.trans ?_⟩
    rw [hvalue]
    congr 2
    ring
  · obtain ⟨d', htext, hd'⟩ := scientific_text layout (numeral_ne_nil d.digits)
      isDigit_of_mem_numeral (d.exponent + (numeral d.digits).length - 1)
    refine ⟨d', htext, hd'.trans ?_⟩
    rw [hvalue]
    congr 2
    ring

theorem exists_mark (layout : FloatLayout) (size : ℚ) (d : Decimal) :
    ∃ c ∈ layout.decimal size d, isDigit c = false ∧ c ≠ '-' := by
  unfold FloatLayout.decimal
  dsimp only
  split_ifs
  · refine ⟨'.', ?_, by decide, by decide⟩
    unfold FloatLayout.positional
    split_ifs <;> simp
  · exact ⟨'e', by simp [FloatLayout.scientific], by decide, by decide⟩

end Layouts

namespace Double

variable {x y : Double}

/-- The digits of a finite double write down a decimal that is rounded to it, and have a mark among
them that no integer has. -/
theorem exists_decimalText (x : Finite binary64) : ∃ body d,
    (Floating.finite x).text = String.ofList (if x.negative then '-' :: body else body) ∧
      DecimalText body d ∧ (.ofMagnitude x.negative d.toRat : Double) = .finite x ∧
      ∃ c ∈ body, isDigit c = false ∧ c ≠ '-' := by
  by_cases h0 : x.mantissa = 0
  · have htext : (Floating.finite x).text =
        String.ofList (if x.negative then '-' :: ['0', '.', '0'] else ['0', '.', '0']) := by
      simp only [Floating.text, FloatLayout.text, if_pos h0]
    have hzero : x.magnitude = Decimal.toRat ⟨0, 0 - 1⟩ := by
      rw [Finite.mantissa_eq_zero_iff.mp h0, Decimal.toRat, Nat.cast_zero, zero_mul]
    refine ⟨_, _, htext, decimalText_point (List.cons_ne_nil '0' []) isDigit_zero isDigit_zero, ?_,
      '.', by simp, by decide, by decide⟩
    exact (congrArg _ hzero).symm.trans (Floating.ofMagnitude_magnitude x)
  · have htext : (Floating.finite x).text =
        String.ofList (if x.negative then '-' :: FloatLayout.standard.decimal x.magnitude x.shortest
          else FloatLayout.standard.decimal x.magnitude x.shortest) := by
      simp only [Floating.text, FloatLayout.text, if_neg h0]
    obtain ⟨d, hbody, hd⟩ := decimal_text .standard x.magnitude x.shortest
    exact ⟨_, d, htext, hbody, hd ▸ ofMagnitude_shortest h0, exists_mark _ _ _⟩

/-- The text of a double reads back. -/
theorem readPlainDouble?_text (x : Double) : readPlainDouble? x.text.toList = some x := by
  cases x with
  | nan => decide +kernel
  | infinity s => cases s <;> decide +kernel
  | finite x =>
    obtain ⟨body, d, htext, hbody, hx, -⟩ := exists_decimalText x
    rw [htext, String.toList_ofList, readPlainDouble?_of_decimalText hbody, hx]

theorem text_injective : Function.Injective (Floating.text : Double → String) := by
  intro x y h
  have hread := readPlainDouble?_text x
  rw [h, readPlainDouble?_text y] at hread
  exact (Option.some.inj hread).symm

theorem text_ne_intText (x : Double) (n : ℤ) : x.text ≠ intText n := by
  have hmark : ∃ c ∈ x.text.toList, isDigit c = false ∧ c ≠ '-' := by
    cases x with
    | nan => exact ⟨'n', by decide +kernel, by decide, by decide⟩
    | infinity s => exact ⟨'i', by cases s <;> decide +kernel, by decide, by decide⟩
    | finite x =>
      obtain ⟨body, d, htext, -, -, c, hc, hmark⟩ := exists_decimalText x
      refine ⟨c, ?_, hmark⟩
      rw [htext, String.toList_ofList]
      split_ifs
      · exact List.mem_cons_of_mem _ hc
      · exact hc
  obtain ⟨c, hc, hdigit, hminus⟩ := hmark
  intro h
  rw [h, intText, String.toList_ofList] at hc
  rcases mem_intNumeral hc with hc | hc
  · rw [hdigit] at hc
    cases hc
  · exact hminus hc

end Double
end SplitTest
