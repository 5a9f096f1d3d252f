import SplitTest.Number.Decimal

/-! The text of floating-point numbers. -/
namespace SplitTest

structure FloatLayout where
  /-- Sizes from this power of ten on are written without an exponent part, -/
  positionalFrom : Int
  /-- and those from this one on with an exponent part again. -/
  scientificFrom : Int
  /-- Least number of digits of an exponent part. -/
  exponentWidth : Nat
  infinity : String
  nan : String

/-- Positional from `0.0001` up to sixteen digits, else with a signed exponent of two digits. -/
def FloatLayout.standard : FloatLayout := ⟨-4, 16, 2, "inf", "nan"⟩

/-- Single precision is worth no more than six digits in front of the point. -/
def FloatLayout.single : FloatLayout := ⟨-4, 6, 2, "inf", "nan"⟩

namespace FloatLayout

/-- Digits with the point after position `point`, zeros filled in on either side, and at least one
digit after the point. -/
def positional (digits : List Char) (point : Int) : List Char :=
  if point ≤ 0 then '0' :: '.' :: (List.replicate (-point).toNat '0' ++ digits)
  else
    let whole := digits.take point.toNat
    let fraction := digits.drop point.toNat
    whole ++ List.replicate (point.toNat - whole.length) '0' ++ '.' ::
      (if fraction.isEmpty then ['0'] else fraction)

/-- One digit, the others after a point, and the exponent with its sign. -/
def scientific (layout : FloatLayout) (digits : List Char) (exponent : Int) : List Char :=
  let fraction := match digits.drop 1 with
    | [] => []
    | rest => '.' :: rest
  digits.take 1 ++ fraction ++ 'e' :: (if exponent < 0 then '-' else '+') ::
    paddedNumeral layout.exponentWidth exponent.natAbs

/-- The text of a decimal that stands for a number of the given size, which is not zero. -/
def decimal (layout : FloatLayout) (size : Rat) (d : Decimal) : List Char :=
  let digits := numeral d.digits
  let leading := d.exponent + digits.length - 1
  if 10 ^ layout.positionalFrom ≤ size ∧ size < 10 ^ layout.scientificFrom then
    positional digits (leading + 1)
  else layout.scientific digits leading

/-- The text of a number: a sign, then its shortest decimal. -/
def text {F : Format} (layout : FloatLayout) : Floating F → String
  | .nan => layout.nan
  | .infinity s => if s then "-" ++ layout.infinity else layout.infinity
  | .finite x =>
    let body := if x.mantissa = 0 then ['0', '.', '0'] else layout.decimal x.magnitude x.shortest
    String.ofList (if x.negative then '-' :: body else body)

end FloatLayout

def Floating.text {F : Format} (x : Floating F) : String :=
  FloatLayout.standard.text x

end SplitTest
