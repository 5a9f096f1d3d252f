import SplitTest.Number.Floating
import SplitTest.Number.Numeral

/-! Decimal notation of floating-point numbers: the nearest number to a decimal, and the shortest
decimal that reads back. -/
namespace SplitTest

/-- The decimal `digits · 10 ^ exponent`. -/
structure Decimal where
  digits : Nat
  exponent : Int
deriving DecidableEq, Repr

namespace Decimal

def toRat (d : Decimal) : Rat :=
  d.digits * 10 ^ d.exponent

def count (d : Decimal) : Nat :=
  (numeral d.digits).length

/-- Decimals from `10 ^ 400` on are past every format, those below `10 ^ (-400)` zero in it. -/
def reach : Int := 400

def toFloating {F : Format} (negative : Bool) (d : Decimal) : Floating F :=
  if d.digits = 0 then .zero negative
  else if reach < d.count + d.exponent then .infinity negative
  else if d.count + d.exponent < -reach then .zero negative
  else .ofMagnitude negative d.toRat

/-- The same value with the zeros at the end of its digits moved into the exponent. -/
def normalize (d : Decimal) : Decimal :=
  if h : 0 < d.digits ∧ d.digits % 10 = 0 then
    normalize ⟨d.digits / 10, d.exponent + 1⟩
  else d
termination_by d.digits
decreasing_by omega

/-- The exponent of the largest power of ten that is at most `x`, for positive `x`. -/
def leadingExponent (x : Rat) : Int :=
  let k := (binaryExponent x * 30103) / 100000
  if 10 ^ (k + 1) ≤ x then k + 1
  else if 10 ^ k ≤ x then k
  else k - 1

end Decimal

/-- The sizes that round to one finite number: the two ends, and whether they belong to it. -/
structure RoundingInterval where
  lower : Rat
  upper : Rat
  closed : Bool

namespace RoundingInterval

def contains (i : RoundingInterval) (x : Rat) : Bool :=
  if i.closed then i.lower ≤ x && x ≤ i.upper else i.lower < x && x < i.upper

/-- The interval of a finite number: half a unit to each side, a quarter below a power of two. -/
def ofFinite {F : Format} (x : Finite F) : RoundingInterval :=
  let unit : Rat := 2 ^ x.exponent
  let below : Rat :=
    if x.mantissa = Nat.pow 2 (F.precision - 1) ∧ F.minExponent < x.exponent then 1 / 4 else 1 / 2
  ⟨x.magnitude - below * unit, x.magnitude + unit / 2, x.mantissa % 2 = 0⟩

end RoundingInterval

/-- Of the two multiples of `10 ^ exponent` next to `x`, the one in the interval that is nearer,
an even one in a tie. -/
def nearestOnGrid (i : RoundingInterval) (x : Rat) (exponent : Int) : Option Decimal :=
  let unit : Rat := 10 ^ exponent
  let below := (x / unit).floor.toNat
  let low : Decimal := ⟨below, exponent⟩
  let high : Decimal := ⟨below + 1, exponent⟩
  match i.contains low.toRat, i.contains high.toRat with
  | true, true =>
    let toLow := x - low.toRat
    let toHigh := high.toRat - x
    if toLow < toHigh then some low
    else if toHigh < toLow then some high
    else if below % 2 = 0 then some low else some high
  | true, false => some low
  | false, true => some high
  | false, false => none

/-- The first grid, from one digit up to `fuel` more, that has a decimal in the interval. -/
def shortestFrom (i : RoundingInterval) (x : Rat) (leading : Int) : Nat → Nat → Decimal
  | 0, n => ⟨(x / 10 ^ (leading - n)).floor.toNat, leading - n⟩
  | fuel + 1, n =>
    match nearestOnGrid i x (leading - n) with
    | some d => d
    | none => shortestFrom i x leading fuel (n + 1)

/-- The decimal with the fewest digits that rounds to a finite number other than zero, and the
nearest of those. -/
def Finite.shortest {F : Format} (x : Finite F) : Decimal :=
  (shortestFrom (.ofFinite x) x.magnitude (Decimal.leadingExponent x.magnitude) 17 0).normalize

end SplitTest
