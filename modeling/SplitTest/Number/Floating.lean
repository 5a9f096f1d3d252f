import SplitTest.Number.Rounding

/-! Binary floating-point numbers: exact rationals, rounded to nearest even after each operation. -/
namespace SplitTest

/-- A binary format: how many bits a mantissa has, and the range of its exponents. -/
structure Format where
  precision : Nat
  minExponent : Int
  maxExponent : Int
deriving DecidableEq, Repr

/-- Eight bytes: 53 bits of mantissa. -/
def binary64 : Format := ⟨53, -1074, 971⟩

/-- Four bytes: 24 bits of mantissa. -/
def binary32 : Format := ⟨24, -149, 104⟩

namespace Format

/-- The one way to write a value as mantissa and exponent: full mantissa, or least exponent. -/
def Canonical (F : Format) (mantissa : Nat) (exponent : Int) : Prop :=
  mantissa < Nat.pow 2 F.precision ∧ F.minExponent ≤ exponent ∧ exponent ≤ F.maxExponent ∧
    (Nat.pow 2 (F.precision - 1) ≤ mantissa ∨ exponent = F.minExponent)

instance (F : Format) (m : Nat) (e : Int) : Decidable (F.Canonical m e) :=
  inferInstanceAs (Decidable (_ ∧ _))

end Format

/-- A finite number of a format: sign, mantissa and exponent in canonical form. -/
structure Finite (F : Format) where
  negative : Bool
  mantissa : Nat
  exponent : Int
  canonical : F.Canonical mantissa exponent
deriving DecidableEq, Repr

/-- The size of a finite number, its sign left aside. -/
def Finite.magnitude {F : Format} (x : Finite F) : Rat :=
  x.mantissa * 2 ^ x.exponent

/-- The rational a finite number stands for; both zeros stand for `0`. -/
def Finite.toRat {F : Format} (x : Finite F) : Rat :=
  if x.negative then -x.magnitude else x.magnitude

/-- A number of a format: not a number, an infinity, or finite. -/
inductive Floating (F : Format) where
  | nan
  | infinity (negative : Bool)
  | finite (x : Finite F)
deriving DecidableEq, Repr

abbrev Double := Floating binary64
abbrev Single := Floating binary32

/-- The exponent of the largest power of two that is at most `x`, for positive `x`. -/
def binaryExponent (x : Rat) : Int :=
  let e : Int := (x.num.toNat.log2 : Int) - x.den.log2
  if 2 ^ e ≤ x then e else e - 1

namespace Format

/-- The exponent of the last place of a value of size `x`. -/
def unitExponent (F : Format) (x : Rat) : Int :=
  max F.minExponent (binaryExponent x - (F.precision - 1 : Nat))

/-- Mantissa and exponent of the value nearest to `x`, a midpoint going to the even mantissa. -/
def nearestParts (F : Format) (x : Rat) : Nat × Int :=
  let e := F.unitExponent x
  let m := (roundEven (x * 2 ^ (-e))).toNat
  if m = Nat.pow 2 F.precision then (m / 2, e + 1) else (m, e)

end Format

namespace Floating

variable {F : Format}

/-- A number from its parts; parts past the largest exponent are infinite. -/
def ofParts (negative : Bool) (mantissa : Nat) (exponent : Int) : Floating F :=
  if h : F.Canonical mantissa exponent then .finite ⟨negative, mantissa, exponent, h⟩
  else .infinity negative

def zero (negative : Bool) : Floating F :=
  ofParts negative 0 F.minExponent

/-- The number of the given sign nearest to the size `x`. -/
def ofMagnitude (negative : Bool) (x : Rat) : Floating F :=
  if x = 0 then zero negative
  else ofParts negative (F.nearestParts x).1 (F.nearestParts x).2

/-- The number nearest to `x`; `zeroSign` is the sign of the answer where `x` is zero. -/
def ofRat (zeroSign : Bool) (x : Rat) : Floating F :=
  if x = 0 then zero zeroSign
  else if x < 0 then ofMagnitude true (-x)
  else ofMagnitude false x

def ofInt (n : Int) : Floating F :=
  ofRat false n

def isNaN : Floating F → Bool
  | nan => true
  | _ => false

def isFinite : Floating F → Bool
  | finite _ => true
  | _ => false

/-- The rational that a finite number stands for. -/
def toRat? : Floating F → Option Rat
  | finite x => some x.toRat
  | _ => none

def neg : Floating F → Floating F
  | nan => nan
  | infinity s => infinity (!s)
  | finite x => finite { x with negative := !x.negative }

/-- The rounded sum; a sum of zero is negative only if both terms are negative zeros. -/
def add : Floating F → Floating F → Floating F
  | nan, _ => nan
  | _, nan => nan
  | infinity s, infinity t => if s = t then infinity s else nan
  | infinity s, finite _ => infinity s
  | finite _, infinity t => infinity t
  | finite x, finite y => ofRat (x.negative && y.negative) (x.toRat + y.toRat)

def sub (x y : Floating F) : Floating F :=
  add x (neg y)

/-- The rounded product; zero times an infinity is not a number. -/
def mul : Floating F → Floating F → Floating F
  | nan, _ => nan
  | _, nan => nan
  | infinity s, infinity t => infinity (s != t)
  | infinity s, finite y => if y.mantissa = 0 then nan else infinity (s != y.negative)
  | finite x, infinity t => if x.mantissa = 0 then nan else infinity (x.negative != t)
  | finite x, finite y => ofRat (x.negative != y.negative) (x.toRat * y.toRat)

/-- Strictly less; nothing compares with a value that is not a number. -/
def lt : Floating F → Floating F → Bool
  | nan, _ => false
  | _, nan => false
  | infinity s, infinity t => s && !t
  | infinity s, finite _ => s
  | finite _, infinity t => !t
  | finite x, finite y => x.toRat < y.toRat

/-- Equal as numbers: the two zeros are equal, a value that is not a number equals nothing. -/
def eq : Floating F → Floating F → Bool
  | infinity s, infinity t => s = t
  | finite x, finite y => x.toRat = y.toRat
  | _, _ => false

def le (x y : Floating F) : Bool :=
  lt x y || eq x y

/-- Less than an integer, compared exactly. -/
def ltInt : Floating F → Int → Bool
  | nan, _ => false
  | infinity s, _ => s
  | finite x, n => x.toRat < n

/-- Greater than an integer, compared exactly. -/
def gtInt : Floating F → Int → Bool
  | nan, _ => false
  | infinity s, _ => !s
  | finite x, n => (n : Rat) < x.toRat

/-- The integer a number is equal to, if there is one. -/
def toInt? : Floating F → Option Int
  | finite x => if x.toRat.den = 1 then some x.toRat.num else none
  | _ => none

def convert {G : Format} : Floating F → Floating G
  | nan => nan
  | infinity s => infinity s
  | finite x => ofRat x.negative x.toRat

end Floating

inductive IntegerPartError where
  | nan
  | infinite
deriving DecidableEq, Repr

/-- The integer part, dropped toward zero. -/
def Floating.integerPart {F : Format} : Floating F → Except IntegerPartError Int
  | .nan => .error .nan
  | .infinity _ => .error .infinite
  | .finite x => .ok (truncate x.toRat)

/-- The double nearest to an integer, or nothing if the integer is out of range. -/
def Double.ofInt? (n : Int) : Option Double :=
  match (Floating.ofInt n : Double) with
  | .infinity _ => none
  | x => some x

end SplitTest
