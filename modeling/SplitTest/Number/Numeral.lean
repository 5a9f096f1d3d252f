/-! Decimal numerals of natural numbers and integers. -/
namespace SplitTest

def digitChar (d : Nat) : Char :=
  Char.ofNat ('0'.toNat + d)

/-- The value of an ASCII decimal digit. -/
def digitValue? (c : Char) : Option Nat :=
  if '0' ≤ c ∧ c ≤ '9' then some (c.toNat - '0'.toNat) else none

def isDigit (c : Char) : Bool :=
  '0' ≤ c ∧ c ≤ '9'

/-- The decimal digits of a number, most significant first, in front of `tail`. -/
def numeralOnto (n : Nat) (tail : List Char) : List Char :=
  if n < 10 then digitChar n :: tail
  else numeralOnto (n / 10) (digitChar (n % 10) :: tail)
termination_by n
decreasing_by omega

/-- The numeral of a natural number: no leading zeros, `0` for zero. -/
def numeral (n : Nat) : List Char :=
  numeralOnto n []

/-- The numeral of an integer, negative ones with a minus sign. -/
def intNumeral (n : Int) : List Char :=
  if n < 0 then '-' :: numeral n.natAbs else numeral n.natAbs

def intText (n : Int) : String :=
  String.ofList (intNumeral n)

def natText (n : Nat) : String :=
  String.ofList (numeral n)

/-- Numerals of more digits are neither read nor written. -/
def numeralLimit : Nat := 4300

/-- Whether the numeral of an integer is past the limit. -/
def hasLongNumeral (n : Int) : Bool :=
  Nat.pow 10 numeralLimit ≤ n.natAbs

/-- Why a numeral is refused; `found` is what was found where that is known. -/
def longNumeralMessage (found : String) : String :=
  "Exceeds the limit (" ++ natText numeralLimit ++ " digits) for integer string conversion" ++
    found ++ "; use sys.set_int_max_str_digits() to increase the limit"

/-- Why a numeral of so many digits is not read. -/
def longNumeralReadMessage (count : Nat) : String :=
  longNumeralMessage (": value has " ++ natText count ++ " digits")

/-- The number that digits in a base denote; characters that are no digits count as zero. -/
def ofDigits (base : Nat) (value : Char → Nat) (cs : List Char) : Nat :=
  cs.foldl (fun n c => base * n + value c) 0

/-- The number that decimal digits denote. -/
def ofDecimalDigits (cs : List Char) : Nat :=
  ofDigits 10 (fun c => (digitValue? c).getD 0) cs

/-- A numeral filled up with zeros in front to a least width. -/
def paddedNumeral (width n : Nat) : List Char :=
  let digits := numeral n
  List.replicate (width - digits.length) '0' ++ digits

end SplitTest
