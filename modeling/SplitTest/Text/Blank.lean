/-! Classes of blank characters. -/
namespace SplitTest

/-- The white space of Unicode. -/
def isWhiteSpace (c : Char) : Bool :=
  let n := c.toNat
  (9 ≤ n && n ≤ 13) || n == 32 || n == 0x85 || n == 0xa0 || n == 0x1680 ||
    (0x2000 ≤ n && n ≤ 0x200a) || n == 0x2028 || n == 0x2029 || n == 0x202f || n == 0x205f ||
    n == 0x3000

/-- White space together with the four separators of ASCII. -/
def isSpacing (c : Char) : Bool :=
  isWhiteSpace c || (28 ≤ c.toNat && c.toNat ≤ 31)

/-- A list without the elements of a class at its end. -/
def dropWhileEnd {α : Type} (p : α → Bool) (xs : List α) : List α :=
  (xs.reverse.dropWhile p).reverse

/-- A list without the elements of a class at either end. -/
def trimBoth {α : Type} (p : α → Bool) (xs : List α) : List α :=
  dropWhileEnd p (xs.dropWhile p)

end SplitTest
