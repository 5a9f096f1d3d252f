/-! Rounding of a rational to an integer: to nearest with ties to even, and toward zero. -/
namespace SplitTest

/-- The integer nearest to `x`; a midpoint goes to its even neighbour. -/
def roundEven (x : Rat) : Int :=
  let k := x.floor
  if x - k < 1 / 2 then k
  else if 1 / 2 < x - k then k + 1
  else k + k % 2

/-- The integer part of `x`, its fraction dropped. -/
def truncate (x : Rat) : Int :=
  if x < 0 then -(-x).floor else x.floor

end SplitTest
