import SplitTest.Value.Text

/-! Match keys: what equality tests compare, so that `5` is `5.0` and `true` is not `1`. -/
namespace SplitTest

/-- What a value is compared by. Numbers of all kinds are compared by their canonical text. -/
inductive MatchKey where
  | null
  | bool (b : Bool)
  | number (text : String)
  | text (s : String)
  | date (d : Date)
  | dateTime (t : DateTime)
deriving DecidableEq, Repr

inductive MatchKeyError where
  | notScalar
  | longNumeral
deriving DecidableEq, Repr

/-- The canonical text of a number, unless its numeral is too long. -/
def Number.matchText : Number → Except MatchKeyError String
  | .int n => if hasLongNumeral n then .error .longNumeral else .ok (intText n)
  | x => .ok x.canonicalText

namespace MatchKey

def ofScalar (s : Scalar) : Except MatchKeyError MatchKey :=
  match s with
  | .null => .ok .null
  | .bool b => .ok (.bool b)
  | .text t => .ok (.text t)
  | .date d => .ok (.date d)
  | .dateTime t => .ok (.dateTime t)
  | .int n | .sizedInt _ n => .number <$> (Number.int n).matchText
  | .float x | .float64 x => .number <$> (Number.double x).matchText
  | .float32 x => .number <$> (Number.single x).matchText
  | .loop _ => .error .notScalar

/-- The match key of a value; lists and objects have none. -/
def ofValue : Value → Except MatchKeyError MatchKey
  | .scalar s => ofScalar s
  | .list _ => .error .notScalar
  | .object _ => .error .notScalar

/-- Whether two keys match: equal, or the same moment. -/
def same : MatchKey → MatchKey → Bool
  | dateTime s, dateTime t => s.sameMoment t
  | a, b => a = b

/-- A key with the kind of value it comes from. -/
def tagged : MatchKey → String
  | null => "null"
  | bool b => "bool:" ++ boolText b
  | number s => "number:" ++ s
  | text s => "str:" ++ s
  | date d => "date:" ++ d.text
  | dateTime t => "datetime:" ++ t.text " "

end MatchKey
end SplitTest
