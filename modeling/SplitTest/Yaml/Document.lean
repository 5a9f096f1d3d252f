import SplitTest.Text.Encoding
import SplitTest.Yaml.Evaluation

/-! YAML documents as text and as bytes, and the values that they hold. -/
namespace SplitTest.Yaml

/-- Characters that a document may hold. -/
def isAllowed (c : Char) : Bool :=
  let n := c.toNat
  n == 9 || n == 10 || n == 13 || (0x20 ≤ n && n ≤ 0x7e) || n == 0x85 ||
    (0xa0 ≤ n && n ≤ 0xfffd) || 0x10000 ≤ n

/-- The value of a text; one without a document is null. -/
def parseChars (text : List Char) : Except Error Value := do
  if !text.all isAllowed then .error .malformed
  match ← Graph.ofText? text with
  | none => return .null
  | some g => return (← g.evaluate).value

def parse (s : String) : Except Error Value :=
  parseChars s.toList

/-- The value of a text in bytes: UTF-16 where a byte order mark says so, else UTF-8. -/
def parseBytes (bytes : List UInt8) : Except Error Value := do
  let encoding := match bytes with
    | 0xff :: 0xfe :: _ => Encoding.utf16 false
    | 0xfe :: 0xff :: _ => Encoding.utf16 true
    | _ => Encoding.utf8
  parseChars (← (encoding.decode bytes).mapError fun _ => Error.malformed)

end SplitTest.Yaml
