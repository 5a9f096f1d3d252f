import SplitTest.Json.Reader

/-! JSON documents as text and as bytes. In bytes too, half of a surrogate pair alone is read as the
replacement character, as texts are well-formed Unicode. -/
namespace SplitTest.Json

/-- The value of a whole text: blanks around one value, and nothing else. -/
def readWhole (s : List Char) : Except Fault Value := do
  let (v, ⟨rest, _⟩) ← readValue (skipBlanks s)
  match skipBlanks rest with
  | [] => return v
  | extra => .error (.problem .extraData extra)

/-- The value of a text, faults placed by line and column. -/
def parseChars (s : List Char) : Except Error Value :=
  (readWhole s).mapError (·.toError s)

/-- The value of a text; a text does not start with a byte order mark. -/
def parse (s : String) : Except Error Value :=
  match s.toList with
  | '\ufeff' :: _ => .error (.problem .byteOrderMark (Place.after []))
  | cs => parseChars cs

/-- The encoding of a document's bytes and how many of them mark it: a byte order mark, or the
place of zero bytes around a first ASCII character. -/
def detectEncoding (bytes : List UInt8) : Encoding × Nat :=
  match bytes with
  | 0x00 :: 0x00 :: 0xfe :: 0xff :: _ => (.utf32 true, 4)
  | 0xff :: 0xfe :: 0x00 :: 0x00 :: _ => (.utf32 false, 4)
  | 0xfe :: 0xff :: _ => (.utf16Surrogates true, 2)
  | 0xff :: 0xfe :: _ => (.utf16Surrogates false, 2)
  | 0xef :: 0xbb :: 0xbf :: _ => (.utf8Surrogates, 3)
  | a :: b :: c :: d :: _ =>
    if a = 0 then (if b = 0 then .utf32 true else .utf16Surrogates true, 0)
    else if b = 0 then (if c = 0 ∧ d = 0 then .utf32 false else .utf16Surrogates false, 0)
    else (.utf8Surrogates, 0)
  | [a, b] =>
    (if a = 0 then .utf16Surrogates true
      else if b = 0 then .utf16Surrogates false
      else .utf8Surrogates, 0)
  | _ => (.utf8Surrogates, 0)

/-- The characters of a document's bytes. Places count the byte order mark, but not that of
UTF-8. -/
def decodeBytes (bytes : List UInt8) : Except DecodeError (List Char) :=
  match detectEncoding bytes with
  | (.utf8Surrogates, mark) => Encoding.utf8Surrogates.decode (bytes.drop mark)
  | (encoding, mark) => encoding.decodeFrom [] mark (bytes.drop mark)

def parseBytes (bytes : List UInt8) : Except Error Value :=
  match decodeBytes bytes with
  | .error e => .error (.undecodable e)
  | .ok cs => parseChars cs

end SplitTest.Json
