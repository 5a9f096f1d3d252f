import SplitTest.Text.Quoted

/-! Unicode encodings: bytes to text, with the first place where bytes are no text. Texts are
well-formed Unicode; where an encoding lets halves of surrogate pairs pass, they are not kept as
they are but read as the replacement character. -/
namespace SplitTest

inductive Encoding where
  | utf8
  /-- UTF-8 in which halves of surrogate pairs are encoded like characters. -/
  | utf8Surrogates
  | utf16 (bigEndian : Bool)
  /-- UTF-16 in which halves of surrogate pairs may stand alone. -/
  | utf16Surrogates (bigEndian : Bool)
  | utf32 (bigEndian : Bool)
deriving DecidableEq, Repr

def Encoding.name : Encoding → String
  | utf8 => "utf-8"
  | utf8Surrogates => "utf-8"
  | utf16 bigEndian | utf16Surrogates bigEndian =>
    if bigEndian then "utf-16-be" else "utf-16-le"
  | utf32 bigEndian => if bigEndian then "utf-32-be" else "utf-32-le"

inductive DecodeReason where
  | startByte
  | continuationByte
  | unexpectedEnd
  | truncated
  | surrogate
  | codePoint
deriving DecidableEq, Repr

def DecodeReason.message : DecodeReason → String
  | startByte => "invalid start byte"
  | continuationByte => "invalid continuation byte"
  | unexpectedEnd => "unexpected end of data"
  | truncated => "truncated data"
  | surrogate => "illegal UTF-16 surrogate"
  | codePoint => "code point not in range(0x110000)"

/-- The first bytes that are no text: where they stand and how many there are. -/
structure DecodeError where
  encoding : Encoding
  start : Nat
  bytes : List UInt8
  reason : DecodeReason
deriving DecidableEq, Repr

def DecodeError.message (e : DecodeError) : String :=
  let place := match e.bytes with
    | [b] => "byte 0x" ++ String.ofList (hexDigits 2 b.toNat) ++ " in position " ++ natText e.start
    | _ => "bytes in position " ++ natText e.start ++ "-" ++
        natText (e.start + e.bytes.length - 1)
  "'" ++ e.encoding.name ++ "' codec can't decode " ++ place ++ ": " ++ e.reason.message

/-- One step of a decoder: a character and the number of bytes it took, or how many bytes are
wrong and why. -/
abbrev DecodeStep := Except (Nat × DecodeReason) (Char × Nat)

def isContinuation (b : UInt8) : Bool :=
  0x80 ≤ b && b ≤ 0xbf

/-- The six bits of a continuation byte. -/
def continuationBits (b : UInt8) : Nat :=
  b.toNat % 64

/-- Whether a second byte may follow a first one: no overlong forms, surrogates or numbers past the
last code point. -/
def mayFollow (first second : UInt8) : Bool :=
  isContinuation second &&
    (first != 0xe0 || 0xa0 ≤ second) && (first != 0xed || second < 0xa0) &&
    (first != 0xf0 || 0x90 ≤ second) && (first != 0xf4 || second < 0x90)

/-- One character of UTF-8, from its first byte and those that follow. -/
def utf8Step (a : UInt8) (rest : List UInt8) : DecodeStep :=
  if a < 0x80 then .ok (Char.ofNat a.toNat, 1)
  else if 0xc2 ≤ a && a ≤ 0xdf then
    match rest with
    | [] => .error (1, .unexpectedEnd)
    | b :: _ =>
      if mayFollow a b then .ok (Char.ofNat ((a.toNat % 32) * 64 + continuationBits b), 2)
      else .error (1, .continuationByte)
  else if 0xe0 ≤ a && a ≤ 0xef then
    match rest with
    | [] => .error (1, .unexpectedEnd)
    | b :: more =>
      if !mayFollow a b then .error (1, .continuationByte)
      else match more with
        | [] => .error (2, .unexpectedEnd)
        | c :: _ =>
          if isContinuation c then
            .ok (Char.ofNat ((a.toNat % 16) * 4096 + continuationBits b * 64 + continuationBits c),
              3)
          else .error (2, .continuationByte)
  else if 0xf0 ≤ a && a ≤ 0xf4 then
    match rest with
    | [] => .error (1, .unexpectedEnd)
    | b :: more =>
      if !mayFollow a b then .error (1, .continuationByte)
      else match more with
        | [] => .error (2, .unexpectedEnd)
        | c :: more =>
          if !isContinuation c then .error (2, .continuationByte)
          else match more with
            | [] => .error (3, .unexpectedEnd)
            | d :: _ =>
              if isContinuation d then
                .ok (Char.ofNat ((a.toNat % 8) * 262144 + continuationBits b * 4096 +
                  continuationBits c * 64 + continuationBits d), 4)
              else .error (3, .continuationByte)
  else .error (1, .startByte)

/-- One character of UTF-8; half of a surrogate pair stands as the replacement character. -/
def utf8SurrogatesStep (a : UInt8) (rest : List UInt8) : DecodeStep :=
  match rest with
  | b :: c :: _ =>
    if a = 0xed && 0xa0 ≤ b && b ≤ 0xbf && isContinuation c then .ok ('\ufffd', 3)
    else utf8Step a rest
  | _ => utf8Step a rest

/-- Two bytes as a number. -/
def pairNumber (bigEndian : Bool) (a b : UInt8) : Nat :=
  if bigEndian then a.toNat * 256 + b.toNat else b.toNat * 256 + a.toNat

def utf16Step (bigEndian : Bool) (a : UInt8) (rest : List UInt8) : DecodeStep :=
  match rest with
  | [] => .error (1, .truncated)
  | b :: more =>
    let high := pairNumber bigEndian a b
    if high < 0xd800 || 0xdfff < high then .ok (Char.ofNat high, 2)
    else match more with
      | c :: d :: _ =>
        let low := pairNumber bigEndian c d
        if high < 0xdc00 && 0xdc00 ≤ low && low ≤ 0xdfff then
          .ok (Char.ofNat (0x10000 + (high - 0xd800) * 1024 + (low - 0xdc00)), 4)
        else .error (2, .surrogate)
      | _ => .error (2, .surrogate)

/-- One character of UTF-16; half of a surrogate pair alone stands as the replacement character. -/
def utf16SurrogatesStep (bigEndian : Bool) (a : UInt8) (rest : List UInt8) : DecodeStep :=
  match utf16Step bigEndian a rest with
  | .error (_, .surrogate) => .ok ('\ufffd', 2)
  | step => step

def utf32Step (bigEndian : Bool) (a : UInt8) (rest : List UInt8) : DecodeStep :=
  match rest with
  | b :: c :: d :: _ =>
    let n := if bigEndian then pairNumber true a b * 65536 + pairNumber true c d
      else pairNumber false c d * 65536 + pairNumber false a b
    if 0x10ffff < n then .error (4, .codePoint)
    else if 0xd800 ≤ n && n ≤ 0xdfff then .ok ('\ufffd', 4)
    else .ok (Char.ofNat n, 4)
  | _ => .error (rest.length + 1, .truncated)

namespace Encoding

def step : Encoding → UInt8 → List UInt8 → DecodeStep
  | utf8 => utf8Step
  | utf8Surrogates => utf8SurrogatesStep
  | utf16 bigEndian => utf16Step bigEndian
  | utf16Surrogates bigEndian => utf16SurrogatesStep bigEndian
  | utf32 bigEndian => utf32Step bigEndian

/-- The characters of bytes that follow `offset` bytes, after those already read. -/
def decodeFrom (encoding : Encoding) (read : List Char) (offset : Nat) (bytes : List UInt8) :
    Except DecodeError (List Char) :=
  match bytes with
  | [] => .ok read.reverse
  | a :: rest =>
    match encoding.step a rest with
    | .ok (c, used) => decodeFrom encoding (c :: read) (offset + used) (rest.drop (used - 1))
    | .error (count, reason) => .error ⟨encoding, offset, (a :: rest).take count, reason⟩
termination_by bytes.length
decreasing_by simp only [List.length_drop, List.length_cons]; omega

def decode (encoding : Encoding) (bytes : List UInt8) : Except DecodeError (List Char) :=
  encoding.decodeFrom [] 0 bytes

end Encoding

/-- The bytes of a text in UTF-8. -/
def utf8Bytes (s : String) : List UInt8 :=
  s.toUTF8.toList

end SplitTest
