import SplitTest.Text.Lowercase.Table

/-! Lower case over all of Unicode, with the two forms of a Greek sigma. -/
namespace SplitTest.Lowercase

def Shift.applies (s : Shift) (n : Nat) : Bool :=
  s.first ≤ n && n ≤ s.last && (n - s.first) % s.step == 0

/-- The lower-case form of one character, a sigma taken as one inside a word. -/
def ofChar (c : Char) : List Char :=
  if c.toNat < 128 then [if 'A' ≤ c ∧ c ≤ 'Z' then Char.ofNat (c.toNat + 32) else c]
  else if c = 'İ' then ['i', '\u0307']
  else match shifts.find? (·.applies c.toNat) with
    | some s => [Char.ofNat (c.toNat + s.shift).toNat]
    | none => [c]

def inRanges (ranges : List (Nat × Nat)) (c : Char) : Bool :=
  ranges.any fun (first, last) => first ≤ c.toNat && c.toNat ≤ last

def isCased (c : Char) : Bool :=
  inRanges casedRanges c

def isIgnorable (c : Char) : Bool :=
  inRanges ignorableRanges c

/-- Whether the first character that is not ignored has a case. -/
def startsCased (cs : List Char) : Bool :=
  match cs.dropWhile isIgnorable with
  | [] => false
  | c :: _ => isCased c

/-- Whether the last character that is not ignored has a case, once `c` follows. -/
def endsCased (before : Bool) (c : Char) : Bool :=
  if isIgnorable c then before else isCased c

/-- Lower case of a text that follows a cased letter or not: a sigma that ends a word is final. -/
def ofChars (afterCased : Bool) : List Char → List Char
  | [] => []
  | c :: rest =>
    let here := if c = 'Σ' then [if afterCased && !startsCased rest then 'ς' else 'σ'] else ofChar c
    here ++ ofChars (endsCased afterCased c) rest

end SplitTest.Lowercase

namespace SplitTest

def lowercase (s : String) : String :=
  String.ofList (Lowercase.ofChars false s.toList)

end SplitTest
