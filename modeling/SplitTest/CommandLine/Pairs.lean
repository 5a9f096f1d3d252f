import SplitTest.Json.Document

/-! Arguments of a request as they are given on a command line: keys and values, an equals sign
between them. -/
namespace SplitTest

inductive PairError where
  | noText (pair : String)
  | noJson (pair : String)
  | invalidJson (key : String) (error : Json.Error)
deriving DecidableEq, Repr

def PairError.message : PairError → String
  | noText pair => "expected KEY=VALUE, got '" ++ pair ++ "'"
  | noJson pair => "expected KEY=JSON, got '" ++ pair ++ "'"
  | invalidJson key e => "invalid JSON for '" ++ key ++ "': " ++ e.message

/-- Key and value, around the first equals sign. -/
def splitPair? (pair : String) : Option (String × String) :=
  match pair.toList.span (· != '=') with
  | (key, _ :: value) => some (String.ofList key, String.ofList value)
  | (_, []) => none

namespace Arguments

def ofTextPair (pair : String) : Except PairError (String × Value) :=
  match splitPair? pair with
  | some (key, value) => .ok (key, .text value)
  | none => .error (.noText pair)

def ofJsonPair (pair : String) : Except PairError (String × Value) :=
  match splitPair? pair with
  | none => .error (.noJson pair)
  | some (key, value) => (Json.parse value).map (key, ·) |>.mapError (.invalidJson key)

/-- The arguments of pairs: texts first, then documents; a later value of a key replaces an
earlier one in its place. -/
def ofPairs (texts documents : List String) : Except PairError Arguments := do
  let fromTexts ← texts.mapM ofTextPair
  let fromDocuments ← documents.mapM ofJsonPair
  return Assoc.ofList (fromTexts ++ fromDocuments)

end Arguments
end SplitTest
