import SplitTest.Json.Document
import SplitTest.Predicate.Basic

/-! Targeting documents and the predicates that they describe. A document is an object with one
operator as its key; operators are read in any case. -/
namespace SplitTest

inductive Operator where
  | all
  | any
  | not
  | equal
  | override
  | compare (op : Comparison)
deriving DecidableEq, Repr

def Operator.ofName? (name : String) : Option Operator :=
  match name with
  | "all" => some .all
  | "any" => some .any
  | "not" => some .not
  | "eq" => some .equal
  | "override" => some .override
  | _ => (Comparison.all.find? (·.name == name)).map .compare

/-- Predicates whose operands have parts. -/
inductive NodeKind where
  | all
  | any
  | equal
  | compare
deriving DecidableEq, Repr

def NodeKind.name : NodeKind → String
  | all => "AllNode"
  | any => "AnyNode"
  | equal => "EqualNode"
  | compare => "ComparisonNode"

inductive NodeError where
  | json (error : Json.Error)
  | root
  | notObject (typeName : String)
  | keyCount (count : Nat)
  | keyType (typeName : String)
  | notArray (kind : NodeKind)
  | fieldCount (kind : NodeKind)
  | noField (kind : NodeKind)
  | fieldNotText (kind : NodeKind)
  | valuesNotArray
  | noValues
  | notScalar
  | noValue
  | notSingle
deriving DecidableEq, Repr

def NodeError.message : NodeError → String
  | json e => "invalid targeting JSON: " ++ e.message
  | root => "call to create targeting tree expects single input key"
  | notObject typeName => "node type " ++ typeName ++ " unknown"
  | keyCount count => "targeting node expects a single operator key, got " ++ natText count
  | keyType typeName => "unknown key type " ++ typeName
  | notArray kind => "input to " ++ kind.name ++ " expects an array"
  | fieldCount kind => kind.name ++ " expects exactly two fields"
  | noField kind => kind.name ++ " expects input key 'field'"
  | fieldNotText kind => kind.name ++ " expects 'field' to be a string"
  | valuesNotArray => "EqualNode expects 'values' to be an array"
  | noValues => "EqualNode expects input key 'value' or 'values'"
  | notScalar => "EqualNode expects scalar values"
  | noValue => "ComparisonNode expects input key 'value'"
  | notSingle => "NotNode expects exactly one field"

inductive PredicateError where
  | node (error : NodeError)
  | unknownOperator (operator : String)
  | longNumeral
deriving DecidableEq, Repr

def PredicateError.message : PredicateError → String
  | node e => e.message
  | unknownOperator operator => "unrecognized operator while constructing targeting tree: " ++
      operator
  | longNumeral => longNumeralMessage ""

namespace Predicate

/-- The field that an operand names, in lower case. -/
def fieldOf (kind : NodeKind) (entries : Entries) : Except PredicateError String :=
  match entries.find? "field" with
  | none => .error (.node (.noField kind))
  | some (.text field) => .ok (lowercase field)
  | some _ => .error (.node (.fieldNotText kind))

/-- The values that an equality test lists, or its only one. -/
def acceptedValues (entries : Entries) : Except PredicateError (List Value) :=
  match entries.find? "values", entries.find? "value" with
  | some (.list values), _ => .ok values
  | some _, _ => .error (.node .valuesNotArray)
  | none, some value => .ok [value]
  | none, none => .error (.node .noValues)

def matchKeyOf (v : Value) : Except PredicateError MatchKey :=
  match MatchKey.ofValue v with
  | .ok key => .ok key
  | .error .notScalar => .error (.node .notScalar)
  | .error .longNumeral => .error .longNumeral

/-- Match keys in order, each once. -/
def distinct (keys : List MatchKey) : List MatchKey :=
  keys.foldl (fun seen key => if seen.any (·.same key) then seen else seen ++ [key]) []

def equalOf : Value → Except PredicateError Predicate
  | .object [a, b] => do
    let field ← fieldOf .equal [a, b]
    let values ← acceptedValues [a, b]
    return .equal field (distinct (← values.mapM matchKeyOf))
  | _ => .error (.node (.fieldCount .equal))

def compareOf (op : Comparison) : Value → Except PredicateError Predicate
  | .object [a, b] => do
    let field ← fieldOf .compare [a, b]
    match Entries.find? [a, b] "value" with
    | none => .error (.node .noValue)
    | some threshold => return .compare op field threshold
  | _ => .error (.node (.fieldCount .compare))

mutual

/-- The predicate of a node: an object with one operator as its key. -/
def ofNode : Value → Except PredicateError Predicate
  | .object [(.text key, operand)] =>
    match Operator.ofName? (lowercase key), operand with
    | none, _ => .error (.unknownOperator (lowercase key))
    | some .all, .list items => .all <$> ofItems items
    | some .all, _ => .error (.node (.notArray .all))
    | some .any, .list items => .any <$> ofItems items
    | some .any, _ => .error (.node (.notArray .any))
    | some .not, .object [entry] => .not <$> ofNode (.object [entry])
    | some .not, _ => .error (.node .notSingle)
    | some .equal, _ => equalOf operand
    | some .override, _ => .ok (.constant (operand matches .bool true))
    | some (.compare op), _ => compareOf op operand
  | .object [(key, _)] => .error (.node (.keyType key.typeName))
  | .object entries => .error (.node (.keyCount entries.length))
  | v => .error (.node (.notObject v.typeName))
termination_by structural v => v

def ofItems : List Value → Except PredicateError (List Predicate)
  | [] => .ok []
  | v :: rest => do
    let p ← ofNode v
    return p :: (← ofItems rest)
termination_by structural items => items

end

/-- The predicate of a decoded document. -/
def ofDocument : Value → Except PredicateError Predicate
  | .object [entry] => ofNode (.object [entry])
  | _ => .error (.node .root)

/-- The predicate of a document that was read from JSON. -/
def ofJson : Except Json.Error Value → Except PredicateError Predicate
  | .error e => .error (.node (.json e))
  | .ok v => ofDocument v

/-- The predicate of a document: decoded, or a text that holds it as JSON. -/
def compile : Value → Except PredicateError Predicate
  | .text s => ofJson (Json.parse s)
  | v => ofDocument v

end Predicate
end SplitTest
