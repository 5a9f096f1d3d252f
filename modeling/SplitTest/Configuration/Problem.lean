import SplitTest.Value.Text

/-! Problems of a document that does not have the shape of a configuration. -/
namespace SplitTest

inductive ProblemKind where
  | modelType
  | missing
  | stringType
  | listType
  | dictType
  | boolType
  | boolParsing
  | intType
  | intParsing
  | intFromFloat
  | intParsingSize
  | floatType
  | floatParsing
  | finiteNumber
deriving DecidableEq, Repr

def ProblemKind.name : ProblemKind → String
  | modelType => "model_type"
  | missing => "missing"
  | stringType => "string_type"
  | listType => "list_type"
  | dictType => "dict_type"
  | boolType => "bool_type"
  | boolParsing => "bool_parsing"
  | intType => "int_type"
  | intParsing => "int_parsing"
  | intFromFloat => "int_from_float"
  | intParsingSize => "int_parsing_size"
  | floatType => "float_type"
  | floatParsing => "float_parsing"
  | finiteNumber => "finite_number"

/-- One step from a value to a part of it. -/
inductive PathStep where
  | field (name : String)
  | index (i : Nat)
  | key (k : Scalar)
  | keyItself
deriving DecidableEq, Repr

/-- The name of a key that is not a text. -/
def Scalar.keyName : Scalar → String
  | null => "None"
  | bool b => if b then "1" else "0"
  | date d => "datetime.date(" ++ ", ".intercalate d.parts ++ ")"
  | dateTime t => "datetime.datetime(" ++ ", ".intercalate t.parts ++ ")"
  | text s => s
  | s => s.show

def PathStep.name : PathStep → String
  | field name => name
  | index i => natText i
  | key k => k.keyName
  | keyItself => "[key]"

/-- The way from a document to a part of it. -/
abbrev Path := List PathStep

structure Problem where
  path : Path
  kind : ProblemKind
deriving DecidableEq, Repr

def Problem.text (p : Problem) : String :=
  ".".intercalate (p.path.map (·.name)) ++ ":" ++ p.kind.name

/-- Problems in their order, in one line. -/
def problemsText (problems : List Problem) : String :=
  "; ".intercalate (problems.map (·.text))

/-- A value made of parts that are all checked, or all the problems found, in order. -/
def Checked (α : Type) := Except (List Problem) α

namespace Checked

variable {α β : Type}

def ok (a : α) : Checked α := Except.ok a

def problem (path : Path) (kind : ProblemKind) : Checked α := Except.error [⟨path, kind⟩]

/-- Both sides are checked, whatever the first one gives. -/
def apply (f : Checked (α → β)) (x : Checked α) : Checked β :=
  match f, x with
  | .ok f, .ok a => .ok (f a)
  | .ok _, .error problems => .error problems
  | .error problems, .ok _ => .error problems
  | .error problems, .error more => .error (problems ++ more)

instance : Applicative Checked where
  pure := ok
  seq f x := apply f (x ())

end Checked
end SplitTest
