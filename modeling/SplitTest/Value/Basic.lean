import SplitTest.Assoc
import SplitTest.Calendar
import SplitTest.Number.Floating

/-! Values of documents and of arguments. -/
namespace SplitTest

inductive IntKind where
  | int8 | int16 | int32 | int64 | uint8 | uint16 | uint32 | uint64
deriving DecidableEq, Repr

def IntKind.name : IntKind → String
  | int8 => "int8"
  | int16 => "int16"
  | int32 => "int32"
  | int64 => "int64"
  | uint8 => "uint8"
  | uint16 => "uint16"
  | uint32 => "uint32"
  | uint64 => "uint64"

def IntKind.all : List IntKind :=
  [int8, int16, int32, int64, uint8, uint16, uint32, uint64]

inductive CollectionKind where
  | list
  | object
deriving DecidableEq, Repr

def CollectionKind.typeName : CollectionKind → String
  | list => "list"
  | object => "dict"

/-- A value without parts. -/
inductive Scalar where
  | null
  | bool (b : Bool)
  | int (n : Int)
  | float (x : Double)
  | sizedInt (kind : IntKind) (n : Int)
  | float32 (x : Single)
  | float64 (x : Double)
  | text (s : String)
  | date (d : Date)
  | dateTime (t : DateTime)
  /-- A collection inside of itself, where it is not written out again. -/
  | loop (kind : CollectionKind)
deriving DecidableEq, Repr

/-- A number of any kind, truth values apart. -/
inductive Number where
  | int (n : Int)
  | double (x : Double)
  | single (x : Single)
deriving DecidableEq, Repr

namespace Scalar

def typeName : Scalar → String
  | null => "NoneType"
  | bool _ => "bool"
  | int _ => "int"
  | float _ => "float"
  | sizedInt kind _ => kind.name
  | float32 _ => "float32"
  | float64 _ => "float64"
  | text _ => "str"
  | date _ => "date"
  | dateTime _ => "datetime"
  | loop kind => kind.typeName

/-- The number a scalar is; a truth value is none. -/
def number? : Scalar → Option Number
  | int n | sizedInt _ n => some (.int n)
  | float x | float64 x => some (.double x)
  | float32 x => some (.single x)
  | _ => none

end Scalar

/-- A value: a scalar, a list, or an object with its entries in order. -/
inductive Value where
  | scalar (s : Scalar)
  | list (items : List Value)
  | object (entries : List (Scalar × Value))
deriving Inhabited, Repr

namespace Value

@[match_pattern] def null : Value := .scalar .null
@[match_pattern] def bool (b : Bool) : Value := .scalar (.bool b)
@[match_pattern] def int (n : Int) : Value := .scalar (.int n)
@[match_pattern] def float (x : Double) : Value := .scalar (.float x)
@[match_pattern] def text (s : String) : Value := .scalar (.text s)

def typeName : Value → String
  | .scalar s => s.typeName
  | .list _ => CollectionKind.list.typeName
  | .object _ => CollectionKind.object.typeName

def number? : Value → Option Number
  | .scalar s => s.number?
  | _ => none

end Value

abbrev Entries := List (Scalar × Value)

/-- The value of an object under a text key. -/
def Entries.find? (entries : Entries) (key : String) : Option Value :=
  Assoc.findBy? (· == .text key) entries

/-- Arguments of a request: values under text keys, in order. -/
abbrev Arguments := List (String × Value)

/-- The value of an argument; a missing one is null. -/
def Arguments.get (args : Arguments) (key : String) : Value :=
  (Assoc.find? key args).getD .null

end SplitTest
