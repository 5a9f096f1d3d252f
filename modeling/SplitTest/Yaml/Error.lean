import SplitTest.Calendar
import SplitTest.Text.Quoted

/-! What is wrong with a YAML document. -/
namespace SplitTest.Yaml

inductive Error where
  /-- The text is not well formed, or the values it names cannot be built. -/
  | malformed
  | characterRange
  | characterTooLarge
  | emptyNumeral
  /-- A part of a float in base sixty stands too far in front. -/
  | weightTooLarge
  | integer (base : Nat) (text : String)
  | digits (count : Nat)
  | float (text : String)
  /-- No word for a truth value, in lower case. -/
  | truthValue (word : String)
  | timestamp
  | calendar (error : CalendarError)
deriving DecidableEq, Repr

/-- How much of the literal of a text that is no integer is shown. -/
def shownLength : Nat := 200

/-- Whether an error is no fault of the document but stops the reading of it. -/
def Error.stopsReading : Error → Bool
  | characterTooLarge | emptyNumeral | weightTooLarge | truthValue _ | timestamp => true
  | _ => false

def Error.message : Error → String
  | malformed => ""
  | characterRange => "chr() arg not in range(0x110000)"
  | characterTooLarge => "Python int too large to convert to C int"
  | emptyNumeral => "string index out of range"
  | weightTooLarge => "int too large to convert to float"
  | integer base text => "invalid literal for int() with base " ++ natText base ++ ": " ++
      String.ofList ((quoted text).toList.take shownLength)
  | digits count => longNumeralReadMessage count
  | float text => "could not convert string to float: " ++ quoted text
  | truthValue word => quoted word
  | timestamp => "'NoneType' object has no attribute 'groupdict'"
  | calendar e => e.message

end SplitTest.Yaml
