/-! Tokens of YAML texts. -/
namespace SplitTest.Yaml

/-- A line that tells how to read the document after it. -/
inductive Directive where
  | version (major : Nat)
  | tagHandle (handle uri : String)
  | other
deriving DecidableEq, Repr

/-- Tokens; the start and end of block collections are told by the indentation. -/
inductive Token where
  | directive (d : Directive)
  | documentStart
  | documentEnd
  | streamEnd
  | blockSequenceStart
  | blockMappingStart
  | blockEnd
  | flowSequenceStart
  | flowSequenceEnd
  | flowMappingStart
  | flowMappingEnd
  | blockEntry
  | flowEntry
  | key
  | value
  | alias (name : String)
  | anchor (name : String)
  | tag (handle : Option String) (suffix : String)
  | scalar (text : String) (plain : Bool)
deriving DecidableEq, Repr

end SplitTest.Yaml
