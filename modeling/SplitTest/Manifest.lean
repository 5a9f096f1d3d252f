import SplitTest.Configuration.Basic
import SplitTest.FileTree
import SplitTest.Json.Document
import SplitTest.Notice
import SplitTest.Yaml.Document

/-! Manifests: configurations of experiments by name, and the documents that hold them. An entry
that is no configuration is left out and does not touch the others. -/
namespace SplitTest

/-- Configurations by name, in the order of the document. -/
abbrev Manifest := List (String × Configuration)

def Manifest.find? (m : Manifest) (name : String) : Option Configuration :=
  Assoc.find? name m

/-- A text put in its place among texts in order. -/
def insertText (s : String) : List String → List String
  | [] => [s]
  | t :: rest => if t < s then t :: insertText s rest else s :: t :: rest

/-- Texts in the order of their code points. -/
def sortedTexts (texts : List String) : List String :=
  texts.foldr insertText []

def Manifest.names (m : Manifest) : List String :=
  sortedTexts (m.map (·.1))

inductive ManifestFormat where
  | json
  | yaml
deriving DecidableEq, Repr

def ManifestFormat.ofName? : String → Option ManifestFormat
  | "json" => some json
  | "yaml" => some yaml
  | _ => none

def ManifestFormat.name : ManifestFormat → String
  | json => "json"
  | yaml => "yaml"

/-- The format that a file's name tells, in any case of letters. -/
def ManifestFormat.ofPath (p : FilePath) : ManifestFormat :=
  if [".yaml", ".yml"].contains (lowercase p.suffix) then .yaml else .json

inductive ManifestError where
  | unsupportedFormat (name : String)
  | json (error : Json.Error)
  | yaml (error : Yaml.Error)
  | notMapping (typeName : String)
  | unreadable (path : FilePath) (error : FileError)
deriving DecidableEq, Repr

namespace ManifestError

/-- Whether an error is a fault found in the manifest; some scalars of YAML stop the reading, and
some paths are never looked up. -/
def isFault : ManifestError → Bool
  | yaml e => !e.stopsReading
  | unreadable _ .zeroCharacter => false
  | _ => true

def message : ManifestError → String
  | unsupportedFormat name => "unsupported manifest format: " ++ name
  | json e => "Invalid JSON in manifest: " ++ e.message
  | yaml .malformed => "Invalid YAML in manifest"
  | yaml e => if e.stopsReading then e.message else "Invalid JSON in manifest: " ++ e.message
  | notMapping typeName => "manifest must contain a mapping of experiments, got " ++ typeName
  | unreadable path .zeroCharacter => FileError.zeroCharacter.message path
  | unreadable path e => "Could not read manifest '" ++ path.text ++ "': " ++ e.message path

end ManifestError

/-- Names of entries that belong to the system and are no experiments. -/
def isSystemName (name : String) : Bool :=
  name.toList.head? == some '$'

inductive ManifestEntry where
  | accepted (name : String) (config : Configuration)
  | skipped (name : String) (problems : List Problem)
deriving Repr

/-- The entry under a key; keys that are no texts, and names of the system, have none. -/
def ManifestEntry.ofPair? : Scalar × Value → Option ManifestEntry
  | (.text name, v) =>
    if isSystemName name then none
    else match Configuration.ofDocument v with
      | .ok config => some (accepted name config)
      | .error problems => some (skipped name problems)
  | _ => none

/-- A document of a manifest, entry by entry. -/
structure ManifestReading where
  entries : List ManifestEntry
deriving Repr

namespace ManifestReading

/-- The entries that are configurations. -/
def manifest (r : ManifestReading) : Manifest :=
  r.entries.filterMap fun
    | .accepted name config => some (name, config)
    | .skipped _ _ => none

/-- A notice for each entry that is none. -/
def notices (r : ManifestReading) : List Notice :=
  r.entries.filterMap fun
    | .accepted _ _ => none
    | .skipped name problems => some (.skipped name problems.length)

/-- The entries of a document, which has to be an object. -/
def ofValue : Value → Except ManifestError ManifestReading
  | .object entries => .ok ⟨entries.filterMap ManifestEntry.ofPair?⟩
  | v => .error (.notMapping v.typeName)

end ManifestReading

inductive Content where
  | text (s : String)
  | bytes (bytes : List UInt8)
deriving DecidableEq, Repr

def ManifestFormat.decode (format : ManifestFormat) (content : Content) :
    Except ManifestError Value :=
  match format, content with
  | .json, .text s => (Json.parse s).mapError .json
  | .json, .bytes bs => (Json.parseBytes bs).mapError .json
  | .yaml, .text s => (Yaml.parse s).mapError .yaml
  | .yaml, .bytes bs => (Yaml.parseBytes bs).mapError .yaml

namespace ManifestReading

def parse (format : ManifestFormat) (content : Content) : Except ManifestError ManifestReading := do
  ofValue (← format.decode content)

/-- A manifest in a format that is given by name. -/
def parseNamed (format : String) (content : Content) : Except ManifestError ManifestReading :=
  match ManifestFormat.ofName? format with
  | some format => parse format content
  | none => .error (.unsupportedFormat format)

/-- The manifest of a file, given what opening it gives; the format is told by the name. -/
def ofFile (path : FilePath) (content : Except FileError (List UInt8)) :
    Except ManifestError ManifestReading :=
  match content with
  | .error e => .error (.unreadable path e)
  | .ok bytes => parse (ManifestFormat.ofPath path) (.bytes bytes)

end ManifestReading
end SplitTest
