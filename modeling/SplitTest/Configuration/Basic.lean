import SplitTest.Configuration.Coercion
import SplitTest.VariantSet

/-! Configurations of experiments, and the documents that describe them. -/
namespace SplitTest

structure Definition where
  experimentVersion : Int
  /-- Another version, without a seed of its own, is another seed. -/
  shuffleVersion : Int
  bucketKey : String
  variants : List Variant
  bucketSeed : String
  /-- The targeting document, null if there is none. -/
  targeting : Value
  /-- Documents by variant, in entries that are tried in order. -/
  overrides : List (List (String × Value))
deriving Inhabited, Repr

/-- One experiment of a manifest. -/
structure Configuration where
  id : Int
  name : String
  owner : String
  enabled : Option Bool
  version : String
  type : String
  startTs : Double
  stopTs : Double
  definition : Definition
deriving Repr

/-- An experiment is enabled unless it says that it is not. -/
def Configuration.isEnabled (c : Configuration) : Bool :=
  c.enabled.getD true

def Double.zero : Double := Floating.zero false

def Definition.empty : Definition := ⟨0, 0, "", [], "", .null, []⟩

/-- An object whose fields are read from its entries. -/
def objectField {α : Type} (read : Path → Entries → Checked α) : FieldReader α
  | path, .object entries => read path entries
  | path, _ => .problem path .modelType

/-- Any value as it is. -/
def anyField : FieldReader Value := fun _ v => .ok v

def variantField : FieldReader Variant :=
  objectField fun path entries =>
    Variant.mk <$> required textField path entries "name"
      <*> optional finiteField Double.zero path entries "size"
      <*> optional finiteField Double.zero path entries "range_start"
      <*> optional finiteField Double.zero path entries "range_end"

def definitionField : FieldReader Definition :=
  objectField fun path entries =>
    Definition.mk <$> optional intField 0 path entries "experiment_version"
      <*> optional intField 0 path entries "shuffle_version"
      <*> nullable textField "" path entries "bucket_val"
      <*> nullable (listField variantField) [] path entries "variants"
      <*> nullable textField "" path entries "bucket_seed"
      <*> optional anyField .null path entries "targeting"
      <*> nullable (listField dictField) [] path entries "overrides"

def configField : FieldReader Configuration :=
  objectField fun path entries =>
    Configuration.mk <$> optional intField 0 path entries "id"
      <*> nullable textField "" path entries "name"
      <*> nullable textField "" path entries "owner"
      <*> nullable (fun path v => some <$> boolField path v) none path entries "enabled"
      <*> nullable textField "" path entries "version"
      <*> nullable textField "" path entries "type"
      <*> nullable finiteField Double.zero path entries "start_ts"
      <*> nullable finiteField Double.zero path entries "stop_ts"
      <*> nullable definitionField Definition.empty path entries "experiment"

def Variant.ofDocument (v : Value) : Checked Variant :=
  variantField [] v

def Configuration.ofDocument (v : Value) : Checked Configuration :=
  configField [] v

end SplitTest
