import SplitTest.Configuration.Coercion
import SplitTest.Settings.VariableFile
import SplitTest.Text.Lowercase

/-! Settings: where the manifest is and how it is watched, as variables tell. -/
namespace SplitTest

structure Settings where
  manifestPath : String
  /-- Seconds between two looks at the manifest. -/
  pollInterval : Double
  /-- Seconds to wait for the manifest at the start; without end if there is none. -/
  loadTimeout : Option Double
deriving DecidableEq, Repr

namespace Settings

/-- What the names of all variables start with, in any case of letters. -/
def namespaceOfVariables : String := "flit_experiments_"

/-- The value of the variable for a field; of names that differ in case the last one counts. -/
def setting? (given : List (String × Option String)) (field : String) : Option String :=
  let entries := Assoc.ofList (given.map fun (name, value) => (lowercase name, value))
  (Assoc.find? (namespaceOfVariables ++ field) entries).join

def fieldNames : List String := ["manifest_path", "poll_interval", "load_timeout"]

/-- The fields that are set, by the environment or else by a file of variables. -/
def fields (environment : Variables) (file : Option String) : Entries :=
  let outer := environment.map fun (name, value) => (name, some value)
  let inner := (file.map (VariableFile.parse environment)).getD []
  fieldNames.filterMap fun name =>
    ((setting? outer name).or (setting? inner name)).map fun value =>
      (Scalar.text name, Value.text value)

def ofFields (fields : Entries) : Checked Settings :=
  Settings.mk <$> optional textField "experiments.json" [] fields "manifest_path"
    <*> optional floatField (.ofInt 1) [] fields "poll_interval"
    <*> optional (fun path v => some <$> floatField path v) (some (.ofInt 30)) [] fields
      "load_timeout"

/-- The settings of an environment and of a file of variables, if there is one. -/
def load (environment : Variables) (file : Option String) : Checked Settings :=
  ofFields (fields environment file)

end Settings
end SplitTest
