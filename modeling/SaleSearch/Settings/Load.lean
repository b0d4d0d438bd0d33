import SaleSearch.Catalog.Known
import SaleSearch.Files.Directory
import SaleSearch.Settings.Json
import SaleSearch.Yaml.Record

/-!
# Loading settings

Settings are loaded from a file, which may be unreadable or may not hold settings. A settings file
is a record of the parts in YAML, and a reference file is a record of the three known sets. Both may
leave anything out, and what they do not know they pass over.
-/

namespace SaleSearch

/-- The parts of settings in YAML. -/
def Settings.yamlForm : Settings.Form Yaml.Node where
  unsigned? := Yaml.Node.unsigned?
  token? := Yaml.Node.text?
  text? := Yaml.Node.text?
  bool? := Yaml.Node.bool?

/-- The settings that a YAML text holds. -/
def Settings.ofYaml? (text : String) : Option Settings := do
  let entries ← Yaml.record? Settings.partNames text
  Settings.yamlForm.settings? (Settings.Parts.named (Yaml.field? entries))

/-- The known sets that a YAML text holds. A set that is left out is empty. -/
def Catalog.setsOfYaml? (text : String) : Option (Catalog.Kind → List String) := do
  let entries ← Yaml.record? (Catalog.Kind.all.map Catalog.Kind.name) text
  let list (kind : Catalog.Kind) : Option (List String) :=
    match Yaml.field? entries kind.name with
    | none => some []
    | some node => node.texts?
  let collectionNames ← list .collectionNames
  let symbolCodes ← list .symbolCodes
  let chains ← list .chains
  return fun
    | .collectionNames => collectionNames
    | .symbolCodes => symbolCodes
    | .chains => chains

end SaleSearch

namespace SaleSearch.Settings

/-- Why no settings could be loaded. -/
inductive LoadError where
  | unreadable (path : String) (fault : Files.Fault)
  | malformed
  deriving DecidableEq, Repr

/-- The message of the failure, with the path if the file was unreadable. -/
def LoadError.message : LoadError → String
  | .unreadable path fault => "Failed to read '" ++ path ++ "': " ++ fault.message
  | .malformed => "Invalid YAML"

/-- The settings of a text, or the complaint that it holds none. -/
def ofText (text : String) : Except LoadError Settings :=
  match ofYaml? text with
  | some settings => .ok settings
  | none => .error .malformed

/-- The settings of the file under a path. -/
def load (read : Files.Reader) (path : String) : Except LoadError Settings :=
  match read path with
  | .ok text => ofText text
  | .error fault => .error (.unreadable path fault)

end SaleSearch.Settings
