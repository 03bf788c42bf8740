import DocSections.Catalog.Builtin
import DocSections.Catalog.Directory
import DocSections.Compose.Coverage
import DocSections.Config.Basic
import DocSections.Config.Source
import DocSections.Factory.Builtin
import DocSections.Setting.Environment
import DocSections.Setting.Layer

/-! Loading and saving the configuration, and the catalog that it names. Later sources override
earlier ones key by key: the files of the working directory, the user's file, a file given by name,
and last the environment. -/

namespace DocSections

inductive ConfigFault where
  | source (fault : SourceFault)
  | setting (fault : SettingFault)
deriving DecidableEq, Repr

def ConfigFault.message : ConfigFault → String
  | source fault => fault.message
  | setting fault => fault.message

inductive CatalogFault where
  | load (fault : LoadFault)
  | uncovered (fault : CompositionFault)
deriving DecidableEq, Repr

def CatalogFault.message : CatalogFault → String
  | load fault => fault.fullMessage
  | uncovered fault => fault.message

namespace Environment

def configDirectory? (e : Environment) : Option String :=
  match (e.get? "XDG_CONFIG_HOME").filter PathText.isAbsolute with
  | some directory => some directory
  | none => ((e.get? "HOME").filter (· != "")).map (PathText.join · ".config")

def userFile? (e : Environment) : Option String :=
  e.configDirectory?.map (PathText.join · "doc-schemas/doc-schemas.toml")

end Environment

namespace Config

def localFiles : List String := ["doc-schemas.toml", ".doc-schemas.toml", "config/doc-schemas.toml"]

def usualFiles (files : Files) (e : Environment) : List String :=
  localFiles ++ (e.userFile?.filter files.pathExists).toList

/-- All sources, the weakest first. The file called `name`, if any, has to be there. -/
def sources (files : Files) (e : Environment) (name : Option String) :
    Except SourceFault (List SettingSource) := do
  let usual ← (usualFiles files e).mapM (SettingSource.optional files)
  let named ← name.toList.mapM (SettingSource.required files)
  .ok (usual.flatten ++ named ++ [⟨"the environment", e.settings⟩])

def layered (sources : List SettingSource) : Setting :=
  sources.foldl (fun below s => below.withLayer s.placed) (.table [])

def load (files : Files) (e : Environment) (name : Option String) : Except ConfigFault Config :=
  match sources files e name with
  | .error fault => .error (.source fault)
  | .ok sources => (ofSetting (layered sources)).mapError .setting

def save (c : Config) (files : Files) (path : String) : Except PathFault Files :=
  files.write path c.text.toUTF8

def readCatalog (c : Config) (files : Files) : Except LoadFault Catalog :=
  match c.catalogPath with
  | some path => Catalog.ofDirectory files path
  | none => .ok Catalog.builtin

/-- The configured catalog, verified against the built-in factories unless that is turned off. -/
def loadCatalog (c : Config) (files : Files) : Except CatalogFault Catalog :=
  match c.readCatalog files with
  | .error fault => .error (.load fault)
  | .ok catalog =>
    match (if c.verify then Registry.builtin.verify catalog else .ok ()) with
    | .ok () => .ok catalog
    | .error fault => .error (.uncovered fault)

end Config

end DocSections
