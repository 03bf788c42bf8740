import DocSections.FileTree
import DocSections.Ini.Reader
import DocSections.Json.Reader
import DocSections.Json5.Reader
import DocSections.Ron.Reader
import DocSections.Setting.Basic
import DocSections.Toml.Reader
import DocSections.Yaml.Reader

/-! Configuration files. A file is found by its name or by its name without extension, and read in
the format that its extension tells. -/

namespace DocSections

inductive FileFormat where
  | toml
  | json
  | yaml
  | ini
  | ron
  | json5
deriving DecidableEq, Repr

namespace FileFormat

def all : List FileFormat := [toml, json, yaml, ini, ron, json5]

def extensions : FileFormat → List String
  | toml => ["toml"]
  | json => ["json"]
  | yaml => ["yaml", "yml"]
  | ini => ["ini"]
  | ron => ["ron"]
  | json5 => ["json5"]

def ofExtension? (e : String) : Option FileFormat := all.find? (·.extensions.contains e)

def endings : List (String × FileFormat) := all.flatMap fun f => f.extensions.map (·, f)

end FileFormat

inductive SourceFault where
  | notFound (name : String)
  | unknownFormat (path : String)
  | unreadable (fault : PathFault)
  | malformed (problem origin : String)
  | noTable (found origin : String)
deriving DecidableEq, Repr

def SourceFault.message : SourceFault → String
  | notFound name => "configuration file \"" ++ name ++ "\" not found"
  | unknownFormat path =>
    "configuration file \"" ++ path ++ "\" is not of a registered file format"
  | unreadable fault => fault.message
  | malformed problem origin => problem ++ " in " ++ origin
  | noTable found origin =>
    "invalid type: " ++ found ++ ", expected a map in " ++ origin ++ " in " ++ origin

structure SettingSource where
  origin : String
  entries : List (String × Setting)

namespace SettingSource

def placed (s : SettingSource) : List (String × Setting) :=
  Setting.entriesWithOrigin s.origin s.entries

def format? (path : String) : Option FileFormat :=
  ((PathText.fileName? path).bind PathText.extension?).bind FileFormat.ofExtension?

def withExtension? (path extension : String) : Option String :=
  (PathText.fileName? path).map fun _ =>
    (if PathText.isAbsolute path then "/" else "") ++ "/".intercalate (PathText.names path) ++
      "." ++ extension

def candidates (name : String) : List (String × FileFormat) :=
  FileFormat.endings.filterMap fun e => (withExtension? name e.1).map (·, e.2)

/-- The file that a name means: one of that name, whose extension must be known, or else one whose
extension the name leaves out. -/
def find (files : Files) (name : String) : Except SourceFault (String × FileFormat) :=
  if files.isFile name then
    match format? name with
    | some f => .ok (name, f)
    | none => .error (.unknownFormat (files.absolute name))
  else
    match (candidates name).find? fun c => files.isFile c.1 with
    | some c => .ok c
    | none => .error (.notFound name)

def someProblem : String := "the text that begins at line 1 is not well formed"

def parse (text : String) : FileFormat → Except String Setting
  | .toml => (Toml.ofText? text).elim (.error someProblem) .ok
  | .json => ((Json.ofText? text).map Setting.ofJson).elim (.error someProblem) .ok
  | .yaml => (Yaml.ofText text).mapError Yaml.Fault.message
  | .ini => (Ini.ofText text).mapError Ini.Fault.message
  | .ron => (Ron.ofText text).mapError Ron.Fault.message
  | .json5 => (Json5.ofText text).mapError Json5.Problem.message

def ofText (origin text : String) (format : FileFormat) : Except SourceFault SettingSource :=
  match parse text format with
  | .ok (.table entries _) => .ok ⟨origin, entries⟩
  | .ok other => .error (.noTable other.describedWhole origin)
  | .error problem => .error (.malformed problem origin)

def required (files : Files) (name : String) : Except SourceFault SettingSource := do
  let (path, format) ← find files name
  ofText (files.relative path) (← (files.readText path).mapError .unreadable) format

def optional (files : Files) (name : String) : Except SourceFault (List SettingSource) :=
  match find files name with
  | .error _ => .ok []
  | .ok (path, format) =>
    match files.readText path with
    | .error _ => .ok []
    | .ok text => (ofText (files.relative path) text format).map ([·])

end SettingSource

end DocSections
