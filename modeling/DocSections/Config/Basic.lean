import DocSections.OutputFormat
import DocSections.Setting.Basic
import DocSections.Toml.Writer

/-! The configuration: where the catalog comes from, whether it is verified when it is loaded, and
how results are printed. -/

namespace DocSections

structure Config where
  /-- The directory of family files; the built-in catalog is used when unset. -/
  catalogPath : Option String := none
  verify : Bool := true
  outputFormat : OutputFormat := .pretty
deriving DecidableEq, Repr

/-- Why settings make no configuration: `found` stands where something else was wanted. A group of
settings is told by what it makes, a single setting by its key and the source that it comes from. -/
inductive SettingFault where
  | noGroup (found wanted : String)
  | mismatch (found wanted key : String) (origin : Option String)
  | unknownFormat (word : String)
  | noFormat
deriving DecidableEq, Repr

def SettingFault.message : SettingFault → String
  | noGroup found wanted => "invalid type: " ++ found ++ ", expected " ++ wanted
  | mismatch found wanted key origin =>
    "invalid type: " ++ found ++ ", expected " ++ wanted ++ " for key \x60" ++ key ++ "\x60" ++
      origin.elim "" (" in " ++ ·)
  | unknownFormat word => "enum OutputFormat does not have variant constructor " ++ word
  | noFormat =>
    "value of enum OutputFormat should be represented by either string or table with exactly " ++
      "one key"

namespace Setting

/-- The entry called `name`, which has to be a table or a list; where there is none, it is empty. -/
def group (s : Setting) (name wanted : String) : Except SettingFault Setting :=
  match Assoc.find? name s.entries with
  | none => .ok (table [])
  | some (scalar value _) => .error (.noGroup value.described wanted)
  | some group => .ok group

/-- A member of a group, with its key: by name in a table, by place in a list. -/
def member? (group : Setting) (groupName name : String) (place : Nat) :
    Option (Setting × String) :=
  match group with
  | table entries _ => (Assoc.find? name entries).map (·, groupName ++ "." ++ name)
  | list items _ => items[place]?.map (·, groupName ++ "[" ++ toString place ++ "]")
  | scalar _ _ => none

def optionalText : Option (Setting × String) → Except SettingFault (Option String)
  | none => .ok none
  | some (scalar value _, _) => .ok value.text?
  | some (s, key) => .error (.mismatch s.described "a string" key s.origin)

/-- What stands where a boolean is wanted; words are told in lower case. -/
def describedWord : Setting → String
  | scalar (.text s) _ => (Scalar.text (String.ofList (Text.lower s.toList))).described
  | s => s.described

def bool? : Setting → Option Bool
  | scalar value _ => value.bool?
  | _ => none

def boolean (default : Bool) : Option (Setting × String) → Except SettingFault Bool
  | none => .ok default
  | some (s, key) =>
    match s.bool? with
    | some b => .ok b
    | none => .error (.mismatch s.describedWord "a boolean" key s.origin)

def formatOf (word : String) : Except SettingFault OutputFormat :=
  match Vocabulary.ofWord? word.toLower with
  | some f => .ok f
  | none => .error (.unknownFormat word)

/-- An output format is a word, or the only key of a table. -/
def outputFormat (default : OutputFormat) :
    Option (Setting × String) → Except SettingFault OutputFormat
  | none => .ok default
  | some (scalar (.text word) _, _) => formatOf word
  | some (table [(word, _)] _, _) => formatOf word
  | some _ => .error .noFormat

end Setting

namespace Config

/-- The configuration that settings make. Settings that it does not know are passed over, and those
that are not given keep their defaults. -/
def ofSetting (s : Setting) : Except SettingFault Config := do
  let catalog ← s.group "catalog" "struct CatalogConfig"
  let report ← s.group "report" "struct ReportConfig"
  .ok ⟨← Setting.optionalText (catalog.member? "catalog" "path" 0),
    ← Setting.boolean true (catalog.member? "catalog" "verify" 1),
    ← Setting.outputFormat .pretty (report.member? "report" "output_format" 0)⟩

def catalogSettings (c : Config) : List (String × Setting) :=
  (c.catalogPath.map fun p => ("path", Setting.text p)).toList ++ [("verify", .bool c.verify)]

def reportSettings (c : Config) : List (String × Setting) :=
  [("output_format", .text (Vocabulary.word c.outputFormat))]

def settings (c : Config) : List (String × Setting) :=
  [("catalog", .table c.catalogSettings), ("report", .table c.reportSettings)]

def pathLine (c : Config) : String :=
  match c.catalogPath with
  | none => ""
  | some p => "path = " ++ Toml.quoted p ++ "\n"

def text (c : Config) : String :=
  "[catalog]\n" ++ c.pathLine ++ "verify = " ++ (if c.verify then "true" else "false") ++
    "\n\n[report]\noutput_format = " ++ Toml.quoted (Vocabulary.word c.outputFormat) ++ "\n"

end Config

end DocSections
