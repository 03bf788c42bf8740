import DocSections.Setting.Basic
import DocSections.Text.Digits
import DocSections.Text.Runs

/-! Environment variables as a source of settings: `DOC_SCHEMAS__A__B` gives the setting `a.b`. -/

namespace DocSections

abbrev Environment := List (String × String)

namespace Environment

/-- What begins the names of variables that give settings, in lower case. -/
def marker : String := "doc_schemas__"

def pointed : List Char → List Char
  | '_' :: '_' :: rest => '.' :: pointed rest
  | c :: rest => c :: pointed rest
  | [] => []

/-- The key of the setting that a variable gives; letters may be in either case. -/
def settingKey? (name : String) : Option String :=
  let cs := Text.lower name.toList
  if marker.toList.isPrefixOf cs then some (String.ofList (pointed (cs.drop marker.length)))
  else none

def float? (cs : List Char) : Option Floating :=
  let (negative, rest) := Text.unsign cs
  let word := (String.ofList rest).toLower
  if word = "inf" ∨ word = "infinity" then some (.infinite negative)
  else if word = "nan" then some .notANumber
  else Floating.ofNumeral? cs

/-- The setting that the value of a variable spells: a boolean, a number, or else a text. -/
def settingOf (value : String) : Setting :=
  if value.toLower = "true" then .bool true
  else if value.toLower = "false" then .bool false
  else
    match Setting.integer? value.toList with
    | some n => .int n
    | none =>
      match float? value.toList with
      | some f => .float f
      | none => .text value

def settings (e : Environment) : List (String × Setting) :=
  e.filterMap fun v => (settingKey? v.1).map (·, settingOf v.2)

def get? (e : Environment) (name : String) : Option String := e.lookup name

end Environment

end DocSections
