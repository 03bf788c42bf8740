import DocSections.OrderedMap
import DocSections.Setting.Basic
import DocSections.Yaml.Source

/-! The nodes of a YAML document. Plain scalars are understood by their form, those with a tag of
the core types by the tag, and all others are texts. -/

namespace DocSections.Yaml

inductive Node where
  | absent
  | bool (value : Bool)
  | int (value : Int)
  | float (written : String)
  | text (value : String)
  | sequence (items : List Node)
  | mapping (entries : List (Node × Node))

def wholeIn? (base : Nat) (cs : List Char) : Option Int :=
  let (negative, ds) := Text.unsign cs
  let n := Text.signed negative (Text.numberOf base (ds.map Text.digitValue))
  if ds ≠ [] ∧ ds.all (Text.isDigitOf base) ∧ Setting.fits64 n then some n else none

def markedInteger? : List Char → Option Int
  | '0' :: 'x' :: rest => wholeIn? 16 rest
  | '0' :: 'o' :: rest => wholeIn? 8 rest
  | '+' :: rest => Setting.integer? rest
  | _ => none

def floatWords : List String :=
  [".inf", ".Inf", ".INF", "+.inf", "+.Inf", "+.INF", "-.inf", "-.Inf", "-.INF", ".nan", "NaN",
    ".NAN"]

def isFloat (s : String) : Bool := floatWords.contains s || (Floating.ofNumeral? s.toList).isSome

namespace Node

def ofPlain (s : String) : Node :=
  match markedInteger? s.toList with
  | some n => int n
  | none =>
    if ["", "~", "null"].contains s then absent
    else if s = "true" then bool true
    else if s = "false" then bool false
    else
      match Setting.integer? s.toList with
      | some n => int n
      | none => if isFloat s then float s else text s

def coreTags : String := "tag:yaml.org,2002:"

/-- What a plain scalar with a tag stands for; it is absent where it is not of the tagged type. -/
def ofTagged (tagPrefix suffix s : String) : Node :=
  if tagPrefix ≠ coreTags then text s
  else if suffix = "bool" then
    if s = "true" then bool true else if s = "false" then bool false else absent
  else if suffix = "int" then (Setting.integer? s.toList).elim absent int
  else if suffix = "float" then if isFloat s then float s else absent
  else if suffix = "null" then absent
  else text s

mutual

def told : Node → String
  | absent => "Null"
  | bool b => "Boolean(" ++ (if b then "true" else "false") ++ ")"
  | int n => "Integer(" ++ toString n ++ ")"
  | float s => "Real(" ++ Text.quoted s ++ ")"
  | text s => "String(" ++ Text.quoted s ++ ")"
  | sequence items => "Array([" ++ ", ".intercalate (toldItems items) ++ "])"
  | mapping entries => "Hash(\x7b" ++ ", ".intercalate (toldEntries entries) ++ "\x7d)"

def toldItems : List Node → List String
  | [] => []
  | item :: rest => item.told :: toldItems rest

def toldEntries : List (Node × Node) → List String
  | [] => []
  | (key, value) :: rest => (key.told ++ ": " ++ value.told) :: toldEntries rest

end

def floatOf (written : String) : Except Fault Setting :=
  if written = "NaN" then .ok (.float .notANumber)
  else
    match Floating.ofNumeral? written.toList with
    | some f => .ok (.float f)
    | none => .error ⟨"Parsing " ++ written ++ " as floating point number failed", none⟩

def key : Node → Except Fault String
  | text s => .ok s
  | int n => .ok (toString n)
  | _ => .error ⟨"keys of mappings are texts or whole numbers", none⟩

mutual

def setting : Node → Except Fault Setting
  | absent => .ok .unset
  | bool b => .ok (.bool b)
  | int n => .ok (.int n)
  | float s => floatOf s
  | text s => .ok (.text s)
  | sequence items => do .ok (.list (← settings items))
  | mapping entries => do .ok (.table (Assoc.ofPairs (← settingEntries entries)))

def settings : List Node → Except Fault (List Setting)
  | [] => .ok []
  | item :: rest => do .ok ((← item.setting) :: (← settings rest))

def settingEntries : List (Node × Node) → Except Fault (List (String × Setting))
  | [] => .ok []
  | (key, value) :: rest => do
    .ok ((← key.key, ← value.setting) :: (← settingEntries rest))

end

end Node

end DocSections.Yaml
