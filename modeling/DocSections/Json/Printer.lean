import DocSections.Json.Basic
import DocSections.Text.Digits

/-! Writing JSON values: on one line without blanks, or over several lines indented by two blanks.
Only the quote, the backslash and the characters below U+0020 are escaped. -/

namespace DocSections

def Number.written : Number → String
  | .int n => toString n
  | .float d => d.written

namespace Json

def escape (c : Char) : List Char :=
  if c = '"' then ['\\', '"']
  else if c = '\\' then ['\\', '\\']
  else if 0x20 ≤ c.toNat then [c]
  else if c.toNat = 0x08 then ['\\', 'b']
  else if c.toNat = 0x09 then ['\\', 't']
  else if c.toNat = 0x0A then ['\\', 'n']
  else if c.toNat = 0x0C then ['\\', 'f']
  else if c.toNat = 0x0D then ['\\', 'r']
  else ['\\', 'u', '0', '0', Text.hexDigit (c.toNat / 16), Text.hexDigit (c.toNat % 16)]

def quoted (s : String) : String := "\"" ++ String.ofList (s.toList.flatMap escape) ++ "\""

mutual

def compact : Json → String
  | null => "null"
  | bool b => if b then "true" else "false"
  | num n => n.written
  | str s => quoted s
  | arr items => "[" ++ ",".intercalate (compactItems items) ++ "]"
  | obj members => "\x7b" ++ ",".intercalate (compactMembers members) ++ "\x7d"

def compactItems : List Json → List String
  | [] => []
  | item :: rest => item.compact :: compactItems rest

def compactMembers : List (String × Json) → List String
  | [] => []
  | (key, value) :: rest => (quoted key ++ ":" ++ value.compact) :: compactMembers rest

end

/-- Encloses items, each on a line of its own; no items stay on the line. -/
def block (opening closing indent : String) (items : List String) : String :=
  if items = [] then opening ++ closing
  else
    opening ++ "\n" ++ ",\n".intercalate (items.map fun i => indent ++ "  " ++ i) ++
      "\n" ++ indent ++ closing

mutual

def prettyAt (indent : String) : Json → String
  | null => "null"
  | bool b => if b then "true" else "false"
  | num n => n.written
  | str s => quoted s
  | arr items => block "[" "]" indent (prettyItems (indent ++ "  ") items)
  | obj members => block "\x7b" "\x7d" indent (prettyMembers (indent ++ "  ") members)

def prettyItems (indent : String) : List Json → List String
  | [] => []
  | item :: rest => item.prettyAt indent :: prettyItems indent rest

def prettyMembers (indent : String) : List (String × Json) → List String
  | [] => []
  | (key, value) :: rest =>
    (quoted key ++ ": " ++ value.prettyAt indent) :: prettyMembers indent rest

end

def pretty (value : Json) : String := value.prettyAt ""

example : compact (ofMembers [("b", arr []), ("a", str "é\n\x01")]) =
    "\x7b\"a\":\"é\\n\\u0001\",\"b\":[]\x7d" := by decide +kernel
example : pretty (arr [obj []]) = "[\n  \x7b\x7d\n]" := by decide +kernel

end Json

end DocSections
