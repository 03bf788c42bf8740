import DocSections.Decimal.Floating
import DocSections.Json.Basic
import DocSections.OrderedMap
import DocSections.Text.Digits
import DocSections.Text.LetterCase
import DocSections.Text.Quoted

/-! Settings: the values of configuration files and variables, whatever format they are written in,
where they come from, and what they count as where a boolean or a text is wanted. -/

namespace DocSections

inductive Scalar where
  | unset
  | bool (value : Bool)
  | int (value : Int)
  | float (value : Floating)
  | text (value : String)
deriving DecidableEq, Repr

namespace Scalar

def bool? : Scalar → Option Bool
  | unset => none
  | bool b => some b
  | int n => some (n != 0)
  | float f => some !f.isZero
  | text s =>
    let word := String.ofList (Text.lower s.toList)
    if ["1", "true", "on", "yes"].contains word then some true
    else if ["0", "false", "off", "no"].contains word then some false
    else none

def text? : Scalar → Option String
  | unset => none
  | bool b => some (if b then "true" else "false")
  | int n => some (toString n)
  | float f => some f.text
  | text s => some s

/-- What a scalar is, in words; a float shows that it is one. -/
def described : Scalar → String
  | unset => "unit value"
  | bool b => "boolean \x60" ++ (if b then "true" else "false") ++ "\x60"
  | int n => "integer \x60" ++ toString n ++ "\x60"
  | float (.finite d) => "floating point \x60" ++ d.positional ".0" ++ "\x60"
  | float f => "floating point \x60" ++ f.text ++ "\x60"
  | text s => "string " ++ Text.quoted s

end Scalar

/-- A setting, with the name of the source that it comes from. A table that was put together key by
key comes from no one source. -/
inductive Setting where
  | scalar (value : Scalar) (origin : Option String := none)
  | list (items : List Setting) (origin : Option String := none)
  | table (entries : List (String × Setting)) (origin : Option String := none)

namespace Setting

def unset : Setting := scalar .unset
def bool (value : Bool) : Setting := scalar (.bool value)
def int (value : Int) : Setting := scalar (.int value)
def float (value : Floating) : Setting := scalar (.float value)
def text (value : String) : Setting := scalar (.text value)

instance : Inhabited Setting := ⟨unset⟩

def fits64 (n : Int) : Bool := -0x8000000000000000 ≤ n && n < 0x8000000000000000

def integer? (cs : List Char) : Option Int := do
  let (negative, ds) := Text.unsign cs
  let n := Text.signed negative (← Text.natural? ds)
  if fits64 n then some n else none

/-- Whole numbers of more than 64 bits, the sign among them, become floats. -/
def ofInt (n : Int) : Setting :=
  if fits64 n then int n else float (.ofDecimal (n < 0) n.natAbs 0)

def ofNumber : Number → Setting
  | .int n => ofInt n
  | .float d => float (.finite d)

mutual

def ofJson : Json → Setting
  | .null => unset
  | .bool b => bool b
  | .num n => ofNumber n
  | .str s => text s
  | .arr items => list (ofItems items)
  | .obj members => table (ofMembers members)

def ofItems : List Json → List Setting
  | [] => []
  | item :: rest => ofJson item :: ofItems rest

def ofMembers : List (String × Json) → List (String × Setting)
  | [] => []
  | (key, value) :: rest => (key, ofJson value) :: ofMembers rest

end

mutual

def withOrigin (source : String) : Setting → Setting
  | scalar value _ => scalar value (some source)
  | list items _ => list (itemsWithOrigin source items) (some source)
  | table entries _ => table (entriesWithOrigin source entries) (some source)

def itemsWithOrigin (source : String) : List Setting → List Setting
  | [] => []
  | item :: rest => item.withOrigin source :: itemsWithOrigin source rest

def entriesWithOrigin (source : String) : List (String × Setting) → List (String × Setting)
  | [] => []
  | (key, s) :: rest => (key, s.withOrigin source) :: entriesWithOrigin source rest

end

def origin : Setting → Option String
  | scalar _ origin => origin
  | list _ origin => origin
  | table _ origin => origin

def entries : Setting → List (String × Setting)
  | table entries _ => entries
  | _ => []

def described : Setting → String
  | scalar value _ => value.described
  | list _ _ => "sequence"
  | table _ _ => "map"

def describedWhole : Setting → String
  | scalar (.int n) _ => "64-bit integer \x60" ++ toString n ++ "\x60"
  | scalar (.float f) _ => "floating point \x60" ++ f.text ++ "\x60"
  | s => s.described

end Setting

end DocSections
