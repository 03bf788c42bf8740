import DocSections.Setting.Basic
import DocSections.Text.Digits

/-! Laying settings over each other. Keys are in lower case; tables are merged key by key, and all
other settings replace what was there. -/

namespace DocSections

/-- A step into a setting: to the entry of a table or the item of a list. Items are counted from the
end when the number is negative. -/
inductive SettingStep where
  | entry (key : String)
  | item (i : Int)
deriving DecidableEq, Repr

namespace SettingPath

/-- Where the reader of a key stands. Characters are gathered in reverse order. -/
inductive Reading where
  | name (chars : List Char)
  | index (chars : List Char)
  | afterIndex

def isNameChar (c : Char) : Bool := c.isAlphanum || " _-".toList.contains c

def nameStep? (steps : List SettingStep) (chars : List Char) : Option (List SettingStep) :=
  if chars = [] then none else some (.entry (String.ofList chars.reverse) :: steps)

def isGap (c : Char) : Bool := c == ' ' || c == '\t'

def index? (chars : List Char) : Option Int := do
  let cs := ((chars.dropWhile isGap).reverse.dropWhile isGap).reverse
  let n : Int ← match cs with
    | '-' :: ds => (Text.natural? ds).map fun (n : Nat) => -(n : Int)
    | _ => (Text.natural? cs).map fun (n : Nat) => (n : Int)
  if Setting.fits64 n then some n else none

def step? (steps : List SettingStep) (c : Char) : Reading → Option (List SettingStep × Reading)
  | .name chars =>
    if isNameChar c then some (steps, .name (c :: chars))
    else if c = '.' then (nameStep? steps chars).map (·, .name [])
    else if c = '[' then (nameStep? steps chars).map (·, .index [])
    else none
  | .index chars =>
    if c = ']' then (index? chars.reverse).map fun i => (.item i :: steps, .afterIndex)
    else some (steps, .index (c :: chars))
  | .afterIndex =>
    if c = '.' then some (steps, .name [])
    else if c = '[' then some (steps, .index [])
    else none

def steps? (key : String) : Option (List SettingStep) := do
  let (steps, reading) ← key.toList.foldlM (fun s c => step? s.1 c s.2) ([], Reading.name [])
  match reading with
  | .name chars => (nameStep? steps chars).map List.reverse
  | .index _ => none
  | .afterIndex => some steps.reverse

/-- The steps of a key; one that is not well formed is a plain name. -/
def ofKey (key : String) : List SettingStep := (steps? key).getD [.entry key]

example : ofKey "a.b[10].c" = [.entry "a", .entry "b", .item 10, .entry "c"] := by decide +kernel
example : ofKey "a[ -1 ]" = [.entry "a", .item (-1)] := by decide +kernel
example : ofKey "a..b" = [.entry "a..b"] := by decide +kernel
example : ofKey "a[- 1]" = [.entry "a[- 1]"] := by decide +kernel

end SettingPath

namespace Setting

def keyOf (name : String) : String := String.ofList (Text.lower name.toList)

/-- The entries of a table and its origin; what is no table gives place to an empty one. -/
def asTable : Setting → List (String × Setting) × Option String
  | table entries origin => (entries, origin)
  | _ => ([], none)

/-- The items of a list and its origin; what is no list gives place to an empty one. -/
def asList : Setting → List Setting × Option String
  | list items origin => (items, origin)
  | _ => ([], none)

mutual

def overlay : Setting → Option Setting → Setting
  | table entries _, below => overlayEntries entries (below.getD (table []))
  | setting, _ => setting

def overlayEntries : List (String × Setting) → Setting → Setting
  | [], below => below
  | (key, setting) :: rest, below =>
    let (entries, origin) := below.asTable
    let k := keyOf key
    overlayEntries rest
      (table (Assoc.insert k (setting.overlay (Assoc.find? k entries)) entries) origin)

end

def sizeLimit : Nat := 0x100000

/-- The place of the item with a number, which may lie behind the last one. -/
def place (i : Int) (size : Nat) : Nat :=
  min (if i < 0 then size - i.natAbs else i.toNat) sizeLimit

/-- Puts an item at a place; unset items fill the gap. -/
def setItem (i : Nat) (item : Setting) (items : List Setting) : List Setting :=
  (items ++ List.replicate (i + 1 - items.length) unset).set i item

/-- Lays a setting over the place that the steps lead to. What stands in the way gives place to the
tables and lists that the steps go through. -/
def putAt (setting : Setting) : List SettingStep → Setting → Setting
  | [], _ => setting
  | [.entry key], below => overlayEntries [(key, setting)] below
  | .entry key :: steps, below =>
    let (entries, origin) := below.asTable
    let k := keyOf key
    table (Assoc.insert k (putAt setting steps ((Assoc.find? k entries).getD unset)) entries) origin
  | .item i :: steps, below =>
    let (items, origin) := below.asList
    let p := place i items.length
    list (setItem p (putAt setting steps (items[p]?.getD unset)) items) origin

def withLayer (below : Setting) (entries : List (String × Setting)) : Setting :=
  entries.foldl (fun s e => putAt e.2 (SettingPath.ofKey e.1) s) below

end Setting

end DocSections
