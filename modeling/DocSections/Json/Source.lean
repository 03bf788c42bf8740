import DocSections.Json.Basic

/-! JSON as it stands in a text: members keep their order and their repetitions, and a place may be
well written without denoting a value. -/

namespace DocSections

/-- A tree read from a text. `unreadable` is a string with half a surrogate pair, a numeral beyond
the greatest float, or an array or object nested too deep; a key with half a pair is `none`. -/
inductive Source where
  | unreadable
  | null
  | bool (value : Bool)
  | num (value : Number)
  | str (value : String)
  | arr (items : List Source)
  | obj (members : List (Option String × Source))

namespace Source

mutual

/-- The value that is written, if every part of it can be read. The last of repeated keys wins. -/
def value? : Source → Option Json
  | unreadable => none
  | null => some .null
  | bool b => some (.bool b)
  | num n => some (.num n)
  | str s => some (.str s)
  | arr items => (values? items).map .arr
  | obj members => (memberValues? members).map .ofMembers

def values? : List Source → Option (List Json)
  | [] => some []
  | item :: rest => do some ((← item.value?) :: (← values? rest))

def memberValues? : List (Option String × Source) → Option (List (String × Json))
  | [] => some []
  | (key, item) :: rest => do some ((← key, ← item.value?) :: (← memberValues? rest))

end

mutual

def ofJson : Json → Source
  | .null => null
  | .bool b => bool b
  | .num n => num n
  | .str s => str s
  | .arr items => arr (ofItems items)
  | .obj members => obj (ofMembers members)

def ofItems : List Json → List Source
  | [] => []
  | item :: rest => ofJson item :: ofItems rest

def ofMembers : List (String × Json) → List (Option String × Source)
  | [] => []
  | (key, value) :: rest => (some key, ofJson value) :: ofMembers rest

end

theorem ofMembers_eq_map (members : List (String × Json)) :
    ofMembers members = members.map fun m => (some m.1, ofJson m.2) := by
  induction members with
  | nil => rfl
  | cons m rest ih => rw [ofMembers, ih, List.map_cons]

theorem ofItems_eq_map (items : List Json) : ofItems items = items.map ofJson := by
  induction items with
  | nil => rfl
  | cons item rest ih => rw [ofItems, ih, List.map_cons]

/-- The values of a record's fields, in the order of `names`: from an object, in which other members
do not matter and no field is given twice, or from an array with one item for each of the first
fields. -/
def fields? (names : List String) : Source → Option (List (Option Source))
  | obj members =>
    if members.any (·.1.isNone) then none
    else names.mapM fun name =>
      match members.filter (·.1 == some name) with
      | [] => some none
      | [(_, item)] => some (some item)
      | _ => none
  | arr items =>
    if items.length ≤ names.length then
      some (items.map some ++ List.replicate (names.length - items.length) none)
    else none
  | _ => none

def str? : Source → Option String
  | str s => some s
  | _ => none

def bool? : Source → Option Bool
  | bool b => some b
  | _ => none

def natBelow? (bound : Nat) : Source → Option Nat
  | num (.int (.ofNat n)) => if n < bound then some n else none
  | _ => none

/-- A word from a closed set: as a string, or as the only key of an object that holds `null`. -/
def word? : Source → Option String
  | str s => some s
  | obj [(some key, null)] => some key
  | _ => none

def list? {α : Type} (read? : Source → Option α) : Source → Option (List α)
  | arr items => items.mapM read?
  | _ => none

/-- An optional field: absent and `null` both leave it unset. -/
def optional? {α : Type} (read? : Source → Option α) : Option Source → Option (Option α)
  | none => some none
  | some null => some none
  | some item => (read? item).map some

def withDefault? {α : Type} (default : α) (read? : Source → Option α) :
    Option Source → Option α
  | none => some default
  | some item => read? item

end Source

end DocSections
