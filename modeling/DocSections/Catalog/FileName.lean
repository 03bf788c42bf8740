import DocSections.FileTree
import DocSections.Text.Digits

/-! Names of family files: the number of the family, a slug of words joined by hyphens, and the
extension `json`. -/

namespace DocSections

namespace FamilyFileName

def isSlugChar (c : Char) : Bool := c.isDigit || c.isLower

/-- The number that a run of digits spells, if it is below 2³². -/
def number? (digits : List Char) : Option UInt32 :=
  ((Text.natural? digits).filter (· < UInt32.size)).map .ofNat

def isSlugWord (word : List Char) : Bool := word != [] && word.all isSlugChar

def withoutExtension? (name : List Char) : Option (List Char) :=
  if ".json".toList.isSuffixOf name then some (name.take (name.length - 5)) else none

def familyNumber? (name : String) : Option UInt32 := do
  match Text.split '-' (← withoutExtension? name.toList) with
  | digits :: word :: words => if (word :: words).all isSlugWord then number? digits else none
  | _ => none

example : familyNumber? "007-a-b2.json" = some 7 := by decide +kernel
example : familyNumber? "7-a--b.json" = none := by decide +kernel
example : familyNumber? "4294967296-a.json" = none := by decide +kernel

end FamilyFileName

end DocSections
