import DocSections.Json.Source

/-! Content: JSON values with ascending keys in every object, so that equal content is written in
one way. Sorting the keys makes any value canonical and leaves canonical values alone. -/

namespace DocSections

namespace Json

mutual

/-- The same value with ascending keys; the last of repeated keys wins. -/
def sortKeys : Json → Json
  | arr items => arr (sortItems items)
  | obj members => ofMembers (sortMembers members)
  | value => value

def sortItems : List Json → List Json
  | [] => []
  | item :: rest => item.sortKeys :: sortItems rest

def sortMembers : List (String × Json) → List (String × Json)
  | [] => []
  | (key, value) :: rest => (key, value.sortKeys) :: sortMembers rest

end

theorem canonical_ofMembers {members : List (String × Json)} (h : CanonicalMembers members) :
    (ofMembers members).Canonical :=
  ⟨Assoc.ofPairs_ascending members, canonicalMembers_iff.mpr fun m hm =>
    canonicalMembers_iff.mp h m (Assoc.mem_ofPairs hm)⟩

mutual

theorem canonical_sortKeys : (j : Json) → j.sortKeys.Canonical
  | null => trivial
  | bool _ => trivial
  | num _ => trivial
  | str _ => trivial
  | arr items => canonical_sortItems items
  | obj members => canonical_ofMembers (canonical_sortMembers members)

theorem canonical_sortItems : (items : List Json) → CanonicalItems (sortItems items)
  | [] => trivial
  | item :: rest => ⟨canonical_sortKeys item, canonical_sortItems rest⟩

theorem canonical_sortMembers :
    (members : List (String × Json)) → CanonicalMembers (sortMembers members)
  | [] => trivial
  | (_, value) :: rest => ⟨canonical_sortKeys value, canonical_sortMembers rest⟩

end

mutual

theorem sortKeys_of_canonical : {j : Json} → j.Canonical → j.sortKeys = j
  | null, _ => rfl
  | bool _, _ => rfl
  | num _, _ => rfl
  | str _, _ => rfl
  | arr _, h => congrArg arr (sortItems_of_canonical h)
  | obj members, h => by
    rw [sortKeys, sortMembers_of_canonical h.2, ofMembers, Assoc.ofPairs_of_ascending h.1]

theorem sortItems_of_canonical : {items : List Json} → CanonicalItems items →
    sortItems items = items
  | [], _ => rfl
  | _ :: _, h => by rw [sortItems, sortKeys_of_canonical h.1, sortItems_of_canonical h.2]

theorem sortMembers_of_canonical : {members : List (String × Json)} → CanonicalMembers members →
    sortMembers members = members
  | [], _ => rfl
  | (_, _) :: _, h => by
    rw [sortMembers, sortKeys_of_canonical h.1, sortMembers_of_canonical h.2]

end

end Json

mutual

theorem Source.value?_ofJson : (j : Json) → (Source.ofJson j).value? = some j.sortKeys
  | .null => rfl
  | .bool _ => rfl
  | .num _ => rfl
  | .str _ => rfl
  | .arr items => by simp [Source.ofJson, Source.value?, values?_ofItems items, Json.sortKeys]
  | .obj members => by
    simp [Source.ofJson, Source.value?, memberValues?_ofMembers members, Json.sortKeys]

theorem Source.values?_ofItems :
    (items : List Json) → values? (ofItems items) = some (Json.sortItems items)
  | [] => rfl
  | item :: rest => by
    simp [Source.ofItems, Source.values?, value?_ofJson item, values?_ofItems rest, Json.sortItems]

theorem Source.memberValues?_ofMembers : (members : List (String × Json)) →
    memberValues? (ofMembers members) = some (Json.sortMembers members)
  | [] => rfl
  | (_, value) :: rest => by
    simp [Source.ofMembers, Source.memberValues?, value?_ofJson value,
      memberValues?_ofMembers rest, Json.sortMembers]

end

structure Content where
  json : Json
  canonical : json.Canonical

namespace Content

def of (j : Json) : Content := ⟨j.sortKeys, j.canonical_sortKeys⟩

instance : DecidableEq Content := fun a b =>
  decidable_of_iff (a.json = b.json) (by cases a; cases b; simp)

def ofSource? (s : Source) : Option Content := s.value?.map of

theorem of_json (c : Content) : of c.json = c := by
  cases c with
  | mk j h => simp [of, Json.sortKeys_of_canonical h]

@[simp] theorem ofSource?_ofJson (c : Content) : ofSource? (.ofJson c.json) = some c := by
  rw [ofSource?, Source.value?_ofJson, Json.sortKeys_of_canonical c.canonical, Option.map_some,
    of_json]

end Content

end DocSections
