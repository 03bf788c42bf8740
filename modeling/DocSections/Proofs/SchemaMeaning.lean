import DocSections.Proofs.Lookup
import DocSections.Proofs.Pattern

/-! What a schema document of draft 07 says of a value, for the keywords that exports use and the
kinds of arguments that they give them. -/

namespace DocSections

namespace JsonSchema

inductive Keyword where
  | type
  | enum
  | minLength
  | pattern
  | minItems
  | items
  | minProperties
  | properties
  | required
  | additionalProperties
deriving DecidableEq, Repr

instance : Vocabulary Keyword where
  values := [.type, .enum, .minLength, .pattern, .minItems, .items, .minProperties, .properties,
    .required, .additionalProperties]
  word
    | .type => "type"
    | .enum => "enum"
    | .minLength => "minLength"
    | .pattern => "pattern"
    | .minItems => "minItems"
    | .items => "items"
    | .minProperties => "minProperties"
    | .properties => "properties"
    | .required => "required"
    | .additionalProperties => "additionalProperties"
  find?_word a := by cases a <;> decide

def describedKeys (schema : List (String × Json)) : List String :=
  match Assoc.find? (Vocabulary.word Keyword.properties) schema with
  | some (.obj properties) => properties.map Prod.fst
  | _ => []

/-- What a keyword with an argument says of a value. `valid` is validity under the argument as a
schema, `membersValid` that of members under the schemas that the argument has for their keys, and
`described` are the keys that the properties next to the keyword describe. A keyword says nothing of
values of a type that it is not about. The types are the kinds of JSON values, among which whole
numbers are none of their own. -/
def Keyword.Holds (described : List String) (valid : Json → Prop)
    (membersValid : List (String × Json) → Prop) : Keyword → Json → Json → Prop
  | type, .str name, value => value.typeName = name
  | enum, .arr values, value => value ∈ values
  | minLength, .num (.int n), .str s => n ≤ s.length
  | pattern, .str p, .str s =>
    ∃ pattern, Pattern.ofText? p = some pattern ∧ pattern.FoundIn Text.isBlank s.toList
  | minItems, .num (.int n), .arr values => n ≤ values.length
  | items, _, .arr values => ∀ value ∈ values, valid value
  | minProperties, .num (.int n), .obj members => n ≤ members.length
  | properties, _, .obj members => membersValid members
  | required, .arr keys, .obj members => ∀ key ∈ keys, key ∈ members.map fun m => .str m.1
  | additionalProperties, _, .obj members => ∀ m ∈ members, m.1 ∉ described → valid m.2
  | _, _, _ => True

mutual

/-- Whether a value is valid under a schema: all keywords of the schema hold. Members of a schema
that are no keywords say nothing. -/
def Valid : Json → Json → Prop
  | .bool b, _ => b = true
  | .obj schema, value => AllHold (describedKeys schema) schema value
  | _, _ => False

def AllHold (described : List String) : List (String × Json) → Json → Prop
  | [], _ => True
  | (name, argument) :: rest, value =>
    (∀ keyword : Keyword, Vocabulary.ofWord? name = some keyword →
      keyword.Holds described (fun v => Valid argument v) (fun ms => MembersValid argument ms)
        argument value) ∧
    AllHold described rest value

/-- Whether members are valid under the schemas that an object has for their keys. -/
def MembersValid : Json → List (String × Json) → Prop
  | .obj schemas, members => EachValid schemas members
  | _, _ => True

def EachValid : List (String × Json) → List (String × Json) → Prop
  | [], _ => True
  | (key, schema) :: rest, members =>
    (∀ m ∈ members, m.1 = key → Valid schema m.2) ∧ EachValid rest members

end

theorem allHold_iff {described : List String} {schema : List (String × Json)} {value : Json} :
    AllHold described schema value ↔ ∀ e ∈ schema, ∀ k : Keyword, Vocabulary.ofWord? e.1 = some k →
      k.Holds described (Valid e.2) (MembersValid e.2) e.2 value := by
  induction schema with
  | nil => simp [AllHold]
  | cons e rest ih => rw [AllHold, ih, List.forall_mem_cons]

theorem eachValid_iff {schemas members : List (String × Json)} :
    EachValid schemas members ↔ ∀ p ∈ schemas, ∀ m ∈ members, m.1 = p.1 → Valid p.2 m.2 := by
  induction schemas with
  | nil => simp [EachValid]
  | cons p rest ih => rw [EachValid, ih, List.forall_mem_cons]

/-- A schema says what its keywords say with the arguments that are found at them. -/
theorem valid_obj_iff {schema : List (String × Json)} (h : Assoc.Ascending schema) {value : Json} :
    Valid (.obj schema) value ↔
      ∀ (k : Keyword) (argument : Json), Assoc.find? (Vocabulary.word k) schema = some argument →
        k.Holds (describedKeys schema) (Valid argument) (MembersValid argument) argument value := by
  rw [Valid, allHold_iff]
  constructor
  · intro hall k argument hfind
    exact hall (Vocabulary.word k, argument) (Assoc.mem_of_find? hfind) k
      (Vocabulary.ofWord?_word k)
  · rintro hall ⟨name, argument⟩ he k hk
    obtain rfl := Vocabulary.word_of_ofWord? hk
    exact hall k argument ((Assoc.mem_iff_find? h).mp he)

/-- Other members than keywords say nothing. -/
theorem valid_insert_iff {name : String} (hname : Vocabulary.ofWord? (α := Keyword) name = none)
    {schema : List (String × Json)} (h : Assoc.Ascending schema) {argument value : Json} :
    Valid (.obj (Assoc.insert name argument schema)) value ↔ Valid (.obj schema) value := by
  have hfind : ∀ k : Keyword, Assoc.find? (Vocabulary.word k) (Assoc.insert name argument schema) =
      Assoc.find? (Vocabulary.word k) schema := by
    intro k
    refine Assoc.find?_insert_of_ne ?_ argument schema
    rintro rfl
    rw [Vocabulary.ofWord?_word] at hname
    cases hname
  rw [valid_obj_iff (Assoc.insert_ascending name argument h), valid_obj_iff h]
  simp only [describedKeys, hfind]

def ofKeywords (es : List (Keyword × Json)) : Json :=
  .ofMembers (es.map fun e => (Vocabulary.word e.1, e.2))

def described (es : List (Keyword × Json)) : List String :=
  describedKeys (Assoc.ofPairs (es.map fun e => (Vocabulary.word e.1, e.2)))

section

variable {es : List (Keyword × Json)} (h : (es.map Prod.fst).Nodup)

include h

theorem find?_word_eq_some_iff {k : Keyword} {argument : Json} :
    Assoc.find? (Vocabulary.word k)
        (Assoc.ofPairs (es.map fun e => (Vocabulary.word e.1, e.2))) = some argument ↔
      (k, argument) ∈ es := by
  have hwords : ((es.map fun e => (Vocabulary.word e.1, e.2)).map Prod.fst).Nodup := by
    have hmap := h.map (f := Vocabulary.word) fun _ _ => Vocabulary.word_injective
    rwa [List.map_map] at hmap ⊢
  rw [← Assoc.mem_iff_find? (Assoc.ofPairs_ascending _), Assoc.mem_ofPairs_iff hwords,
    List.mem_map]
  constructor
  · rintro ⟨e, he, heq⟩
    obtain ⟨hword, rfl⟩ := Prod.mk.inj heq
    rwa [← Vocabulary.word_injective hword]
  · intro he
    exact ⟨_, he, rfl⟩

theorem valid_ofKeywords_iff {value : Json} : Valid (ofKeywords es) value ↔
    ∀ e ∈ es, e.1.Holds (described es) (Valid e.2) (MembersValid e.2) e.2 value := by
  rw [ofKeywords, Json.ofMembers, valid_obj_iff (Assoc.ofPairs_ascending _)]
  simp only [find?_word_eq_some_iff h, Prod.forall, described]

theorem described_eq {properties : List (String × Json)}
    (hp : (.properties, .obj properties) ∈ es) : described es = properties.map Prod.fst := by
  rw [described, describedKeys, (find?_word_eq_some_iff h).mpr hp]

end

/-- Members have to be as the properties say if each key is described once. -/
theorem membersValid_ofMembers_iff {schemas members : List (String × Json)}
    (h : (schemas.map Prod.fst).Nodup) : MembersValid (.ofMembers schemas) members ↔
      ∀ p ∈ schemas, ∀ m ∈ members, m.1 = p.1 → Valid p.2 m.2 := by
  rw [Json.ofMembers, MembersValid, eachValid_iff]
  simp only [Assoc.mem_ofPairs_iff h]

end JsonSchema

end DocSections
