import DocSections.Proofs.Conformance
import DocSections.Proofs.SchemaMeaning
import DocSections.Proofs.Success

/-! The exported schema document of a shape accepts what the shape accepts, if no record in the
shape declares a key twice and every diagram in it has a kind. The shapes of the built-in factories
are like that, and composition makes no record with a key twice. -/

namespace DocSections

namespace Shape

open JsonSchema

mutual

/-- Whether the schema document of a shape says the same as the shape. -/
def isExportable : Shape → Bool
  | list item => item.isExportable
  | record fields => decide (fields.map Prod.fst).Nodup && areExportable fields
  | diagramOrText kinds => !kinds.isEmpty
  | optional inner => inner.isExportable
  | text | oneOf _ | anyObject => true

def areExportable : List (String × Shape) → Bool
  | [] => true
  | (_, shape) :: rest => shape.isExportable && areExportable rest

end

theorem areExportable_iff {fields : List Field} :
    areExportable fields = true ↔ ∀ f ∈ fields, f.2.isExportable = true := by
  induction fields with
  | nil => simp [areExportable]
  | cons f rest ih => rw [areExportable, Bool.and_eq_true, ih, List.forall_mem_cons]

theorem isExportable_record_iff {fields : List Field} : (record fields).isExportable = true ↔
    (fields.map Prod.fst).Nodup ∧ ∀ f ∈ fields, f.2.isExportable = true := by
  rw [isExportable, Bool.and_eq_true, decide_eq_true_iff, areExportable_iff]

theorem isExportable_orAbsent (shape : Shape) :
    shape.orAbsent.isExportable = shape.isExportable := by
  unfold orAbsent
  split_ifs
  · rfl
  · rw [isExportable]

theorem fieldSchemas_eq_map (fields : List Field) :
    fieldSchemas fields = fields.map fun f => (f.1, f.2.toJsonSchema) := by
  induction fields with
  | nil => rfl
  | cons f rest ih => rw [fieldSchemas, ih, List.map_cons]

theorem fieldsConform_iff {fields : List Field} {members : List (String × Json)} :
    FieldsConform fields members ↔
      ∀ f ∈ fields, MemberIs f.1 f.2.isOptional f.2.Conforms members := by
  induction fields with
  | nil => simp [FieldsConform]
  | cons f rest ih => rw [FieldsConform, ih, List.forall_mem_cons]

/-- Where no key is repeated, the member at a key is each of the members with the key. -/
theorem memberIs_iff {key : String} {mayLack : Bool} {p : Json → Prop}
    {members : List (String × Json)} (hm : Assoc.Ascending members) :
    MemberIs key mayLack p members ↔
      (∀ m ∈ members, m.1 = key → p m.2) ∧ (mayLack = true ∨ key ∈ members.map Prod.fst) := by
  have hvalue : (∀ m ∈ members, m.1 = key → p m.2) ↔
      ∀ value, Assoc.find? key members = some value → p value := by
    simp only [← Assoc.mem_iff_find? hm]
    constructor
    · intro h value hv
      exact h _ hv rfl
    · rintro h ⟨_, value⟩ hv rfl
      exact h value hv
  have hkey : key ∈ members.map Prod.fst ↔ Assoc.find? key members ≠ none := by
    rw [Ne, Assoc.find?_eq_none_iff, not_not]
  rw [hvalue, hkey, MemberIs]
  cases Assoc.find? key members <;> simp

theorem one_le_length_iff {s : String} : ((1 : Nat) : Int) ≤ s.length ↔ s ≠ "" := by
  rw [Ne, ← String.length_eq_zero_iff]
  omega

theorem valid_nonEmptyString_iff {value : Json} : Valid nonEmptyString value ↔ IsText value := by
  change Valid (ofKeywords [(.type, .str "string"), (.minLength, .nat 1)]) value ↔ _
  rw [valid_ofKeywords_iff (by simp)]
  simp only [List.forall_mem_cons, List.not_mem_nil, false_implies, implies_true, and_true]
  cases value with
  | str s => exact (and_iff_right rfl).trans one_le_length_iff
  | _ => simp [Keyword.Holds, Json.typeName, IsText]

theorem valid_nonEmptyArray_iff {item value : Json} {p : Json → Prop} (hc : value.Canonical)
    (h : ∀ v, v.Canonical → (Valid item v ↔ p v)) :
    Valid (nonEmptyArray item) value ↔ IsListOf p value := by
  change Valid (ofKeywords [(.type, .str "array"), (.minItems, .nat 1), (.items, item)]) value ↔ _
  rw [valid_ofKeywords_iff (by simp)]
  simp only [List.forall_mem_cons, List.not_mem_nil, false_implies, implies_true, and_true]
  cases value with
  | arr values =>
    have hlength : ((1 : Nat) : Int) ≤ values.length ↔ values ≠ [] := by
      rw [Ne, ← List.length_eq_zero_iff]
      omega
    have hitems : (∀ v ∈ values, Valid item v) ↔ ∀ v ∈ values, p v :=
      forall₂_congr fun v hv => h v (Json.canonicalItems_iff.mp hc v hv)
    exact (and_iff_right rfl).trans (and_congr hlength hitems)
  | _ => simp [Keyword.Holds, Json.typeName, IsListOf]

theorem valid_oneOf_iff {words : List String} {value : Json} :
    Valid (oneOf words).toJsonSchema value ↔ IsOneOf words value := by
  rw [toJsonSchema]
  change Valid (ofKeywords [(.type, .str "string"), (.enum, .arr (words.map .str))]) value ↔ _
  rw [valid_ofKeywords_iff (by simp)]
  cases value <;> simp [Keyword.Holds, Json.typeName, IsOneOf]

theorem valid_anyObject_iff {value : Json} :
    Valid anyObject.toJsonSchema value ↔ IsObject value := by
  rw [toJsonSchema]
  change Valid (ofKeywords [(.type, .str "object")]) value ↔ _
  rw [valid_ofKeywords_iff (by simp)]
  cases value <;> simp [Keyword.Holds, Json.typeName, IsObject]

theorem typeName_eq_object_iff {value : Json} :
    value.typeName = "object" ↔ ∃ members, value = .obj members := by
  cases value <;> simp [Json.typeName]

def strictKeywords (schemas : List (String × Json)) (k : Keyword) (argument : Json) :
    List (Keyword × Json) :=
  [(.type, .str "object"), (.properties, .ofMembers schemas), (k, argument),
    (.additionalProperties, .bool false)]

theorem valid_strictKeywords_iff {schemas : List (String × Json)} {k : Keyword} {argument : Json}
    (hk : k ∉ [.type, .properties, .additionalProperties]) (h : (schemas.map Prod.fst).Nodup)
    {value : Json} : Valid (ofKeywords (strictKeywords schemas k argument)) value ↔
      ∃ members, value = .obj members ∧
        (∀ p ∈ schemas, ∀ m ∈ members, m.1 = p.1 → Valid p.2 m.2) ∧
        k.Holds ((Assoc.ofPairs schemas).map Prod.fst) (Valid argument) (MembersValid argument)
          argument value ∧
        Within (schemas.map Prod.fst) members := by
  have hkeywords : ((strictKeywords schemas k argument).map Prod.fst).Nodup := by
    simp [strictKeywords] at hk ⊢
    tauto
  have hdescribed : described (strictKeywords schemas k argument) =
      (Assoc.ofPairs schemas).map Prod.fst :=
    described_eq hkeywords (List.mem_cons_of_mem _ List.mem_cons_self)
  have hwithin : ∀ members : List (String × Json), Within (schemas.map Prod.fst) members ↔
      ∀ m ∈ members, m.1 ∉ (Assoc.ofPairs schemas).map Prod.fst → Valid (.bool false) m.2 := by
    intro members
    simp [Within, Valid, Assoc.mem_ofPairs_iff h]
  rw [valid_ofKeywords_iff hkeywords, hdescribed]
  -- no value is valid under the schema for other members, so there are none
  simp only [strictKeywords, List.forall_mem_cons, List.not_mem_nil, false_implies, implies_true,
    and_true, hwithin, ← membersValid_ofMembers_iff h]
  constructor
  · rintro ⟨htype, hrest⟩
    obtain ⟨members, rfl⟩ := typeName_eq_object_iff.mp htype
    exact ⟨members, rfl, hrest⟩
  · rintro ⟨members, rfl, hrest⟩
    exact ⟨rfl, hrest⟩

theorem keys_fieldSchemas (fields : List Field) :
    (fieldSchemas fields).map Prod.fst = fields.map Prod.fst := by
  rw [fieldSchemas_eq_map, List.map_map]
  rfl

theorem conforms_record_iff {fields : List Field} {value : Json} :
    (record fields).Conforms value ↔ ∃ members, value = .obj members ∧
      FieldsConform fields members ∧ Within (fields.map Prod.fst) members := by
  cases value <;> simp [Conforms]

theorem forall_mem_requiredKeys {fields : List Field} {members : List (String × Json)} :
    (∀ key ∈ (requiredKeys fields).map Json.str, key ∈ members.map fun m => Json.str m.1) ↔
      ∀ f ∈ fields, f.2.isOptional = true ∨ f.1 ∈ members.map Prod.fst := by
  have hkey : ∀ key, (.str key ∈ members.map fun m => Json.str m.1) ↔
      key ∈ members.map Prod.fst := by simp
  simp only [requiredKeys, List.forall_mem_map, hkey, List.mem_filter, Field.isOptional,
    Bool.not_eq_true', ← Bool.not_eq_true, and_imp, or_iff_not_imp_left]

theorem valid_record_iff {fields : List Field} (h : (fields.map Prod.fst).Nodup) {value : Json}
    (hc : value.Canonical)
    (hfields : ∀ f ∈ fields, ∀ v, v.Canonical → (Valid f.2.toJsonSchema v ↔ f.2.Conforms v)) :
    Valid (record fields).toJsonSchema value ↔ (record fields).Conforms value := by
  rw [toJsonSchema]
  change Valid (ofKeywords (strictKeywords _ .required (.arr ((requiredKeys fields).map .str)))) _ ↔
    _
  rw [valid_strictKeywords_iff (by decide) (by rwa [keys_fieldSchemas]), keys_fieldSchemas,
    conforms_record_iff]
  refine exists_congr fun members => and_congr_right ?_
  rintro rfl
  have hvalues : (∀ p ∈ fieldSchemas fields, ∀ m ∈ members, m.1 = p.1 → Valid p.2 m.2) ↔
      ∀ f ∈ fields, ∀ m ∈ members, m.1 = f.1 → f.2.Conforms m.2 := by
    rw [fieldSchemas_eq_map, List.forall_mem_map]
    exact forall₂_congr fun f hf => forall₂_congr fun m hm => by
      rw [hfields f hf m.2 (Json.canonicalMembers_iff.mp hc.2 m hm)]
  simp only [fieldsConform_iff, memberIs_iff hc.1, hvalues, Keyword.Holds, forall_mem_requiredKeys,
    ← and_assoc, ← forall_and]

theorem isDiagramOrText_iff {kinds : List DiagramKind} {value : Json} :
    IsDiagramOrText kinds value ↔ ∃ members, value = .obj members ∧
      MemberIs Check.diagramKey true (IsDiagram kinds) members ∧
      MemberIs Check.textKey true (IsListOf IsText) members ∧
      (∃ key ∈ [Check.diagramKey, Check.textKey], key ∈ members.map Prod.fst) ∧
      Within [Check.diagramKey, Check.textKey] members := by
  cases value with
  | obj members =>
    simp only [IsDiagramOrText, Json.obj.injEq, exists_eq_left']
    tauto
  | _ => simp [IsDiagramOrText]

theorem valid_diagram_iff {k : DiagramKind} {kinds : List DiagramKind} {value : Json} :
    Valid (ofKeywords [(.type, .str "string"), (.minLength, .nat 1),
      (.pattern, .str (keywordPattern (k :: kinds)))]) value ↔ IsDiagram (k :: kinds) value := by
  rw [valid_ofKeywords_iff (by simp)]
  simp only [List.forall_mem_cons, List.not_mem_nil, false_implies, implies_true, and_true]
  cases value with
  | str s =>
    have hpattern : (∃ pattern, Pattern.ofText? (keywordPattern (k :: kinds)) = some pattern ∧
        pattern.FoundIn Text.isBlank s.toList) ↔ ∃ d, Diagram.parse (k :: kinds) s = .ok d := by
      simp only [Pattern.ofText?_keywordPattern, Option.some.injEq, exists_eq_left',
        Pattern.foundIn_ofKeywords_iff_parse]
    exact (and_iff_right rfl).trans (and_congr one_le_length_iff hpattern)
  | _ => simp [Keyword.Holds, Json.typeName, IsDiagram]

/-- An object without other keys has one of the given keys exactly if it has a member. -/
theorem exists_key_iff {members : List (String × Json)} {keys : List String}
    (h : Within keys members) :
    1 ≤ (members.length : Int) ↔ ∃ key ∈ keys, key ∈ members.map Prod.fst := by
  cases members with
  | nil => simp
  | cons m rest =>
    have hm : m.1 ∈ (m :: rest).map Prod.fst := List.mem_cons_self
    refine iff_of_true ?_ ⟨m.1, h m.1 hm, hm⟩
    rw [List.length_cons]
    omega

theorem valid_diagramOrText_iff {k : DiagramKind} {kinds : List DiagramKind} {value : Json}
    (hc : value.Canonical) :
    Valid (diagramOrText (k :: kinds)).toJsonSchema value ↔ IsDiagramOrText (k :: kinds) value := by
  rw [toJsonSchema]
  change Valid (ofKeywords (strictKeywords [
    (Check.diagramKey, ofKeywords [(.type, .str "string"), (.minLength, .nat 1),
      (.pattern, .str (keywordPattern (k :: kinds)))]),
    (Check.textKey, nonEmptyArray nonEmptyString)] .minProperties (.nat 1))) _ ↔ _
  rw [valid_strictKeywords_iff (by decide) (by simp [Check.diagramKey, Check.textKey]),
    isDiagramOrText_iff]
  refine exists_congr fun members => and_congr_right ?_
  rintro rfl
  have htexts : (∀ m ∈ members, m.1 = Check.textKey →
      Valid (nonEmptyArray nonEmptyString) m.2) ↔
      ∀ m ∈ members, m.1 = Check.textKey → IsListOf IsText m.2 :=
    forall₂_congr fun m hm => by
      rw [valid_nonEmptyArray_iff (Json.canonicalMembers_iff.mp hc.2 m hm)
        fun _ _ => valid_nonEmptyString_iff]
  simp only [List.forall_mem_cons, List.not_mem_nil, false_implies, implies_true, and_true,
    memberIs_iff hc.1, true_or, valid_diagram_iff, htexts, and_assoc, List.map_cons, List.map_nil]
  -- the count of members stands for the presence of one of the two keys
  refine and_congr_right fun _ => and_congr_right fun _ => and_congr_left fun hwithin => ?_
  exact exists_key_iff hwithin

mutual

theorem valid_toJsonSchema_iff : (shape : Shape) → shape.isExportable = true → (value : Json) →
    value.Canonical → (Valid shape.toJsonSchema value ↔ shape.Conforms value)
  | text, _, value, _ => by rw [toJsonSchema, Conforms, valid_nonEmptyString_iff]
  | oneOf words, _, value, _ => by rw [Conforms, valid_oneOf_iff]
  | list item, h, value, hc => by
    rw [toJsonSchema, Conforms]
    exact valid_nonEmptyArray_iff hc fun v hv => item.valid_toJsonSchema_iff h v hv
  | record fields, h, value, hc => by
    have hfields := isExportable_record_iff.mp h
    exact valid_record_iff hfields.1 hc (valid_toJsonSchema_iff_of_mem fields hfields.2)
  | anyObject, _, value, _ => by rw [Conforms, valid_anyObject_iff]
  | diagramOrText [], h, _, _ => by cases h
  | diagramOrText (k :: kinds), _, value, hc => by rw [Conforms, valid_diagramOrText_iff hc]
  | optional inner, h, value, hc => by
    rw [toJsonSchema, Conforms]
    exact inner.valid_toJsonSchema_iff h value hc

theorem valid_toJsonSchema_iff_of_mem : (fields : List (String × Shape)) →
    (∀ f ∈ fields, f.2.isExportable = true) → ∀ f ∈ fields, ∀ value : Json, value.Canonical →
    (Valid f.2.toJsonSchema value ↔ f.2.Conforms value)
  | [], _, f, hf => by cases hf
  | (key, shape) :: rest, h, f, hf => by
    obtain ⟨hshape, hrest⟩ := List.forall_mem_cons.mp h
    rcases List.mem_cons.mp hf with rfl | hf
    · exact shape.valid_toJsonSchema_iff hshape
    · exact valid_toJsonSchema_iff_of_mem rest hrest f hf

end

/-- The schema document of a shape accepts the content that validation accepts. -/
theorem valid_toJsonSchema_iff_validate {shape : Shape} (h : shape.isExportable = true)
    (c : Content) :
    Valid shape.toJsonSchema c.json ↔ ∃ data, shape.validate c.json = .ok data := by
  rw [valid_toJsonSchema_iff shape h c.json c.canonical, ← issues_eq_nil_iff, validate_eq]
  split_ifs with hnone <;> simp [hnone]

end Shape

namespace Factory

def isExportable : Factory → Bool
  | composite | container => true
  | leaf shape => (shape .plan).isExportable && (shape .task).isExportable
  | shared shape _ => shape.isExportable

theorem isExportable_of_mem_ownShapes {factory : Factory} (h : factory.isExportable = true) :
    ∀ shape ∈ factory.ownShapes, shape.isExportable = true := by
  cases factory with
  | composite => exact nofun
  | container => exact nofun
  | leaf shape => simpa [isExportable, ownShapes] using h
  | shared shape ids => simpa [isExportable, ownShapes] using h

end Factory

namespace FamilySchema

theorem valid_toJsonSchema_iff (schema : FamilySchema) (value : Json) :
    JsonSchema.Valid schema.toJsonSchema value ↔
      JsonSchema.Valid schema.shape.toJsonSchema value := by
  rw [toJsonSchema, shape, Shape.toJsonSchema, Json.ofMembers]
  have hmembers := Assoc.ofPairs_ascending [
    ("type", Json.str "object"),
    ("properties", .ofMembers (Shape.fieldSchemas schema.fields)),
    ("required", .arr ((Shape.requiredKeys schema.fields).map .str)),
    ("additionalProperties", .bool false)]
  rw [JsonSchema.valid_insert_iff (by decide) (Assoc.insert_ascending _ _ hmembers),
    JsonSchema.valid_insert_iff (by decide) hmembers]

end FamilySchema

namespace Registry

def Exportable (r : Registry) (family : UInt32) : Prop :=
  ∀ id factory, r.factory? family id = some factory → factory.isExportable = true

/-- Every factory of a family is a built-in one, for whichever section. -/
def Builtin (r : Registry) (family : UInt32) : Prop :=
  ∀ id factory, r.factory? family id = some factory →
    ∃ original, builtinFactory? original = some factory

theorem builtin_withTable {family : UInt32} {pairs : List (String × Factory)}
    (h : ∀ e ∈ pairs, ∃ original, builtinFactory? original = some e.2) :
    (empty.withTable family (.ofPairs pairs)).Builtin family :=
  forall_factory_withTable (P := fun factory => ∃ original, builtinFactory? original = some factory)
    forall_factory_empty h

/-- What holds of the factories in the built-in tables holds of those of a family that has no
others. -/
theorem Builtin.forall_factory {r : Registry} {family : UInt32} (h : r.Builtin family)
    {P : Factory → Prop}
    (hall : ∀ e ∈ businessTable ++ planningTable ++ qualityTable ++ designTable, P e.2) :
    ∀ id factory, r.factory? family id = some factory → P factory := by
  intro id factory hfactory
  obtain ⟨original, horiginal⟩ := h id factory hfactory
  exact hall _ (mem_of_builtinFactory? horiginal)

theorem Builtin.exportable {r : Registry} {family : UInt32} (h : r.Builtin family) :
    r.Exportable family :=
  h.forall_factory (P := fun factory => factory.isExportable = true) (by decide)

variable {r : Registry} {f : Family} {d : DocumentType} {schema : FamilySchema} {s : Section}

section

variable (hr : r.Exportable f.id) (h : r.composeFamily f d = .ok schema)

include hr h

/-- Every shape in a composed family is exportable, since no key comes twice in a record. -/
theorem isExportable_composed :
    (∀ s, r.Runs f d s → ((r.composer f d).shapeOf (f.branch s)).isExportable = true) ∧
      schema.shape.isExportable = true := by
  refine composed_induction (P := fun shape => shape.isExportable = true) h ?_ rfl ?_ ?_
  · intro id factory hfactory
    exact Factory.isExportable_of_mem_ownShapes (hr id factory hfactory)
  · intro shape hshape
    rwa [shape.isExportable_orAbsent]
  · intro fields hnodup hfields
    exact Shape.isExportable_record_iff.mpr ⟨hnodup, fun field hfield => (hfields field hfield).2⟩

theorem isExportable_of_section? {id : String} {shape : Shape}
    (hid : schema.section? id = some shape) : shape.isExportable = true := by
  obtain ⟨fields, index, hc, rfl⟩ := composeFamily_eq_ok_iff.mp h
  rw [FamilySchema.section?, (Composer.composeAll_eq_ok _ hc).2, OrderedMap.get?_insertAll,
    OrderedMap.get?_empty, Option.or_none] at hid
  have hmem := List.mem_reverse.mp (Assoc.mem_of_find? hid)
  obtain ⟨t, ht, -, rfl⟩ := Composer.mem_entriesAll_iff.mp hmem
  exact (isExportable_composed hr h).1 t ht

end

/-- With built-in factories, the exported document of a family accepts the content that validation
against the family accepts, and that of each section in the index what validation against the
section accepts. -/
theorem export_agrees_with_validate (hr : r.Builtin f.id) (h : r.composeFamily f d = .ok schema)
    (c : Content) :
    (JsonSchema.Valid schema.toJsonSchema c.json ↔ ∃ data, schema.validate c.json = .ok data) ∧
      ∀ id shape, schema.section? id = some shape →
        (JsonSchema.Valid shape.toJsonSchema c.json ↔
          ∃ data, schema.validateSection? id c.json = some (.ok data)) := by
  constructor
  · rw [schema.valid_toJsonSchema_iff]
    exact Shape.valid_toJsonSchema_iff_validate (isExportable_composed hr.exportable h).2 c
  · intro id shape hid
    rw [Shape.valid_toJsonSchema_iff_validate (isExportable_of_section? hr.exportable h hid),
      FamilySchema.validateSection?, hid]
    simp

end Registry

/-- Built-in factories for the sections of the delivery family, with a diagram below two
composites. -/
def sketchRegistry : Registry :=
  Registry.empty.withTable 9 (.ofPairs [("9.1", .composite), ("9.1.1", .composite),
    ("9.1.1.1", Registry.fixed (.diagram .graph))])

theorem builtin_sketchRegistry : sketchRegistry.Builtin deliveryFamily.id := by
  refine Registry.builtin_withTable ?_
  simp only [List.forall_mem_cons]
  exact ⟨⟨"4.2", by rfl⟩, ⟨"4.2", by rfl⟩, ⟨"2.1", by rfl⟩, nofun⟩

theorem sketch_export_agrees : sketchRegistry.Builtin deliveryFamily.id ∧
    ∃ schema, sketchRegistry.composeFamily deliveryFamily .plan = .ok schema ∧
      let c := Content.of (.obj [("risks", .obj [("owners", .obj [("names",
        .obj [("diagram", .str " graph TD")])])])])
      (JsonSchema.Valid schema.toJsonSchema c.json ↔ ∃ data, schema.validate c.json = .ok data) ∧
        ∀ id shape, schema.section? id = some shape →
          (JsonSchema.Valid shape.toJsonSchema c.json ↔
            ∃ data, schema.validateSection? id c.json = some (.ok data)) :=
  ⟨builtin_sketchRegistry, _, by rfl,
    Registry.export_agrees_with_validate (d := .plan) builtin_sketchRegistry (by rfl) _⟩

end DocSections
