import DocSections.Proofs.Issues
import DocSections.Proofs.Success

/-! Validation of a family section by section. With factories like the built-in ones, what the whole
family says of some content is put together from what the index says of each section at the top. -/

namespace DocSections

theorem Factory.isOptional_shapeFor {factory : Factory} (h : factory.isPlain = true)
    (d : DocumentType) (fields : List Field) : (factory.shapeFor d fields).isOptional = false := by
  cases factory with
  | composite => rfl
  | container => rfl
  | leaf shape =>
    rw [isPlain, Bool.and_eq_true, Bool.not_eq_true', Bool.not_eq_true'] at h
    cases d with
    | plan => exact h.1
    | task => exact h.2
  | shared shape ids => cases h

namespace Composer

variable {c : Composer} {s : Section}

/-- The member for a section may be absent exactly if the section is not required. -/
theorem isOptional_placed {shape : Shape} (hs : s.Applies c.documentType)
    (hshape : shape.isOptional = false) : (c.placed s shape).2.isOptional =
      !decide (s.applicability.get? c.documentType = some .required) := by
  rcases hs.2 with hreq | hopt
  · simp [placed, hreq, hshape]
  · simp [placed, hopt]

theorem issues_placed (shape : Shape) : (c.placed s shape).2.issues = shape.issues := by
  unfold placed
  split_ifs
  · exact Shape.issues_orAbsent shape
  · rfl

theorem data_placed (shape : Shape) : (c.placed s shape).2.data = shape.data := by
  unfold placed
  split_ifs
  · exact Shape.data_orAbsent shape
  · rfl

end Composer

namespace FamilySchema

/-- What the family says of the member for a section: if there is none, that it is required; else
what the section says, with the key in front of each path. -/
def sectionIssues (schema : FamilySchema) (s : Section) (members : List (String × Json)) :
    List Issue :=
  match Assoc.find? (camelCase s.name) members with
  | none =>
    if s.applicability.get? schema.documentType = some .required then
      [⟨.required, [.key (camelCase s.name)], "Required"⟩]
    else []
  | some value =>
    match schema.validateSection? s.id value with
    | some (.error issues) => issues.map (Issue.under [.key (camelCase s.name)])
    | _ => []

def sectionData (schema : FamilySchema) (s : Section) (members : List (String × Json)) :
    List (String × Json) :=
  match Assoc.find? (camelCase s.name) members with
  | none => []
  | some value =>
    match schema.validateSection? s.id value with
    | some (.ok data) => [(camelCase s.name, data)]
    | _ => []

end FamilySchema

namespace Registry

variable {r : Registry} {f : Family} {d : DocumentType} {schema : FamilySchema} {s : Section}

theorem documentType_eq (h : r.composeFamily f d = .ok schema) : schema.documentType = d := by
  obtain ⟨fields, index, -, rfl⟩ := composeFamily_eq_ok_iff.mp h
  rfl

theorem fields_eq_map (h : r.composeFamily f d = .ok schema) :
    schema.fields = (f.topLevel.filter (·.Applies d)).map fun s =>
      (r.composer f d).placed s ((r.composer f d).shapeOf (f.branch s)) := by
  obtain ⟨fields, index, hc, rfl⟩ := composeFamily_eq_ok_iff.mp h
  rw [(Composer.composeAll_eq_ok _ hc).1, Composer.fieldsOf_map_branch]
  rfl

section

variable (hr : r.Plain f.id) (h : r.composeFamily f d = .ok schema)

include hr h

theorem isOptional_shapeOf (hs : r.Runs f d s) :
    ((r.composer f d).shapeOf (f.branch s)).isOptional = false := by
  obtain ⟨factory, hfactory⟩ := Option.isSome_iff_exists.mp (settled_of_runs h hs).hasFactory
  rw [Family.branch_eq, Composer.shapeOf, hfactory]
  exact Factory.isOptional_shapeFor (hr _ _ hfactory) d _

/-- The field of a section finds what validation of the section on its own finds. -/
theorem memberIssues_placed (hs : r.Runs f d s) (members : List (String × Json)) :
    Check.memberIssues (camelCase s.name)
        ((r.composer f d).placed s ((r.composer f d).shapeOf (f.branch s))).2.isOptional
        ((r.composer f d).placed s ((r.composer f d).shapeOf (f.branch s))).2.issues members =
      schema.sectionIssues s members := by
  rw [Composer.isOptional_placed hs.applies (isOptional_shapeOf hr h hs), Composer.issues_placed]
  unfold Check.memberIssues FamilySchema.sectionIssues
  cases Assoc.find? (camelCase s.name) members with
  | none =>
    rw [documentType_eq h]
    by_cases hreq : s.applicability.get? d = some .required <;> simp [composer, hreq]
  | some value =>
    simp only [FamilySchema.validateSection?, section?_eq_shapeOf hr.unshared h hs, Option.map_some,
      Shape.validate_eq]
    split_ifs with hnone
    · rw [hnone]
      rfl
    · rfl

theorem memberData_placed (hs : r.Runs f d s) {members : List (String × Json)}
    (hnone : schema.sectionIssues s members = []) :
    Check.memberData (camelCase s.name)
        ((r.composer f d).placed s ((r.composer f d).shapeOf (f.branch s))).2.data members =
      schema.sectionData s members := by
  rw [← memberIssues_placed hr h hs, Composer.issues_placed] at hnone
  rw [Composer.data_placed]
  unfold Check.memberIssues at hnone
  unfold Check.memberData FamilySchema.sectionData
  cases hfind : Assoc.find? (camelCase s.name) members with
  | none => rfl
  | some value =>
    rw [hfind] at hnone
    simp only [FamilySchema.validateSection?, section?_eq_shapeOf hr.unshared h hs, Option.map_some,
      Shape.validate_eq]
    rw [if_pos (List.map_eq_nil_iff.mp hnone)]

end

/-- What the family says of an object is put together from what the sections at the top say, one
after another, and the keys that belong to none of them. -/
theorem validate_eq_sectionwise (hr : r.Plain f.id) (h : r.composeFamily f d = .ok schema)
    (members : List (String × Json)) :
    let sections := f.topLevel.filter (·.Applies d)
    let keys := sections.map (camelCase ·.name)
    let issues := sections.flatMap (schema.sectionIssues · members) ++
      if ∀ m ∈ members, m.1 ∈ keys then []
      else [⟨.unrecognizedKeys, [], "Unrecognized key(s) in object: " ++ ", ".intercalate
        (((members.map Prod.fst).filter (· ∉ keys)).map fun key => "'" ++ key ++ "'")⟩]
    keys.Nodup ∧
      (∀ s ∈ sections, (schema.section? s.id).isSome = true) ∧
      schema.validate (.obj members) =
        if issues = [] then .ok (.ofMembers (sections.flatMap (schema.sectionData · members)))
        else .error issues := by
  intro sections keys issues
  have hruns : ∀ s ∈ sections, r.Runs f d s := fun s hs =>
    .top (List.mem_filter.mp hs).1 (of_decide_eq_true (List.mem_filter.mp hs).2)
  obtain ⟨hkeys, hnodup⟩ := keys_eq_map h
  -- the record over the family finds what its fields find, and each field what its section finds
  have hshape : (Shape.record schema.fields).issues (.obj members) = issues := by
    rw [Shape.issues, Shape.fieldIssues_eq_flatMap, Check.unknownIssues_eq_ite, fields_eq_map h,
      List.flatMap_map, List.map_map]
    congr 1
    exact List.flatMap_congr fun s hs => memberIssues_placed hr h (hruns s hs) members
  rw [hkeys] at hnodup
  refine ⟨hnodup, fun s hs => ?_, ?_⟩
  · rw [section?_eq_shapeOf hr.unshared h (hruns s hs)]
    rfl
  · rw [FamilySchema.validate, FamilySchema.shape, Shape.validate_eq, hshape]
    by_cases hnone : issues = []
    · rw [if_pos hnone, if_pos hnone, Shape.data, Shape.fieldData_eq_flatMap, fields_eq_map h,
        List.flatMap_map]
      congr 2
      refine List.flatMap_congr fun s hs => memberData_placed hr h (hruns s hs) ?_
      exact List.flatMap_eq_nil_iff.mp (List.append_eq_nil_iff.mp hnone).1 s hs
    · rw [if_neg hnone, if_neg hnone]

end Registry

/-- An object without the member that is required, and with one that belongs to no section. -/
theorem delivery_validate_eq_sectionwise :
    ∃ schema, deliveryRegistry.composeFamily deliveryFamily .plan = .ok schema ∧
      deliveryRegistry.Plain deliveryFamily.id ∧
      let sections := deliveryFamily.topLevel.filter (·.Applies .plan)
      (sections.map (camelCase ·.name)).Nodup ∧
        (∀ s ∈ sections, (schema.section? s.id).isSome = true) ∧
        schema.validate (.obj [("notes", .null)]) =
          .error [⟨.required, [.key "risks"], "Required"⟩,
            ⟨.unrecognizedKeys, [], "Unrecognized key(s) in object: 'notes'"⟩] := by
  refine ⟨_, by rfl, plain_deliveryRegistry, ?_⟩
  obtain ⟨hkeys, hindexed, hvalidate⟩ := Registry.validate_eq_sectionwise (f := deliveryFamily)
    (d := .plan) plain_deliveryRegistry (by rfl) [("notes", .null)]
  exact ⟨hkeys, hindexed, hvalidate.trans (by rfl)⟩

end DocSections
