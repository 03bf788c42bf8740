import DocSections.Json.Content
import DocSections.Proofs.Header
import DocSections.Proofs.Issues
import DocSections.Proofs.Lookup

/-! When a value has a shape, and what it becomes, said by recursion on the shape. Validation
decides the first and computes the second. -/

namespace DocSections

namespace Diagram

/-- What stands in the place of a flow graph, with the keys in ascending order. -/
def graphObject (direction : Option Direction) (content : String) : Json :=
  .obj ([("content", .str content), ("diagramType", .str "graph")] ++
    (direction.map fun d => ("direction", .str (Vocabulary.word d))).toList ++
    [("type", .str "mermaid")])

theorem toJson_graph (direction : Option Direction) (content : String) :
    DiagramRecord.toJson ⟨.graph, direction, content⟩ = graphObject direction content := by
  have hkind : compare "diagramType" "type" = .lt := by decide
  have hbefore : compare "direction" "diagramType" = .gt := by decide
  have hafter : compare "direction" "type" = .lt := by decide
  have hcontent : compare "content" "diagramType" = .lt := by decide
  cases direction <;>
    simp [DiagramRecord.toJson, graphObject, Json.ofSetMembers, Json.ofMembers, Assoc.ofPairs,
      Assoc.insert, hkind, hbefore, hafter, hcontent, Vocabulary.toJson, Vocabulary.word]

end Diagram

namespace Shape

def IsText : Json → Prop
  | .str s => s ≠ ""
  | _ => False

def IsOneOf (words : List String) : Json → Prop
  | .str s => s ∈ words
  | _ => False

def IsListOf (p : Json → Prop) : Json → Prop
  | .arr values => values ≠ [] ∧ ∀ value ∈ values, p value
  | _ => False

def IsObject : Json → Prop
  | .obj _ => True
  | _ => False

/-- A string that is not empty and can be read as a diagram of an allowed kind. -/
def IsDiagram (kinds : List DiagramKind) : Json → Prop
  | .str s => s ≠ "" ∧ ∃ d, Diagram.parse kinds s = .ok d
  | _ => False

/-- The member at `key` satisfies `p`; only if it may lack, there need not be one. -/
def MemberIs (key : String) (mayLack : Bool) (p : Json → Prop) (members : List (String × Json)) :
    Prop :=
  match Assoc.find? key members with
  | none => mayLack = true
  | some value => p value

def Within (declared : List String) (members : List (String × Json)) : Prop :=
  ∀ key ∈ members.map Prod.fst, key ∈ declared

def IsDiagramOrText (kinds : List DiagramKind) : Json → Prop
  | .obj members =>
    Within [Check.diagramKey, Check.textKey] members ∧
      (∃ key ∈ [Check.diagramKey, Check.textKey], key ∈ members.map Prod.fst) ∧
      MemberIs Check.diagramKey true (IsDiagram kinds) members ∧
      MemberIs Check.textKey true (IsListOf IsText) members
  | _ => False

mutual

def Conforms : Shape → Json → Prop
  | text, value => IsText value
  | oneOf words, value => IsOneOf words value
  | list item, value => IsListOf (fun v => item.Conforms v) value
  | record fields, .obj members =>
    FieldsConform fields members ∧ Within (fields.map Prod.fst) members
  | record _, _ => False
  | anyObject, value => IsObject value
  | diagramOrText kinds, value => IsDiagramOrText kinds value
  | optional inner, value => inner.Conforms value

/-- Every declaration is met, also where several declare one key. -/
def FieldsConform : List (String × Shape) → List (String × Json) → Prop
  | [], _ => True
  | (key, shape) :: rest, members =>
    MemberIs key shape.isOptional (fun v => shape.Conforms v) members ∧ FieldsConform rest members

end

def diagramOutput (kinds : List DiagramKind) : Json → Json
  | .str s =>
    match Diagram.parse kinds s with
    | .ok (.record ⟨.graph, direction, content⟩) => Diagram.graphObject direction content
    | _ => .str s
  | value => value

mutual

/-- The value itself, but with an object in the place of each flow graph. -/
def output : Shape → Json → Json
  | list item, .arr values => .arr (values.map fun v => item.output v)
  | record fields, .obj members => .obj (members.map fun m => (m.1, memberOutput fields m.1 m.2))
  | diagramOrText kinds, .obj members =>
    .obj (members.map fun m =>
      (m.1, if m.1 = Check.diagramKey then diagramOutput kinds m.2 else m.2))
  | optional inner, value => inner.output value
  | _, value => value

/-- What the value at `key` becomes, which the last declaration of the key says. -/
def memberOutput : List (String × Shape) → String → Json → Json
  | [], _, value => value
  | (declared, shape) :: rest, key, value =>
    if key = declared ∧ key ∉ rest.map Prod.fst then shape.output value
    else memberOutput rest key value

end

theorem textIssues_eq_nil_iff (value : Json) : Check.textIssues value = [] ↔ IsText value := by
  cases value with
  | str s =>
    simp only [Check.textIssues, IsText]
    split_ifs with hs <;> simp [hs]
  | _ => exact ⟨fun h => absurd h (List.cons_ne_nil _ _), False.elim⟩

theorem oneOfIssues_eq_nil_iff (words : List String) (value : Json) :
    Check.oneOfIssues words value = [] ↔ IsOneOf words value := by
  cases value with
  | str s =>
    simp only [Check.oneOfIssues, IsOneOf, List.contains_iff_mem]
    split_ifs with hs <;> simp [hs]
  | _ => exact ⟨fun h => absurd h (List.cons_ne_nil _ _), False.elim⟩

theorem anyObjectIssues_eq_nil_iff (value : Json) :
    Check.anyObjectIssues value = [] ↔ IsObject value := by
  cases value with
  | obj members => exact ⟨fun _ => trivial, fun _ => rfl⟩
  | _ => exact ⟨fun h => absurd h (List.cons_ne_nil _ _), False.elim⟩

theorem diagramIssues_eq_nil_iff (kinds : List DiagramKind) (value : Json) :
    Check.diagramIssues kinds value = [] ↔ IsDiagram kinds value := by
  cases value with
  | str s =>
    rw [Check.diagramIssues, IsDiagram]
    split_ifs with hs
    · simp [hs]
    · cases Diagram.parse kinds s with
      | ok d => exact ⟨fun _ => ⟨hs, d, rfl⟩, fun _ => rfl⟩
      | error fault => simp
  | _ => exact ⟨fun h => absurd h (List.cons_ne_nil _ _), False.elim⟩

section

variable {issues : Json → List Issue} {p : Json → Prop}

theorem itemIssues_eq_nil_iff (i : Nat) (values : List Json) :
    Check.itemIssues issues i values = [] ↔ ∀ value ∈ values, issues value = [] := by
  induction values generalizing i with
  | nil => simp [Check.itemIssues]
  | cons value rest ih =>
    rw [Check.itemIssues, List.append_eq_nil_iff, List.map_eq_nil_iff, ih, List.forall_mem_cons]

theorem listIssues_eq_nil_iff (h : ∀ value, issues value = [] ↔ p value) (value : Json) :
    Check.listIssues issues value = [] ↔ IsListOf p value := by
  cases value with
  | arr values =>
    cases values with
    | nil => exact ⟨fun h => absurd h (List.cons_ne_nil _ _), fun h => absurd rfl h.1⟩
    | cons first rest =>
      have hall : (∀ value ∈ first :: rest, issues value = []) ↔ ∀ value ∈ first :: rest, p value :=
        forall₂_congr fun value _ => h value
      rw [Check.listIssues, itemIssues_eq_nil_iff, hall]
      · exact ⟨fun hp => ⟨List.cons_ne_nil _ _, hp⟩, fun hp => hp.2⟩
      · exact List.cons_ne_nil first rest
  | _ => exact ⟨fun h => absurd h (List.cons_ne_nil _ _), False.elim⟩

theorem memberIssues_eq_nil_iff (h : ∀ value, issues value = [] ↔ p value) (key : String)
    (mayLack : Bool) (members : List (String × Json)) :
    Check.memberIssues key mayLack issues members = [] ↔ MemberIs key mayLack p members := by
  unfold Check.memberIssues MemberIs
  cases Assoc.find? key members with
  | none => cases mayLack <;> simp
  | some value => rw [List.map_eq_nil_iff, h]

end

theorem unknownIssues_eq_nil_iff (declared : List String) (members : List (String × Json)) :
    Check.unknownIssues declared members = [] ↔ Within declared members := by
  have hkeys : Check.unknownKeys declared members = [] ↔ Within declared members := by
    simp [Check.unknownKeys, Within, List.filter_eq_nil_iff]
  rw [← hkeys]
  unfold Check.unknownIssues
  cases Check.unknownKeys declared members <;> simp

theorem missingContentIssues_eq_nil_iff (members : List (String × Json)) :
    Check.missingContentIssues members = [] ↔
      ∃ key ∈ [Check.diagramKey, Check.textKey], key ∈ members.map Prod.fst := by
  have hsome : ∀ key, Assoc.find? key members ≠ none ↔ key ∈ members.map Prod.fst := fun key => by
    rw [Ne, Assoc.find?_eq_none_iff, not_not]
  simp only [List.mem_cons, List.not_mem_nil, or_false, exists_eq_or_imp, exists_eq_left, ← hsome]
  unfold Check.missingContentIssues
  cases Assoc.find? Check.diagramKey members <;> cases Assoc.find? Check.textKey members <;> simp

theorem diagramOrTextIssues_eq_nil_iff (kinds : List DiagramKind) (value : Json) :
    Check.diagramOrTextIssues kinds value = [] ↔ IsDiagramOrText kinds value := by
  cases value with
  | obj members =>
    rw [Check.diagramOrTextIssues, IsDiagramOrText, List.append_eq_nil_iff, List.append_eq_nil_iff,
      List.append_eq_nil_iff, memberIssues_eq_nil_iff (diagramIssues_eq_nil_iff kinds),
      memberIssues_eq_nil_iff (listIssues_eq_nil_iff textIssues_eq_nil_iff),
      missingContentIssues_eq_nil_iff, unknownIssues_eq_nil_iff]
    tauto
  | _ => exact ⟨fun h => absurd h (List.cons_ne_nil _ _), False.elim⟩

mutual

theorem issues_eq_nil_iff : (shape : Shape) → (value : Json) →
    (shape.issues value = [] ↔ shape.Conforms value)
  | text, value => by rw [issues, Conforms, textIssues_eq_nil_iff]
  | oneOf words, value => by rw [issues, Conforms, oneOfIssues_eq_nil_iff]
  | list item, value => by
    rw [issues, Conforms, listIssues_eq_nil_iff fun v => item.issues_eq_nil_iff v]
  | record fields, value => by
    cases value with
    | obj members =>
      rw [issues, Conforms, List.append_eq_nil_iff, fieldIssues_eq_nil_iff fields,
        unknownIssues_eq_nil_iff]
    | _ => exact ⟨fun h => absurd h (List.cons_ne_nil _ _), False.elim⟩
  | anyObject, value => by rw [issues, Conforms, anyObjectIssues_eq_nil_iff]
  | diagramOrText kinds, value => by rw [issues, Conforms, diagramOrTextIssues_eq_nil_iff]
  | optional inner, value => by rw [issues, Conforms, inner.issues_eq_nil_iff]

theorem fieldIssues_eq_nil_iff : (fields : List (String × Shape)) →
    (members : List (String × Json)) →
    (fieldIssues fields members = [] ↔ FieldsConform fields members)
  | [], members => by simp [fieldIssues, FieldsConform]
  | (key, shape) :: rest, members => by
    rw [fieldIssues, FieldsConform, List.append_eq_nil_iff,
      memberIssues_eq_nil_iff fun v => shape.issues_eq_nil_iff v, fieldIssues_eq_nil_iff rest]

end

instance (shape : Shape) (value : Json) : Decidable (shape.Conforms value) :=
  decidable_of_iff _ (shape.issues_eq_nil_iff value)

theorem find?_memberData (key k : String) (g : Json → Json) (members : List (String × Json)) :
    Assoc.find? k (Check.memberData key g members).reverse =
      if k = key then (Assoc.find? key members).map g else none := by
  unfold Check.memberData
  cases Assoc.find? key members with
  | none => simp [Assoc.find?]
  | some value => simp [Assoc.find?_cons, Assoc.find?]

/-- Pairs in which each look-up finds the changed value of a member make the changed object. -/
theorem ofMembers_eq_map {members pairs : List (String × Json)} (g : String → Json → Json)
    (hm : Assoc.Ascending members)
    (h : ∀ key, Assoc.find? key pairs.reverse = (Assoc.find? key members).map (g key)) :
    Json.ofMembers pairs = .obj (members.map fun m => (m.1, g m.1 m.2)) := by
  rw [Json.ofMembers]
  congr 1
  refine Assoc.ext_of_find? (Assoc.ofPairs_ascending pairs) (hm.map g) fun key => ?_
  rw [Assoc.find?_ofPairs, h, Assoc.find?_map]

theorem diagramData_eq_diagramOutput (kinds : List DiagramKind) :
    Check.diagramData kinds = diagramOutput kinds := by
  funext value
  cases value with
  | str s =>
    rw [Check.diagramData, diagramOutput]
    cases hparse : Diagram.parse kinds s with
    | error fault => rfl
    | ok d =>
      cases d with
      | text t => rfl
      | record r =>
        obtain ⟨-, -, after, -, rfl⟩ := Diagram.cut_of_parse_record hparse
        exact Diagram.toJson_graph _ _
  | _ => rfl

theorem diagramOrTextData_eq_map (kinds : List DiagramKind) {members : List (String × Json)}
    (hm : Assoc.Ascending members) (h : Within [Check.diagramKey, Check.textKey] members) :
    Check.diagramOrTextData kinds (.obj members) =
      .obj (members.map fun m =>
        (m.1, if m.1 = Check.diagramKey then diagramOutput kinds m.2 else m.2)) := by
  refine ofMembers_eq_map
    (fun key value => if key = Check.diagramKey then diagramOutput kinds value else value) hm
    fun key => ?_
  rw [diagramData_eq_diagramOutput, List.reverse_append, Assoc.find?_append, find?_memberData,
    find?_memberData]
  have hne : Check.textKey ≠ Check.diagramKey := by decide
  by_cases hd : key = Check.diagramKey
  · simp [hd, hne.symm]
  · by_cases ht : key = Check.textKey
    · simp [ht, hne]
    · have hnone : Assoc.find? key members = none := by
        refine Assoc.find?_eq_none_iff.mpr fun hk => ?_
        have := h key hk
        simp [hd, ht] at this
      simp [hd, ht, hnone]

mutual

/-- What a value of the shape becomes is the value with its flow graphs replaced. -/
theorem data_eq_output : (shape : Shape) → {value : Json} → value.Canonical →
    shape.Conforms value → shape.data value = shape.output value
  | text, _, _, _ => by simp [data, output]
  | oneOf _, _, _, _ => by simp [data, output]
  | anyObject, _, _, _ => by simp [data, output]
  | list item, value, hc, h => by
    cases value with
    | arr values =>
      rw [data, output]
      congr 1
      refine List.map_congr_left fun v hv => ?_
      exact item.data_eq_output (Json.canonicalItems_iff.mp hc v hv) (h.2 v hv)
    | _ => cases h
  | record fields, value, hc, h => by
    cases value with
    | obj members =>
      rw [data, output]
      refine ofMembers_eq_map (memberOutput fields) hc.1 fun key => ?_
      rw [find?_fieldData fields hc.2 h.1]
      split_ifs with hk
      · rfl
      · rw [Assoc.find?_eq_none_iff.mpr fun hm => hk (h.2 key hm)]
        rfl
    | _ => cases h
  | diagramOrText kinds, value, hc, h => by
    cases value with
    | obj members =>
      rw [data, output]
      exact diagramOrTextData_eq_map kinds hc.1 h.1
    | _ => cases h
  | optional inner, _, hc, h => by
    rw [data, output]
    exact inner.data_eq_output hc h

theorem find?_fieldData : (fields : List (String × Shape)) → {members : List (String × Json)} →
    Json.CanonicalMembers members → FieldsConform fields members → (key : String) →
    Assoc.find? key (fieldData fields members).reverse =
      if key ∈ fields.map Prod.fst then (Assoc.find? key members).map (memberOutput fields key)
      else none
  | [], _, _, _, key => by simp [fieldData, Assoc.find?]
  | (declared, shape) :: rest, members, hc, h, key => by
    have hshape : ∀ value, Assoc.find? declared members = some value →
        shape.data value = shape.output value := by
      intro value hv
      have hm : MemberIs declared shape.isOptional (fun v => shape.Conforms v) members := h.1
      rw [MemberIs, hv] at hm
      exact shape.data_eq_output (Json.canonicalMembers_iff.mp hc _ (Assoc.mem_of_find? hv)) hm
    rw [fieldData, List.reverse_append, Assoc.find?_append, find?_memberData,
      find?_fieldData rest hc h.2]
    -- the data are looked up from the end, so the last field with the key counts
    by_cases hr : key ∈ rest.map Prod.fst
    · cases hf : Assoc.find? key members with
      | none =>
        by_cases hk : key = declared
        · subst hk
          simp [hr, hf]
        · simp [hr, hk]
      | some value => simp [hr, memberOutput]
    · by_cases hk : key = declared
      · subst hk
        cases hf : Assoc.find? key members with
        | none => simp [hr]
        | some value => simp [hr, memberOutput, hshape value hf]
      · simp [hr, hk]

end

/-- Validation of content accepts what has the shape, and answers with the output; anything else it
refuses with at least one issue. -/
theorem validate_decides_conforms (shape : Shape) (c : Content) :
    (∀ d, shape.validate c.json = .ok d ↔ shape.Conforms c.json ∧ d = shape.output c.json) ∧
      (¬ shape.Conforms c.json →
        ∃ issues, issues ≠ [] ∧ shape.validate c.json = .error issues) ∧
      (shape.isValid c.json = true ↔ shape.Conforms c.json) := by
  rw [isValid, validate_eq, ← issues_eq_nil_iff]
  by_cases h : shape.issues c.json = []
  · have hout := shape.data_eq_output c.canonical ((shape.issues_eq_nil_iff c.json).mp h)
    rw [if_pos h, hout]
    refine ⟨fun d => ?_, fun hn => absurd h hn, fun _ => h, fun _ => rfl⟩
    exact ⟨fun hd => ⟨h, (Except.ok.inj hd).symm⟩, fun hd => by rw [hd.2]⟩
  · rw [if_neg h]
    refine ⟨fun d => ?_, fun _ => ⟨_, h, rfl⟩, fun hv => ?_, fun hn => absurd hn h⟩
    · constructor
      · intro hd
        cases hd
      · intro hd
        exact absurd hd.1 h
    · cases hv

end Shape

def reviewShape : Shape :=
  .record [("status", .optional (.oneOf ["Open", "Closed"])),
    ("views", .list (.diagramOrText [.graph, .erDiagram]))]

def reviewContent : Content :=
  .of (.obj [("views", .arr [.obj [("diagram", .str "\n graph LR\nA --> B\n")],
    .obj [("diagram", .str "erDiagram\nA"), ("text", .arr [.str "graph LR"])]])])

/-- Only the flow graph is replaced, and a list without items is refused. -/
theorem reviewContent_decides_conforms :
    reviewShape.Conforms reviewContent.json ∧
      reviewShape.validate reviewContent.json = .ok (.obj [("views", .arr
        [.obj [("diagram", .obj [("content", .str "A --> B"), ("diagramType", .str "graph"),
          ("direction", .str "LR"), ("type", .str "mermaid")])],
        .obj [("diagram", .str "erDiagram\nA"), ("text", .arr [.str "graph LR"])]])]) ∧
      ¬ reviewShape.Conforms (Content.of (.obj [("views", .arr [])])).json ∧
      ∃ issues, issues ≠ [] ∧
        reviewShape.validate (Content.of (.obj [("views", .arr [])])).json = .error issues := by
  have hconforms : reviewShape.Conforms reviewContent.json := by decide +kernel
  have hempty : ¬ reviewShape.Conforms (Content.of (.obj [("views", .arr [])])).json := by
    decide +kernel
  obtain ⟨haccepts, -, -⟩ := reviewShape.validate_decides_conforms reviewContent
  obtain ⟨-, hrefuses, -⟩ := reviewShape.validate_decides_conforms (.of (.obj [("views", .arr [])]))
  exact ⟨hconforms, (haccepts _).mpr ⟨hconforms, by decide +kernel⟩, hempty, hrefuses hempty⟩

end DocSections
