import DocSections.Json.Content
import DocSections.Proofs.Issues
import DocSections.Proofs.Lookup

/-! Where issues are found. The path of an issue leads through the content to a value of which the
issue is true; only the last step to a member that is missing leads nowhere. -/

namespace DocSections

namespace Json

def step? : PathSegment → Json → Option Json
  | .key k, value => value.member? k
  | .index i, .arr items => items[i]?
  | .index _, _ => none

def at? : Path → Json → Option Json
  | [], value => some value
  | segment :: rest, value => (value.step? segment).bind (at? rest)

@[simp] theorem at?_nil (value : Json) : value.at? [] = some value := rfl

theorem at?_key {key : String} {members : List (String × Json)} {value : Json}
    (h : Assoc.find? key members = some value) (path : Path) :
    (obj members).at? (.key key :: path) = value.at? path := by
  rw [at?, step?, member?, h, Option.bind_some]

theorem at?_index {i : Nat} {items : List Json} {value : Json} (h : items[i]? = some value)
    (path : Path) : (arr items).at? (.index i :: path) = value.at? path := by
  rw [at?, step?, h, Option.bind_some]

end Json

namespace Shape

/-- The nodes of a shape that check what a path leads to. Where a record declares a key several
times, there are several. -/
inductive Checks : Shape → Path → Shape → Prop
  | here (shape : Shape) : Checks shape [] shape
  | optional {inner node : Shape} {path : Path} : Checks inner path node →
      Checks (.optional inner) path node
  | item {item node : Shape} {path : Path} (i : Nat) : Checks item path node →
      Checks (.list item) (.index i :: path) node
  | field {fields : List (String × Shape)} {key : String} {shape node : Shape} {path : Path} :
      (key, shape) ∈ fields → Checks shape path node →
      Checks (.record fields) (.key key :: path) node
  | diagramText {kinds : List DiagramKind} {node : Shape} {path : Path} :
      Checks textList path node → Checks (.diagramOrText kinds) (.key Check.textKey :: path) node

def declaredKeys? : Shape → Option (List String)
  | record fields => some (fields.map Prod.fst)
  | diagramOrText _ => some [Check.diagramKey, Check.textKey]
  | _ => none

end Shape

namespace Issue

/-- Whether an issue that content of a shape has is true: what its path leads to, and what is wrong
with that. -/
inductive TrueOf (shape : Shape) (value : Json) : Issue → Prop
  | required (path : Path) {key message : String} {members : List (String × Json)} :
      value.at? path = some (.obj members) → key ∉ members.map Prod.fst →
      TrueOf shape value ⟨.required, path ++ [.key key], message⟩
  | invalidType {path : Path} {expected : String} {w : Json} :
      value.at? path = some w → expected ∈ ["string", "array", "object"] → expected ≠ w.typeName →
      TrueOf shape value
        ⟨.invalidType, path, "Expected " ++ expected ++ ", received " ++ w.typeName⟩
  | tooSmall {path : Path} {message : String} {w : Json} :
      value.at? path = some w → w = .str "" ∨ w = .arr [] →
      TrueOf shape value ⟨.tooSmall, path, message⟩
  | invalidEnumValue {path : Path} {words : List String} {s message : String} :
      value.at? path = some (.str s) → shape.Checks path (.oneOf words) → s ∉ words →
      TrueOf shape value ⟨.invalidEnumValue, path, message⟩
  | unrecognizedKeys {path : Path} {members : List (String × Json)} {node : Shape}
      {declared unknown : List String} :
      value.at? path = some (.obj members) → shape.Checks path node →
      node.declaredKeys? = some declared → unknown.Pairwise (· < ·) →
      (∀ key, key ∈ unknown ↔ key ∈ members.map Prod.fst ∧ key ∉ declared) →
      TrueOf shape value ⟨.unrecognizedKeys, path, "Unrecognized key(s) in object: " ++
        ", ".intercalate (unknown.map fun key => "'" ++ key ++ "'")⟩
  | invalidDiagram (path : Path) {kinds : List DiagramKind} {s message : String}
      {fault : Diagram.Fault} :
      value.at? (path ++ [.key Check.diagramKey]) = some (.str s) →
      shape.Checks path (.diagramOrText kinds) → s ≠ "" → Diagram.parse kinds s = .error fault →
      TrueOf shape value ⟨.invalidDiagram, path ++ [.key Check.diagramKey], message⟩
  | missingContent {path : Path} {message : String} {members : List (String × Json)} :
      value.at? path = some (.obj members) →
      Check.diagramKey ∉ members.map Prod.fst → Check.textKey ∉ members.map Prod.fst →
      TrueOf shape value ⟨.missingContent, path, message⟩

variable {shape inner : Shape} {value w : Json} {i : Issue}

/-- What is true of a value is true of what the value is a part of, seen from there. -/
theorem TrueOf.under {above : Path} (hat : ∀ path, value.at? (above ++ path) = w.at? path)
    (hchecks : ∀ path node, inner.Checks path node → shape.Checks (above ++ path) node)
    (h : i.TrueOf inner w) : (i.under above).TrueOf shape value := by
  cases h with
  | required path hw hk =>
    rw [Issue.under, ← List.append_assoc]
    exact .required (above ++ path) ((hat _).trans hw) hk
  | invalidType hw he hne => exact .invalidType ((hat _).trans hw) he hne
  | tooSmall hw hsmall => exact .tooSmall ((hat _).trans hw) hsmall
  | invalidEnumValue hw hnode hs =>
    exact .invalidEnumValue ((hat _).trans hw) (hchecks _ _ hnode) hs
  | unrecognizedKeys hw hnode hd hasc hunknown =>
    exact .unrecognizedKeys ((hat _).trans hw) (hchecks _ _ hnode) hd hasc hunknown
  | invalidDiagram path hw hnode hs hparse =>
    rw [Issue.under, ← List.append_assoc]
    rw [← hat, ← List.append_assoc] at hw
    exact .invalidDiagram (above ++ path) hw (hchecks _ _ hnode) hs hparse
  | missingContent hw hd ht => exact .missingContent ((hat _).trans hw) hd ht

theorem trueOf_of_mem_typeIssue {expected : String}
    (hexpected : expected ∈ ["string", "array", "object"]) (hne : expected ≠ value.typeName)
    (h : i ∈ [Check.typeIssue expected value]) : i.TrueOf shape value := by
  rw [List.mem_singleton.mp h]
  exact .invalidType (Json.at?_nil value) hexpected hne

end Issue

namespace Check

variable {shape : Shape} {i : Issue}

theorem trueOf_of_mem_textIssues {value : Json} (h : i ∈ textIssues value) :
    i.TrueOf shape value := by
  cases value with
  | str s =>
    rw [textIssues] at h
    split_ifs at h with hs
    · rw [List.mem_singleton.mp h, hs]
      exact .tooSmall (Json.at?_nil _) (.inl rfl)
    · cases h
  | _ => exact Issue.trueOf_of_mem_typeIssue (by decide) (by simp [Json.typeName]) h

theorem trueOf_of_mem_oneOfIssues {words : List String} {value : Json}
    (h : i ∈ oneOfIssues words value) : i.TrueOf (.oneOf words) value := by
  cases value with
  | str s =>
    rw [oneOfIssues] at h
    split_ifs at h with hs
    · cases h
    · rw [List.mem_singleton.mp h]
      exact .invalidEnumValue (Json.at?_nil _) (.here _) (by simpa using hs)
  | _ => exact Issue.trueOf_of_mem_typeIssue (by decide) (by simp [Json.typeName]) h

theorem trueOf_of_mem_anyObjectIssues {value : Json} (h : i ∈ anyObjectIssues value) :
    i.TrueOf shape value := by
  cases value with
  | obj members => cases h
  | _ => exact Issue.trueOf_of_mem_typeIssue (by decide) (by simp [Json.typeName]) h

theorem trueOf_of_mem_listIssues {item : Shape} {issues : Json → List Issue} {value : Json}
    (hitem : ∀ values, value = .arr values → ∀ v ∈ values, ∀ j ∈ issues v, j.TrueOf item v)
    (h : i ∈ listIssues issues value) : i.TrueOf (.list item) value := by
  cases value with
  | arr values =>
    cases values with
    | nil =>
      rw [listIssues, List.mem_singleton] at h
      rw [h]
      exact .tooSmall (Json.at?_nil _) (.inr rfl)
    | cons first rest =>
      rw [listIssues] at h
      · obtain ⟨j, v, hv, inner, hinner, rfl⟩ := mem_itemIssues_iff.mp h
        rw [Nat.zero_add]
        have htrue := hitem _ rfl v (List.mem_of_getElem? hv) inner hinner
        exact htrue.under (Json.at?_index hv) fun path node hnode => .item j hnode
      · simp
  | _ => exact Issue.trueOf_of_mem_typeIssue (by decide) (by simp [Json.typeName]) h

theorem trueOf_of_mem_memberIssues {key : String} {mayLack : Bool} {issues : Json → List Issue}
    {members : List (String × Json)}
    (hvalue : ∀ v, Assoc.find? key members = some v → ∀ j ∈ issues v,
      (j.under [.key key]).TrueOf shape (.obj members))
    (h : i ∈ memberIssues key mayLack issues members) : i.TrueOf shape (.obj members) := by
  rcases mem_memberIssues_iff.mp h with ⟨hnone, -, rfl⟩ | ⟨v, hfind, inner, hinner, rfl⟩
  · exact .required [] (Json.at?_nil _) (Assoc.find?_eq_none_iff.mp hnone)
  · exact hvalue v hfind inner hinner

theorem ascending_keys {members : List (String × Json)} (h : Assoc.Ascending members) :
    (members.map Prod.fst).Pairwise (· < ·) := by
  rw [List.pairwise_map]
  exact h.imp fun hlt => compareOfLessAndEq_eq_lt.mp hlt

theorem trueOf_of_mem_unknownIssues {declared : List String} {members : List (String × Json)}
    (hasc : Assoc.Ascending members) (hdeclared : shape.declaredKeys? = some declared)
    (h : i ∈ unknownIssues declared members) : i.TrueOf shape (.obj members) := by
  unfold unknownIssues at h
  cases hunknown : unknownKeys declared members with
  | nil =>
    rw [hunknown] at h
    cases h
  | cons key others =>
    rw [hunknown] at h
    rw [List.mem_singleton.mp h, ← hunknown]
    refine .unrecognizedKeys (Json.at?_nil _) (.here _) hdeclared ?_ fun key => ?_
    · exact (ascending_keys hasc).filter _
    · simp [unknownKeys]

theorem trueOf_of_mem_missingContentIssues {members : List (String × Json)}
    (h : i ∈ missingContentIssues members) : i.TrueOf shape (.obj members) := by
  unfold missingContentIssues at h
  split_ifs at h with hnone
  · rw [List.mem_singleton.mp h]
    rw [Bool.and_eq_true, Option.isNone_iff_eq_none, Option.isNone_iff_eq_none] at hnone
    exact .missingContent (Json.at?_nil _) (Assoc.find?_eq_none_iff.mp hnone.1)
      (Assoc.find?_eq_none_iff.mp hnone.2)
  · cases h

theorem trueOf_of_mem_diagramIssues {kinds : List DiagramKind} {members : List (String × Json)}
    {value : Json} (hfind : Assoc.find? diagramKey members = some value)
    (h : i ∈ diagramIssues kinds value) :
    (i.under [.key diagramKey]).TrueOf (.diagramOrText kinds) (.obj members) := by
  have hat : (Json.obj members).at? [.key diagramKey] = some value := Json.at?_key hfind []
  cases value with
  | str s =>
    rw [diagramIssues] at h
    split_ifs at h with hs
    · rw [List.mem_singleton.mp h]
      exact .tooSmall hat (.inl (by rw [hs]))
    · split at h
      · cases h
      · rename_i fault hparse
        rw [List.mem_singleton.mp h]
        exact .invalidDiagram [] hat (.here _) hs hparse
  | _ =>
    rw [List.mem_singleton.mp h]
    exact .invalidType hat (by decide) (by simp [Json.typeName])

theorem trueOf_of_mem_diagramOrTextIssues {kinds : List DiagramKind} {value : Json}
    (hc : value.Canonical) (h : i ∈ diagramOrTextIssues kinds value) :
    i.TrueOf (.diagramOrText kinds) value := by
  cases value with
  | obj members =>
    rw [diagramOrTextIssues] at h
    rcases List.mem_append.mp h with h | hunknown
    · rcases List.mem_append.mp h with h | hmissing
      · rcases List.mem_append.mp h with hdiagram | htext
        · exact trueOf_of_mem_memberIssues
            (fun v hfind j hj => trueOf_of_mem_diagramIssues hfind hj) hdiagram
        · refine trueOf_of_mem_memberIssues (fun v hfind j hj => ?_) htext
          have hlist : j.TrueOf Shape.textList v :=
            trueOf_of_mem_listIssues (fun _ _ _ _ _ => trueOf_of_mem_textIssues) hj
          exact hlist.under (Json.at?_key hfind) fun path node hnode => .diagramText hnode
      · exact trueOf_of_mem_missingContentIssues hmissing
    · exact trueOf_of_mem_unknownIssues hc.1 rfl hunknown
  | _ => exact Issue.trueOf_of_mem_typeIssue (by decide) (by simp [Json.typeName]) h

end Check

namespace Shape

mutual

/-- Every issue of content is true of it. -/
theorem trueOf_of_mem_issues : (shape : Shape) → {value : Json} → value.Canonical → {i : Issue} →
    i ∈ shape.issues value → i.TrueOf shape value
  | text, _, _, _, h => by
    rw [issues] at h
    exact Check.trueOf_of_mem_textIssues h
  | oneOf words, _, _, _, h => by
    rw [issues] at h
    exact Check.trueOf_of_mem_oneOfIssues h
  | anyObject, _, _, _, h => by
    rw [issues] at h
    exact Check.trueOf_of_mem_anyObjectIssues h
  | list item, value, hc, i, h => by
    rw [issues] at h
    refine Check.trueOf_of_mem_listIssues (fun values heq v hv j hj => ?_) h
    rw [heq] at hc
    exact item.trueOf_of_mem_issues (Json.canonicalItems_iff.mp hc v hv) hj
  | record fields, value, hc, i, h => by
    cases value with
    | obj members =>
      rw [issues] at h
      rcases List.mem_append.mp h with hfields | hunknown
      · exact trueOf_of_mem_fieldIssues fields (fun _ hf => hf) hc hfields
      · exact Check.trueOf_of_mem_unknownIssues hc.1 rfl hunknown
    | _ => exact Issue.trueOf_of_mem_typeIssue (by decide) (by simp [Json.typeName]) h
  | diagramOrText kinds, _, hc, _, h => by
    rw [issues] at h
    exact Check.trueOf_of_mem_diagramOrTextIssues hc h
  | optional inner, _, hc, i, h => by
    rw [issues] at h
    rw [← i.under_nil]
    exact (inner.trueOf_of_mem_issues hc h).under (fun _ => rfl) fun _ _ hnode => .optional hnode

theorem trueOf_of_mem_fieldIssues : (fields : List (String × Shape)) →
    {declared : List (String × Shape)} → (∀ f ∈ fields, f ∈ declared) →
    {members : List (String × Json)} → (Json.obj members).Canonical → {i : Issue} →
    i ∈ fieldIssues fields members → i.TrueOf (record declared) (.obj members)
  | [], _, _, _, _, _, h => by
    rw [fieldIssues] at h
    cases h
  | (key, shape) :: rest, declared, hsub, members, hc, i, h => by
    obtain ⟨hfield, hrest⟩ := List.forall_mem_cons.mp hsub
    rw [fieldIssues] at h
    rcases List.mem_append.mp h with hmember | hothers
    · refine Check.trueOf_of_mem_memberIssues (fun v hfind j hj => ?_) hmember
      have hv := Json.canonicalMembers_iff.mp hc.2 _ (Assoc.mem_of_find? hfind)
      have htrue := shape.trueOf_of_mem_issues hv hj
      exact htrue.under (Json.at?_key hfind) fun path node hnode => .field hfield hnode
    · exact trueOf_of_mem_fieldIssues rest hrest hc hothers

end

/-- Every issue that validation reports is found where its path leads, and is true there. -/
theorem reported_issues_true (shape : Shape) (c : Content) {issues : List Issue}
    (h : shape.validate c.json = .error issues) : ∀ i ∈ issues, i.TrueOf shape c.json := by
  rw [validate_eq] at h
  split_ifs at h
  cases h
  exact fun i hi => shape.trueOf_of_mem_issues c.canonical hi

end Shape

def flowsShape : Shape :=
  .list (.record [("name", .text), ("priority", .wordOf Priority), ("view", .diagram .graph)])

def draftFlows : Content :=
  .of (.arr
    [.obj [("view", .obj [("diagram", .str "erDiagram")]), ("priority", .str "Urgent"),
      ("note", .null), ("author", .null)],
     .obj [("view", .obj []), ("name", .str ""), ("priority", .bool true)]])

/-- Content with an issue of each code, at several depths. -/
theorem draftFlows_issues_true :
    ∃ issues, flowsShape.validate draftFlows.json = .error issues ∧
      issues.map Issue.code = [.required, .invalidEnumValue, .invalidDiagram, .unrecognizedKeys,
        .tooSmall, .invalidType, .missingContent] ∧
      ⟨.unrecognizedKeys, [.index 0], "Unrecognized key(s) in object: 'author', 'note'"⟩ ∈ issues ∧
      ∀ i ∈ issues, i.TrueOf flowsShape draftFlows.json := by
  refine ⟨_, by rfl, by rfl, ?_, Shape.reported_issues_true flowsShape draftFlows (by rfl)⟩
  decide +kernel

end DocSections
