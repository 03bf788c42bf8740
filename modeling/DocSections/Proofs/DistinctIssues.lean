import DocSections.Proofs.IssuePaths

/-! No issue is reported twice. The issues of a member or an item lie below its key or index, so
those of its siblings are elsewhere, and a value itself is reported once; only an object that lacks
its content and has other keys is reported for both. -/

namespace DocSections

namespace Issue

variable {i j : Issue}

/-- An issue and one found after it are at different places, or one says of an object that it has no
content and the other that it has keys that were not declared. -/
def Apart (i j : Issue) : Prop :=
  i.path = j.path → i.code = .missingContent ∧ j.code = .unrecognizedKeys

theorem apart_under_iff (path : Path) : (i.under path).Apart (j.under path) ↔ i.Apart j := by
  rw [Apart, Apart, under, under, List.append_cancel_left_eq]

theorem apart_of_head?_ne (h : i.path.head? ≠ j.path.head?) : i.Apart j :=
  fun hpath => absurd (congrArg List.head? hpath) h

theorem pairwise_apart_under {issues : List Issue} (path : Path) (h : issues.Pairwise Apart) :
    (issues.map (under path)).Pairwise Apart :=
  List.pairwise_map.mpr (h.imp (apart_under_iff path).mpr)

end Issue

namespace Check

open Issue

variable {value : Json} {members : List (String × Json)}

theorem pairwise_textIssues : (textIssues value).Pairwise Apart := by
  cases value with
  | str s =>
    rw [textIssues]
    split_ifs
    · exact List.pairwise_singleton Apart _
    · exact List.Pairwise.nil
  | _ => exact List.pairwise_singleton Apart _

theorem pairwise_oneOfIssues {words : List String} : (oneOfIssues words value).Pairwise Apart := by
  cases value with
  | str s =>
    rw [oneOfIssues]
    split_ifs
    · exact List.Pairwise.nil
    · exact List.pairwise_singleton Apart _
  | _ => exact List.pairwise_singleton Apart _

theorem pairwise_anyObjectIssues : (anyObjectIssues value).Pairwise Apart := by
  cases value with
  | obj members => exact List.Pairwise.nil
  | _ => exact List.pairwise_singleton Apart _

theorem pairwise_diagramIssues {kinds : List DiagramKind} :
    (diagramIssues kinds value).Pairwise Apart := by
  cases value with
  | str s =>
    rw [diagramIssues]
    split_ifs
    · exact List.pairwise_singleton Apart _
    · split
      · exact List.Pairwise.nil
      · exact List.pairwise_singleton Apart _
  | _ => exact List.pairwise_singleton Apart _

theorem pairwise_unknownIssues {declared : List String} :
    (unknownIssues declared members).Pairwise Apart := by
  unfold unknownIssues
  split
  · exact List.Pairwise.nil
  · exact List.pairwise_singleton Apart _

theorem pairwise_missingContentIssues : (missingContentIssues members).Pairwise Apart := by
  unfold missingContentIssues
  split_ifs
  · exact List.pairwise_singleton Apart _
  · exact List.Pairwise.nil

theorem pairwise_memberIssues {key : String} {mayLack : Bool} {issues : Json → List Issue}
    (h : ∀ v, (issues v).Pairwise Apart) :
    (memberIssues key mayLack issues members).Pairwise Apart := by
  unfold memberIssues
  split
  · split_ifs
    · exact List.Pairwise.nil
    · exact List.pairwise_singleton Apart _
  · exact pairwise_apart_under _ (h _)

theorem pairwise_listIssues {issues : Json → List Issue} (h : ∀ v, (issues v).Pairwise Apart) :
    (listIssues issues value).Pairwise Apart := by
  cases value with
  | arr values =>
    cases values with
    | nil => exact List.pairwise_singleton Apart _
    | cons first rest =>
      rw [listIssues, itemIssues_eq_flatMap, List.pairwise_flatMap]
      · refine ⟨fun item _ => pairwise_apart_under _ (h item.1), ?_⟩
        have hindices : (((first :: rest).zipIdx 0).map Prod.snd).Nodup := by
          rw [List.zipIdx_map_snd]
          exact List.nodup_range'
        refine (List.pairwise_map.mp hindices).imp fun hne i hi j hj => ?_
        obtain ⟨inner, -, rfl⟩ := List.mem_map.mp hi
        obtain ⟨other, -, rfl⟩ := List.mem_map.mp hj
        exact apart_of_head?_ne fun hhead => hne (by simpa [under] using hhead)
      · exact List.cons_ne_nil first rest
  | _ => exact List.pairwise_singleton Apart _

theorem apart_of_mem_memberIssues {key : String} {mayLack : Bool} {issues : Json → List Issue}
    {i j : Issue} (hi : i ∈ memberIssues key mayLack issues members) (hj : j.path = []) :
    i.Apart j := by
  refine apart_of_head?_ne ?_
  rw [head?_path_of_mem_memberIssues hi, hj]
  exact nofun

theorem apart_of_key_ne {key other : String} {mayLack otherMayLack : Bool}
    {issues otherIssues : Json → List Issue} {i j : Issue} (hne : key ≠ other)
    (hi : i ∈ memberIssues key mayLack issues members)
    (hj : j ∈ memberIssues other otherMayLack otherIssues members) : i.Apart j := by
  refine apart_of_head?_ne ?_
  rw [head?_path_of_mem_memberIssues hi, head?_path_of_mem_memberIssues hj]
  simpa using hne

theorem apart_of_missingContent {declared : List String} {i j : Issue}
    (hi : i ∈ missingContentIssues members) (hj : j ∈ unknownIssues declared members) :
    i.Apart j := by
  intro _
  unfold missingContentIssues at hi
  unfold unknownIssues at hj
  split_ifs at hi
  · split at hj
    · cases hj
    · rw [List.mem_singleton.mp hi, List.mem_singleton.mp hj]
      exact ⟨rfl, rfl⟩
  · cases hi

theorem pairwise_diagramOrTextIssues {kinds : List DiagramKind} :
    (diagramOrTextIssues kinds value).Pairwise Apart := by
  cases value with
  | obj members =>
    have hmember : ∀ {key mayLack issues i j}, i ∈ memberIssues key mayLack issues members →
        j ∈ missingContentIssues members → i.Apart j := fun hi hj =>
      apart_of_mem_memberIssues hi (path_eq_nil_of_mem_missingContentIssues hj)
    have hunknown : ∀ {key mayLack issues i j}, i ∈ memberIssues key mayLack issues members →
        j ∈ unknownIssues [diagramKey, textKey] members → i.Apart j := fun hi hj =>
      apart_of_mem_memberIssues hi (path_eq_nil_of_mem_unknownIssues hj)
    simp only [diagramOrTextIssues, List.pairwise_append, List.mem_append]
    refine ⟨⟨⟨pairwise_memberIssues fun _ => pairwise_diagramIssues,
      pairwise_memberIssues fun _ => pairwise_listIssues fun _ => pairwise_textIssues, ?_⟩,
      pairwise_missingContentIssues, ?_⟩, pairwise_unknownIssues, ?_⟩
    · intro i hi j hj
      exact apart_of_key_ne (by decide) hi hj
    · rintro i (hi | hi) j hj
      · exact hmember hi hj
      · exact hmember hi hj
    · rintro i ((hi | hi) | hi) j hj
      · exact hunknown hi hj
      · exact hunknown hi hj
      · exact apart_of_missingContent hi hj
  | _ => exact List.pairwise_singleton Apart _

end Check

namespace Shape

open Issue

mutual

/-- The issues of a value are apart, if no record in the shape declares a key twice. -/
theorem pairwise_issues : (shape : Shape) → shape.isExportable = true → (value : Json) →
    (shape.issues value).Pairwise Apart
  | text, _, value => by
    rw [issues]
    exact Check.pairwise_textIssues
  | oneOf words, _, value => by
    rw [issues]
    exact Check.pairwise_oneOfIssues
  | anyObject, _, value => by
    rw [issues]
    exact Check.pairwise_anyObjectIssues
  | list item, h, value => by
    rw [issues]
    exact Check.pairwise_listIssues fun v => item.pairwise_issues h v
  | record fields, h, value => by
    obtain ⟨hnodup, hfields⟩ := isExportable_record_iff.mp h
    cases value with
    | obj members =>
      rw [issues, fieldIssues_eq_flatMap, List.pairwise_append, List.pairwise_flatMap]
      refine ⟨⟨?_, ?_⟩, Check.pairwise_unknownIssues, ?_⟩
      · intro field hfield
        exact Check.pairwise_memberIssues (pairwise_issues_of_mem fields hfields field hfield)
      · refine (List.pairwise_map.mp hnodup).imp fun hne i hi j hj => ?_
        exact Check.apart_of_key_ne hne hi hj
      · intro i hi j hj
        obtain ⟨field, -, hmember⟩ := List.mem_flatMap.mp hi
        exact Check.apart_of_mem_memberIssues hmember (Check.path_eq_nil_of_mem_unknownIssues hj)
    | _ => exact List.pairwise_singleton Apart _
  | diagramOrText kinds, _, value => by
    rw [issues]
    exact Check.pairwise_diagramOrTextIssues
  | optional inner, h, value => by
    rw [issues]
    exact inner.pairwise_issues h value

theorem pairwise_issues_of_mem : (fields : List (String × Shape)) →
    (∀ f ∈ fields, f.2.isExportable = true) → ∀ f ∈ fields, ∀ value : Json,
    (f.2.issues value).Pairwise Apart
  | [], _, f, hf => by cases hf
  | (key, shape) :: rest, h, f, hf => by
    obtain ⟨hshape, hrest⟩ := List.forall_mem_cons.mp h
    rcases List.mem_cons.mp hf with rfl | hf
    · exact shape.pairwise_issues hshape
    · exact pairwise_issues_of_mem rest hrest f hf

end

end Shape

namespace Registry

variable {r : Registry} {f : Family} {d : DocumentType} {schema : FamilySchema}

/-- With built-in factories no two issues of content, validated against the family or against a
section in the index, have one path and one code. Two issues at one path are only found at an object
without diagram and text that has other keys. -/
theorem issue_told_once (hr : r.Builtin f.id) (h : r.composeFamily f d = .ok schema) {value : Json}
    {issues : List Issue} (hissues : schema.validate value = .error issues ∨
      ∃ id, schema.validateSection? id value = some (.error issues)) :
    (issues.map fun i => (i.path, i.code)).Nodup ∧ issues.Pairwise Issue.Apart := by
  obtain ⟨shape, hshape, hvalidate⟩ : ∃ shape : Shape, shape.isExportable = true ∧
      shape.validate value = .error issues := by
    rcases hissues with hfamily | ⟨id, hsection⟩
    · exact ⟨schema.shape, (isExportable_composed hr.exportable h).2, hfamily⟩
    · obtain ⟨shape, hid, hvalidate⟩ := Option.map_eq_some_iff.mp hsection
      exact ⟨shape, isExportable_of_section? hr.exportable h hid, hvalidate⟩
  have hapart : issues.Pairwise Issue.Apart := by
    rw [(Shape.validate_eq_error_iff.mp hvalidate).2]
    exact shape.pairwise_issues hshape value
  refine ⟨List.pairwise_map.mpr (hapart.imp fun {i j} hij hsame => ?_), hapart⟩
  -- at one path the codes would be two different ones
  obtain ⟨hpath, hcode⟩ := Prod.mk.inj hsame
  obtain ⟨hmissing, hunknown⟩ := hij hpath
  rw [hmissing, hunknown] at hcode
  cases hcode

end Registry

/-- A diagram whose content is missing, in an object with another key. -/
theorem sketch_issue_told_once :
    let names := Json.obj [("caption", .str "")]
    let place := [.key "risks", .key "owners", .key "names"]
    let issues : List Issue := [
      ⟨.missingContent, place, "Either a diagram or text must be provided"⟩,
      ⟨.unrecognizedKeys, place, "Unrecognized key(s) in object: 'caption'"⟩]
    sketchRegistry.Builtin deliveryFamily.id ∧
      ∃ schema, sketchRegistry.composeFamily deliveryFamily .plan = .ok schema ∧
        schema.validate (.obj [("risks", .obj [("owners", .obj [("names", names)])])]) =
          .error issues ∧
        (issues.map fun i => (i.path, i.code)).Nodup ∧ issues.Pairwise Issue.Apart := by
  intro names place issues
  obtain ⟨schema, hcomposed, hvalue⟩ : ∃ schema,
      sketchRegistry.composeFamily deliveryFamily .plan = .ok schema ∧
        schema.validate (.obj [("risks", .obj [("owners", .obj [("names", names)])])]) =
          .error issues := ⟨_, by rfl, by rfl⟩
  exact ⟨builtin_sketchRegistry, schema, hcomposed, hvalue,
    Registry.issue_told_once builtin_sketchRegistry hcomposed (.inl hvalue)⟩

end DocSections
