import DocSections.Shape.Check
import Mathlib.Tactic.SplitIfs

/-! What a check adds. A check threads the path of its value and the issues found before it, but
what it adds depends on the value alone: `Shape.issues` lists it with paths that begin at the value,
and `Shape.data` is what the value becomes if there are none. -/

namespace DocSections

namespace Checked

variable {α : Type}

/-- What a check leaves behind whose value has these issues, and becomes `data` if it has none. -/
def report (issues : List Issue) (data : α) (path : Path) (found : List Issue) : Checked α :=
  ⟨if issues = [] then some data else none, found ++ issues.map (Issue.under path)⟩

theorem report_nil (data : α) (path : Path) (found : List Issue) :
    report [] data path found = ⟨some data, found⟩ := by
  simp [report]

end Checked

open Checked

theorem Issue.map_under_map_under (p q : Path) (issues : List Issue) :
    (issues.map (under q)).map (under p) = issues.map (under (p ++ q)) := by
  rw [List.map_map]
  exact List.map_congr_left fun i _ => under_under p q i

namespace Diagram

theorem eq_of_parse_text {allowed : List DiagramKind} {s t : String}
    (h : parse allowed s = .ok (.text t)) : t = s := by
  unfold parse at h
  split at h
  · cases h
  · simp only at h
    split at h
    · cases h
    · cases h
    · cases h
      rfl

end Diagram

namespace Check

theorem fail_eq_report {α : Type} (found : List Issue) (code : IssueCode) (path : Path)
    (message : String) (data : α) :
    fail found code path message = report [⟨code, [], message⟩] data path found := by
  simp [fail, report, Issue.under]

theorem fail_after_report {α : Type} (issues : List Issue) (data : α) (path : Path)
    (found : List Issue) (code : IssueCode) (message : String) :
    fail (report issues data path found).issues code path message =
      report (issues ++ [⟨code, [], message⟩]) data path found := by
  simp [fail, report, Issue.under]

def typeIssue (expected : String) (value : Json) : Issue :=
  ⟨.invalidType, [], typeMessage expected value⟩

def textIssues : Json → List Issue
  | .str s => if s = "" then [⟨.tooSmall, [], emptyStringMessage⟩] else []
  | value => [typeIssue "string" value]

def oneOfIssues (words : List String) : Json → List Issue
  | .str s => if words.contains s then [] else [⟨.invalidEnumValue, [], choiceMessage words s⟩]
  | value => [typeIssue "string" value]

def anyObjectIssues : Json → List Issue
  | .obj _ => []
  | value => [typeIssue "object" value]

def itemIssues (item : Json → List Issue) : Nat → List Json → List Issue
  | _, [] => []
  | i, value :: rest => (item value).map (Issue.under [.index i]) ++ itemIssues item (i + 1) rest

def listIssues (item : Json → List Issue) : Json → List Issue
  | .arr [] => [⟨.tooSmall, [], emptyArrayMessage⟩]
  | .arr values => itemIssues item 0 values
  | value => [typeIssue "array" value]

def memberIssues (key : String) (mayLack : Bool) (value : Json → List Issue)
    (members : List (String × Json)) : List Issue :=
  match Assoc.find? key members with
  | none => if mayLack then [] else [⟨.required, [.key key], "Required"⟩]
  | some v => (value v).map (Issue.under [.key key])

def memberData (key : String) (value : Json → Json) (members : List (String × Json)) :
    List (String × Json) :=
  match Assoc.find? key members with
  | none => []
  | some v => [(key, value v)]

def unknownIssues (declared : List String) (members : List (String × Json)) : List Issue :=
  match unknownKeys declared members with
  | [] => []
  | unknown => [⟨.unrecognizedKeys, [], unknownMessage unknown⟩]

def diagramIssues (kinds : List DiagramKind) : Json → List Issue
  | .str s =>
    if s = "" then [⟨.tooSmall, [], emptyStringMessage⟩]
    else
      match Diagram.parse kinds s with
      | .ok _ => []
      | .error fault => [⟨.invalidDiagram, [], fault.message kinds⟩]
  | value => [typeIssue "string" value]

/-- A flow graph becomes its record; any other diagram stays as it is. -/
def diagramData (kinds : List DiagramKind) : Json → Json
  | .str s =>
    match Diagram.parse kinds s with
    | .ok (.record r) => r.toJson
    | _ => .str s
  | value => value

def missingContentIssues (members : List (String × Json)) : List Issue :=
  if (Assoc.find? diagramKey members).isNone && (Assoc.find? textKey members).isNone then
    [⟨.missingContent, [], missingContentMessage⟩]
  else []

def diagramOrTextIssues (kinds : List DiagramKind) : Json → List Issue
  | .obj members =>
    memberIssues diagramKey true (diagramIssues kinds) members ++
      memberIssues textKey true (listIssues textIssues) members ++
      missingContentIssues members ++ unknownIssues [diagramKey, textKey] members
  | value => [typeIssue "object" value]

def diagramOrTextData (kinds : List DiagramKind) : Json → Json
  | .obj members =>
    .ofMembers (memberData diagramKey (diagramData kinds) members ++ memberData textKey id members)
  | value => value

/-- Keys that are not declared are one issue, which names them all. -/
theorem unknownIssues_eq_ite (declared : List String) (members : List (String × Json)) :
    unknownIssues declared members =
      if ∀ m ∈ members, m.1 ∈ declared then []
      else [⟨.unrecognizedKeys, [], "Unrecognized key(s) in object: " ++ ", ".intercalate
        (((members.map Prod.fst).filter (· ∉ declared)).map fun key => "'" ++ key ++ "'")⟩] := by
  have hkeys : unknownKeys declared members = (members.map Prod.fst).filter (· ∉ declared) := by
    simp [unknownKeys]
  have hnone : (members.map Prod.fst).filter (· ∉ declared) = [] ↔
      ∀ m ∈ members, m.1 ∈ declared := by
    simp [List.filter_eq_nil_iff]
  unfold unknownIssues
  rw [hkeys]
  cases hunknown : (members.map Prod.fst).filter (· ∉ declared) with
  | nil => rw [if_pos (hnone.mp hunknown)]
  | cons key rest =>
    rw [if_neg fun hall => List.cons_ne_nil key rest (hunknown.symm.trans (hnone.mpr hall))]
    rfl

theorem itemIssues_eq_flatMap (item : Json → List Issue) (i : Nat) (values : List Json) :
    itemIssues item i values =
      (values.zipIdx i).flatMap fun (v, j) => (item v).map (Issue.under [.index j]) := by
  induction values generalizing i with
  | nil => rfl
  | cons value rest ih => rw [itemIssues, ih, List.zipIdx_cons, List.flatMap_cons]

theorem mem_itemIssues_iff {item : Json → List Issue} {first : Nat} {values : List Json}
    {i : Issue} : i ∈ itemIssues item first values ↔
      ∃ j v, values[j]? = some v ∧ ∃ inner ∈ item v, i = inner.under [.index (first + j)] := by
  induction values generalizing first with
  | nil => simp [itemIssues]
  | cons v rest ih =>
    rw [itemIssues, List.mem_append, List.mem_map, ih]
    constructor
    · rintro (⟨inner, hinner, rfl⟩ | ⟨j, w, hw, inner, hinner, rfl⟩)
      · exact ⟨0, v, rfl, inner, hinner, rfl⟩
      · exact ⟨j + 1, w, hw, inner, hinner, by rw [Nat.add_assoc, Nat.add_comm 1 j]⟩
    · rintro ⟨j, w, hw, inner, hinner, rfl⟩
      cases j with
      | zero =>
        rw [List.getElem?_cons_zero, Option.some.injEq] at hw
        exact .inl ⟨inner, hw ▸ hinner, rfl⟩
      | succ j =>
        rw [List.getElem?_cons_succ] at hw
        exact .inr ⟨j, w, hw, inner, hinner, by rw [Nat.add_assoc, Nat.add_comm 1 j]⟩

/-- A member has the issue that it is missing, or its own issues, as seen from outside. -/
theorem mem_memberIssues_iff {key : String} {mayLack : Bool} {issues : Json → List Issue}
    {members : List (String × Json)} {i : Issue} : i ∈ memberIssues key mayLack issues members ↔
      Assoc.find? key members = none ∧ mayLack = false ∧ i = ⟨.required, [.key key], "Required"⟩ ∨
      ∃ v, Assoc.find? key members = some v ∧ ∃ inner ∈ issues v, i = inner.under [.key key] := by
  unfold memberIssues
  cases Assoc.find? key members with
  | none => cases mayLack <;> simp
  | some v => simp [eq_comm]

theorem head?_path_of_mem_memberIssues {key : String} {mayLack : Bool}
    {issues : Json → List Issue} {members : List (String × Json)} {i : Issue}
    (h : i ∈ memberIssues key mayLack issues members) : i.path.head? = some (.key key) := by
  rcases mem_memberIssues_iff.mp h with ⟨-, -, rfl⟩ | ⟨v, -, inner, -, rfl⟩
  · rfl
  · rfl

theorem path_eq_nil_of_mem_unknownIssues {declared : List String}
    {members : List (String × Json)} {i : Issue} (h : i ∈ unknownIssues declared members) :
    i.path = [] := by
  unfold unknownIssues at h
  split at h
  · cases h
  · rw [List.mem_singleton.mp h]

theorem text_eq_report (path : Path) (value : Json) (found : List Issue) :
    text path value found = report (textIssues value) value path found := by
  cases value with
  | str s =>
    simp only [text, textIssues]
    split_ifs
    · exact fail_eq_report found _ path _ _
    · exact (report_nil _ path found).symm
  | _ => exact fail_eq_report found _ path _ _

theorem oneOf_eq_report (words : List String) (path : Path) (value : Json) (found : List Issue) :
    oneOf words path value found = report (oneOfIssues words value) value path found := by
  cases value with
  | str s =>
    simp only [oneOf, oneOfIssues]
    split_ifs
    · exact (report_nil _ path found).symm
    · exact fail_eq_report found _ path _ _
  | _ => exact fail_eq_report found _ path _ _

theorem anyObject_eq_report (path : Path) (value : Json) (found : List Issue) :
    anyObject path value found = report (anyObjectIssues value) value path found := by
  cases value with
  | obj members => exact (report_nil _ path found).symm
  | _ => exact fail_eq_report found _ path _ _

section

variable {item : Check} {issues : Json → List Issue} {data : Json → Json}

theorem items_eq_report
    (h : ∀ path value found, item path value found = report (issues value) (data value) path found)
    (path : Path) (i : Nat) (values : List Json) (found : List Issue) :
    items item path i values found =
      report (itemIssues issues i values) (values.map data) path found := by
  induction values generalizing i found with
  | nil => exact (report_nil [] path found).symm
  | cons value rest ih =>
    rw [items, h, ih, itemIssues]
    simp only [report, List.map_append, Issue.map_under_map_under, List.append_assoc,
      List.append_eq_nil_iff, List.map_eq_nil_iff, List.map_cons]
    congr 1
    by_cases hv : issues value = [] <;> by_cases hr : itemIssues issues (i + 1) rest = [] <;>
      simp [hv, hr]

theorem list_eq_report
    (h : ∀ path value found, item path value found = report (issues value) (data value) path found)
    (path : Path) (values : List Json) (found : List Issue) :
    list item path (.arr values) found =
      report (listIssues issues (.arr values)) (.arr (values.map data)) path found := by
  cases values with
  | nil => exact fail_eq_report found _ path _ _
  | cons value rest =>
    rw [list, items_eq_report h, listIssues]
    · simp only [report]
      congr 1
      split_ifs <;> rfl
    all_goals exact List.cons_ne_nil value rest

theorem member_eq_report
    (h : ∀ path value found, item path value found = report (issues value) (data value) path found)
    (key : String) (mayLack : Bool) (path : Path) (members : List (String × Json))
    (found : List Issue) :
    member key mayLack item path members found =
      report (memberIssues key mayLack issues members) (memberData key data members) path
        found := by
  simp only [member, memberIssues, memberData]
  cases Assoc.find? key members with
  | none =>
    cases mayLack with
    | true => exact (report_nil [] path found).symm
    | false => simp [fail, report, Issue.under]
  | some value =>
    simp only [h, report, Issue.map_under_map_under, List.map_eq_nil_iff]
    congr 1
    split_ifs <;> rfl

end

theorem both_report (firstIssues secondIssues : List Issue) (first second : List (String × Json))
    (path : Path) (found : List Issue) :
    both (report firstIssues first path found)
        (report secondIssues second path (report firstIssues first path found).issues) =
      report (firstIssues ++ secondIssues) (first ++ second) path found := by
  simp only [both, report, List.map_append, List.append_assoc, List.append_eq_nil_iff]
  congr 1
  by_cases hf : firstIssues = [] <;> by_cases hs : secondIssues = [] <;> simp [hf, hs]

theorem close_report (declared : List String) (path : Path) (members : List (String × Json))
    (issues : List Issue) (data : List (String × Json)) (found : List Issue) :
    close declared path members (report issues data path found) =
      report (issues ++ unknownIssues declared members) (.ofMembers data) path found := by
  unfold close unknownIssues
  cases unknownKeys declared members with
  | nil =>
    simp only [report, List.append_nil]
    congr 1
    split_ifs <;> rfl
  | cons key rest => exact fail_after_report issues _ path found _ _

theorem diagram_eq_report (kinds : List DiagramKind) (path : Path) (value : Json)
    (found : List Issue) :
    diagram kinds path value found =
      report (diagramIssues kinds value) (diagramData kinds value) path found := by
  cases value with
  | str s =>
    simp only [diagram, diagramIssues, diagramData]
    split_ifs
    · exact fail_eq_report found _ path _ _
    · cases hp : Diagram.parse kinds s with
      | error fault => exact fail_eq_report found _ path _ _
      | ok d =>
        cases d with
        | record r => exact (report_nil _ path found).symm
        | text t =>
          rw [Diagram.eq_of_parse_text hp]
          exact (report_nil _ path found).symm
  | _ => exact fail_eq_report found _ path _ _

theorem textList_eq_report (path : Path) (value : Json) (found : List Issue) :
    list text path value found = report (listIssues textIssues value) value path found := by
  cases value with
  | arr values =>
    have h := @list_eq_report _ _ id text_eq_report path values found
    rw [List.map_id] at h
    exact h
  | _ => exact fail_eq_report found _ path _ _

theorem diagramOrText_eq_report (kinds : List DiagramKind) (path : Path) (value : Json)
    (found : List Issue) :
    diagramOrText kinds path value found =
      report (diagramOrTextIssues kinds value) (diagramOrTextData kinds value) path found := by
  cases value with
  | obj members =>
    simp only [diagramOrText, diagramOrTextIssues, diagramOrTextData]
    rw [member_eq_report (diagram_eq_report kinds), @member_eq_report _ _ id textList_eq_report,
      both_report, ← close_report]
    congr 1
    unfold missingContentIssues
    split_ifs
    · exact fail_after_report _ _ path found _ _
    · rw [List.append_nil]
  | _ => exact fail_eq_report found _ path _ _

end Check

namespace Shape

mutual

/-- The issues of a value, with paths that begin at the value. -/
def issues : Shape → Json → List Issue
  | text, value => Check.textIssues value
  | oneOf words, value => Check.oneOfIssues words value
  | list item, value => Check.listIssues (fun v => item.issues v) value
  | record fields, .obj members =>
    fieldIssues fields members ++ Check.unknownIssues (fields.map Prod.fst) members
  | record _, value => [Check.typeIssue "object" value]
  | anyObject, value => Check.anyObjectIssues value
  | diagramOrText kinds, value => Check.diagramOrTextIssues kinds value
  | optional inner, value => inner.issues value

def fieldIssues : List (String × Shape) → List (String × Json) → List Issue
  | [], _ => []
  | (key, shape) :: rest, members =>
    Check.memberIssues key shape.isOptional (fun v => shape.issues v) members ++
      fieldIssues rest members

end

mutual

def data : Shape → Json → Json
  | list item, .arr values => .arr (values.map fun v => item.data v)
  | record fields, .obj members => .ofMembers (fieldData fields members)
  | diagramOrText kinds, value => Check.diagramOrTextData kinds value
  | optional inner, value => inner.data value
  | _, value => value

def fieldData : List (String × Shape) → List (String × Json) → List (String × Json)
  | [], _ => []
  | (key, shape) :: rest, members =>
    Check.memberData key (fun v => shape.data v) members ++ fieldData rest members

end

theorem fieldIssues_eq_flatMap (fields : List (String × Shape)) (members : List (String × Json)) :
    fieldIssues fields members = fields.flatMap fun field =>
      Check.memberIssues field.1 field.2.isOptional field.2.issues members := by
  induction fields with
  | nil => rfl
  | cons field rest ih => rw [fieldIssues, ih, List.flatMap_cons]

theorem fieldData_eq_flatMap (fields : List (String × Shape)) (members : List (String × Json)) :
    fieldData fields members = fields.flatMap fun field =>
      Check.memberData field.1 field.2.data members := by
  induction fields with
  | nil => rfl
  | cons field rest ih => rw [fieldData, ih, List.flatMap_cons]

/-- That a value may be absent changes nothing for a value that is there. -/
theorem issues_orAbsent (shape : Shape) : shape.orAbsent.issues = shape.issues := by
  funext value
  unfold orAbsent
  split_ifs
  · rfl
  · rw [issues]

theorem data_orAbsent (shape : Shape) : shape.orAbsent.data = shape.data := by
  funext value
  unfold orAbsent
  split_ifs
  · rfl
  · rw [data]

mutual

theorem check_eq_report : (shape : Shape) → (path : Path) → (value : Json) →
    (found : List Issue) →
    shape.check path value found = report (shape.issues value) (shape.data value) path found
  | text, path, value, found => by
    rw [check, Check.text_eq_report, issues, data] <;> simp
  | oneOf words, path, value, found => by
    rw [check, Check.oneOf_eq_report, issues, data] <;> simp
  | list item, path, value, found => by
    cases value with
    | arr values =>
      exact Check.list_eq_report (fun p v f => item.check_eq_report p v f) path values found
    | _ => exact Check.fail_eq_report found _ path _ _
  | record fields, path, value, found => by
    cases value with
    | obj members => rw [check, checkFields_eq_report fields, Check.close_report, issues, data]
    | _ => exact Check.fail_eq_report found _ path _ _
  | anyObject, path, value, found => by
    rw [check, Check.anyObject_eq_report, issues, data] <;> simp
  | diagramOrText kinds, path, value, found => by
    rw [check, Check.diagramOrText_eq_report, issues, data]
  | optional inner, path, value, found => by
    rw [check, inner.check_eq_report, issues, data]

theorem checkFields_eq_report : (fields : List (String × Shape)) → (path : Path) →
    (members : List (String × Json)) → (found : List Issue) →
    checkFields fields path members found =
      report (fieldIssues fields members) (fieldData fields members) path found
  | [], path, members, found => by rw [checkFields, fieldIssues, fieldData, report_nil]
  | (key, shape) :: rest, path, members, found => by
    rw [checkFields, Check.member_eq_report fun p v f => shape.check_eq_report p v f,
      checkFields_eq_report rest, Check.both_report, fieldIssues, fieldData]

end

/-- A value is accepted exactly when it has no issues; otherwise it is answered by all of them. -/
theorem validate_eq (shape : Shape) (value : Json) :
    shape.validate value =
      if shape.issues value = [] then .ok (shape.data value) else .error (shape.issues value) := by
  have under_nil : (shape.issues value).map (Issue.under []) = shape.issues value :=
    List.map_id' _
  rw [validate, check_eq_report, report, under_nil, List.nil_append]
  by_cases h : shape.issues value = []
  · rw [if_pos h, if_pos h, h]
  · rw [if_neg h, if_neg h]

theorem validate_eq_ok_iff {shape : Shape} {value data : Json} :
    shape.validate value = .ok data ↔ shape.issues value = [] ∧ data = shape.data value := by
  rw [validate_eq]
  split_ifs with h
  · rw [Except.ok.injEq, eq_comm]
    exact (and_iff_right h).symm
  · exact ⟨nofun, fun hok => absurd hok.1 h⟩

theorem validate_eq_error_iff {shape : Shape} {value : Json} {issues : List Issue} :
    shape.validate value = .error issues ↔ issues ≠ [] ∧ issues = shape.issues value := by
  rw [validate_eq]
  split_ifs with h
  · refine ⟨nofun, fun herror => absurd h ?_⟩
    rw [← herror.2]
    exact herror.1
  · rw [Except.error.injEq, eq_comm]
    refine ⟨fun heq => ⟨?_, heq⟩, And.right⟩
    rw [heq]
    exact h

theorem validate_orAbsent (shape : Shape) : shape.orAbsent.validate = shape.validate := by
  funext value
  rw [validate_eq, validate_eq, issues_orAbsent, data_orAbsent]

end Shape

end DocSections
