import DocSections.Proofs.Issues

/-! A check of a whole tree in one pass, with one trail that all parts share: the path grows by a
segment before a part is checked and is cut back afterwards, and issues are only added. Such a pass
leaves the path as it found it, and what it adds are the issues of the parts, one part after
another, as if each had been checked alone. -/

namespace DocSections

/-- What a pass carries along: the path to the value at hand, and the issues found so far. -/
structure Trail where
  path : Path
  issues : List Issue

/-- A part of a pass, which changes the trail. -/
abbrev Scan := StateM Trail

namespace Scan

variable {α : Type}

def push (segment : PathSegment) : Scan Unit :=
  modify fun trail => { trail with path := trail.path ++ [segment] }

def pop : Scan Unit :=
  modify fun trail => { trail with path := trail.path.dropLast }

/-- Checks a part, to which the segment leads. -/
def within (segment : PathSegment) (scan : Scan α) : Scan α := do
  push segment
  let data ← scan
  pop
  return data

/-- A check that reads the path and may add issues. -/
def reading (check : Path → List Issue → Checked α) : Scan (Option α) := fun trail =>
  let checked := check trail.path trail.issues
  (checked.data, { trail with issues := checked.issues })

def fail (code : IssueCode) (message : String) : Scan (Option α) :=
  reading fun path found => Check.fail found code path message

def items (item : Json → Scan (Option Json)) : Nat → List Json → Scan (Option (List Json))
  | _, [] => return some []
  | i, value :: rest => do
    let first ← within (.index i) (item value)
    let others ← items item (i + 1) rest
    return first.bind fun d => others.map (d :: ·)

def list (item : Json → Scan (Option Json)) : Json → Scan (Option Json)
  | .arr [] => fail .tooSmall Check.emptyArrayMessage
  | .arr values => do
    let data ← items item 0 values
    return data.map .arr
  | value => fail .invalidType (Check.typeMessage "array" value)

def member (key : String) (mayLack : Bool) (scan : Json → Scan (Option Json))
    (members : List (String × Json)) : Scan (Option (List (String × Json))) :=
  match Assoc.find? key members with
  | none => if mayLack then return some [] else within (.key key) (fail .required "Required")
  | some value => do
    let data ← within (.key key) (scan value)
    return data.map fun d => [(key, d)]

def both (first second : Scan (Option (List (String × Json)))) :
    Scan (Option (List (String × Json))) := do
  let a ← first
  let b ← second
  return a.bind fun a => b.map (a ++ ·)

def close (declared : List String) (members : List (String × Json))
    (scan : Scan (Option (List (String × Json)))) : Scan (Option Json) := do
  let data ← scan
  reading fun path found => Check.close declared path members ⟨data, found⟩

def diagramOrText (kinds : List DiagramKind) : Json → Scan (Option Json)
  | .obj members =>
    close [Check.diagramKey, Check.textKey] members do
      let given ← both
        (member Check.diagramKey true
          (fun v => reading fun path found => Check.diagram kinds path v found) members)
        (member Check.textKey true
          (list fun v => reading fun path found => Check.text path v found) members)
      if (Assoc.find? Check.diagramKey members).isNone &&
          (Assoc.find? Check.textKey members).isNone then
        fail .missingContent Check.missingContentMessage
      else return given
  | value => fail .invalidType (Check.typeMessage "object" value)

end Scan

namespace Shape

mutual

/-- The pass that checks a value with the trail of what is around it. -/
def scan : Shape → Json → Scan (Option Json)
  | text, value => Scan.reading fun path found => Check.text path value found
  | oneOf words, value => Scan.reading fun path found => Check.oneOf words path value found
  | list item, value => Scan.list (fun v => item.scan v) value
  | record fields, .obj members =>
    Scan.close (fields.map Prod.fst) members (scanFields fields members)
  | record _, value => Scan.fail .invalidType (Check.typeMessage "object" value)
  | anyObject, value => Scan.reading fun path found => Check.anyObject path value found
  | diagramOrText kinds, value => Scan.diagramOrText kinds value
  | optional inner, value => inner.scan value

def scanFields : List (String × Shape) → List (String × Json) → Scan (Option (List (String × Json)))
  | [], _ => return some []
  | (key, shape) :: rest, members =>
    Scan.both (Scan.member key shape.isOptional (fun v => shape.scan v) members)
      (scanFields rest members)

end

def present : Shape → Shape
  | optional inner => inner.present
  | shape => shape

end Shape

namespace Scan

variable {α : Type}

/-- A part that only reads the path at its own place only reads it at the place above, since what
was pushed is popped. -/
theorem within_reading (segment : PathSegment) (check : Path → List Issue → Checked α) :
    within segment (reading check) =
      reading fun path found => check (path ++ [segment]) found := by
  funext trail
  have hback : (trail.path ++ [segment]).dropLast = trail.path := List.dropLast_concat
  change (_, Trail.mk (trail.path ++ [segment]).dropLast _) = _
  rw [hback]
  rfl

section

variable {item : Check} {scan : Json → Scan (Option Json)}
  (h : ∀ value, scan value = reading fun path found => item path value found)

include h

theorem items_eq_reading (i : Nat) (values : List Json) :
    items scan i values = reading fun path found => Check.items item path i values found := by
  induction values generalizing i with
  | nil => rfl
  | cons value rest ih =>
    rw [items, h, within_reading, ih]
    rfl

theorem list_eq_reading (value : Json) :
    list scan value = reading fun path found => Check.list item path value found := by
  cases value with
  | arr values =>
    cases values with
    | nil => rfl
    | cons first rest =>
      rw [list, items_eq_reading h]
      · rfl
      · exact List.cons_ne_nil first rest
  | _ => rfl

theorem member_eq_reading (key : String) (mayLack : Bool) (members : List (String × Json)) :
    member key mayLack scan members =
      reading fun path found => Check.member key mayLack item path members found := by
  unfold member Check.member
  cases Assoc.find? key members with
  | none =>
    cases mayLack with
    | true => rfl
    | false => exact within_reading (.key key) _
  | some value =>
    simp only [h, within_reading]
    rfl

end

theorem both_reading (first second : Path → List Issue → Checked (List (String × Json))) :
    both (reading first) (reading second) = reading fun path found =>
      Check.both (first path found) (second path (first path found).issues) :=
  rfl

theorem close_reading (declared : List String) (members : List (String × Json))
    (check : Path → List Issue → Checked (List (String × Json))) :
    close declared members (reading check) = reading fun path found =>
      Check.close declared path members (check path found) :=
  rfl

theorem diagramOrText_eq_reading (kinds : List DiagramKind) (value : Json) :
    diagramOrText kinds value =
      reading fun path found => Check.diagramOrText kinds path value found := by
  cases value with
  | obj members =>
    have hdiagram := @member_eq_reading (Check.diagram kinds) _ fun _ => rfl
    have htexts := @list_eq_reading Check.text _ fun _ => rfl
    rw [diagramOrText, hdiagram, member_eq_reading htexts, both_reading]
    simp only [Check.diagramOrText]
    split_ifs <;> rfl
  | _ => rfl

end Scan

namespace Shape

open Checked

mutual

/-- A pass with a shared trail finds what the check finds that is told the path. -/
theorem scan_eq_reading : (shape : Shape) → (value : Json) →
    shape.scan value = Scan.reading fun path found => shape.check path value found
  | text, value => by
    simp only [scan, check]
  | oneOf words, value => by
    simp only [scan, check]
  | list item, value => by
    simp only [scan, check]
    exact Scan.list_eq_reading (fun v => item.scan_eq_reading v) value
  | record fields, value => by
    cases value with
    | obj members =>
      simp only [scan, check]
      rw [scanFields_eq_reading fields members, Scan.close_reading]
    | _ => rfl
  | anyObject, value => by
    simp only [scan, check]
  | diagramOrText kinds, value => by
    simp only [scan, check]
    exact Scan.diagramOrText_eq_reading kinds value
  | optional inner, value => by
    simp only [scan, check]
    exact inner.scan_eq_reading value

theorem scanFields_eq_reading : (fields : List (String × Shape)) →
    (members : List (String × Json)) → scanFields fields members =
      Scan.reading fun path found => checkFields fields path members found
  | [], members => by
    simp only [scanFields, checkFields]
    rfl
  | (key, shape) :: rest, members => by
    simp only [scanFields, checkFields]
    rw [Scan.member_eq_reading fun v => shape.scan_eq_reading v,
      scanFields_eq_reading rest members, Scan.both_reading]

end

/-- What may be absent is checked like the rest when it is there. -/
theorem issues_present : (shape : Shape) → shape.present.issues = shape.issues
  | optional inner => by
    funext value
    rw [present, issues_present inner, issues]
  | text => rfl
  | oneOf _ => rfl
  | list _ => rfl
  | record _ => rfl
  | anyObject => rfl
  | diagramOrText _ => rfl

theorem issues_check_root (shape : Shape) (value : Json) :
    (shape.check [] value []).issues = shape.issues value := by
  rw [check_eq_report]
  exact List.map_id' _

/-- A pass leaves the path as it found it and keeps the issues found before. It adds the issues of
the value on its own, with the path in front of each, and gives data exactly if there are none.
Those of a list are the issues of its items, one item after another; those of an object are what
each declared field finds, in the order of declaration, and then the keys that are not declared. -/
theorem pass_reports_all (shape : Shape) (value : Json) (path : Path) (found : List Issue) :
    let checked := shape.check path value found
    let own := (shape.check [] value []).issues
    (shape.scan value).run ⟨path, found⟩ = (checked.data, ⟨path, checked.issues⟩) ∧
      checked.issues = found ++ own.map (Issue.under path) ∧
      (checked.data.isSome = true ↔ checked.issues = found) ∧
      match shape.present, value with
      | list item, .arr (first :: rest) =>
        own = (first :: rest).zipIdx.flatMap fun (v, i) =>
          (item.check [] v []).issues.map (Issue.under [.index i])
      | record fields, .obj members =>
        own = (fields.flatMap fun (key, part) =>
            match Assoc.find? key members with
            | none => if part.isOptional then [] else [⟨.required, [.key key], "Required"⟩]
            | some v => (part.check [] v []).issues.map (Issue.under [.key key])) ++
          if ∀ m ∈ members, m.1 ∈ fields.map Prod.fst then []
          else [⟨.unrecognizedKeys, [], "Unrecognized key(s) in object: " ++ ", ".intercalate
            (((members.map Prod.fst).filter (· ∉ fields.map Prod.fst)).map fun key =>
              "'" ++ key ++ "'")⟩]
      | _, _ => True := by
  intro checked own
  have hchecked : checked = report (shape.issues value) (shape.data value) path found :=
    check_eq_report shape path value found
  have hown : own = shape.issues value := issues_check_root shape value
  refine ⟨?_, ?_, ?_, ?_⟩
  · rw [scan_eq_reading]
    rfl
  · rw [hchecked, hown]
    rfl
  · rw [hchecked, report]
    by_cases hnone : shape.issues value = []
    · simp [hnone]
    · simp [hnone]
  · rw [hown, ← issues_present]
    split
    · rename_i item first rest hshape
      simp only [hshape, issues_check_root]
      rw [issues, Check.listIssues, Check.itemIssues_eq_flatMap]
      exact List.cons_ne_nil first rest
    · rename_i fields members hshape
      simp only [hshape, issues_check_root]
      rw [issues, fieldIssues_eq_flatMap, Check.unknownIssues_eq_ite]
      rfl
    · trivial

example : ((table [("name", text)]).scan (.arr [.obj [("name", .str "a")], .obj []])).run
    ⟨[.key "stories"], []⟩ =
      (none, ⟨[.key "stories"],
        [⟨.required, [.key "stories", .index 1, .key "name"], "Required"⟩]⟩) := by rfl

end Shape

end DocSections
