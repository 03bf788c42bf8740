import DocSections.Proofs.Export
import DocSections.Proofs.Location
import DocSections.Proofs.PathDisplay

/-! The keys on the paths of issues. They are declared by the shape that finds the issues: by the
built-in shapes, or made from the names of sections. So they have no point and no bracket in them,
and the place of an issue is told by how its path is displayed, but for empty keys in front. -/

namespace DocSections

namespace Issue

variable {p : String → Bool} {i : Issue}

theorem keysSatisfy_of_path_eq_nil (h : i.path = []) : i.path.KeysSatisfy p := by
  rw [h]
  exact nofun

theorem keysSatisfy_under_key {key : String} (hkey : p key = true) (h : i.path.KeysSatisfy p) :
    (i.under [.key key]).path.KeysSatisfy p := by
  intro name hname
  rcases List.mem_cons.mp hname with heq | hrest
  · cases heq
    exact hkey
  · exact h name hrest

theorem keysSatisfy_under_index (j : Nat) (h : i.path.KeysSatisfy p) :
    (i.under [.index j]).path.KeysSatisfy p := by
  intro name hname
  rcases List.mem_cons.mp hname with heq | hrest
  · cases heq
  · exact h name hrest

end Issue

namespace Check

variable {p : String → Bool} {i : Issue} {value : Json} {members : List (String × Json)}

theorem path_eq_nil_of_mem_textIssues (h : i ∈ textIssues value) : i.path = [] := by
  cases value with
  | str s =>
    rw [textIssues] at h
    split_ifs at h
    · rw [List.mem_singleton.mp h]
    · cases h
  | _ => rw [List.mem_singleton.mp h, typeIssue]

theorem path_eq_nil_of_mem_oneOfIssues {words : List String} (h : i ∈ oneOfIssues words value) :
    i.path = [] := by
  cases value with
  | str s =>
    rw [oneOfIssues] at h
    split_ifs at h
    · cases h
    · rw [List.mem_singleton.mp h]
  | _ => rw [List.mem_singleton.mp h, typeIssue]

theorem path_eq_nil_of_mem_anyObjectIssues (h : i ∈ anyObjectIssues value) : i.path = [] := by
  cases value with
  | obj members => cases h
  | _ => rw [List.mem_singleton.mp h, typeIssue]

theorem path_eq_nil_of_mem_diagramIssues {kinds : List DiagramKind}
    (h : i ∈ diagramIssues kinds value) : i.path = [] := by
  cases value with
  | str s =>
    rw [diagramIssues] at h
    split_ifs at h
    · rw [List.mem_singleton.mp h]
    · split at h
      · cases h
      · rw [List.mem_singleton.mp h]
  | _ => rw [List.mem_singleton.mp h, typeIssue]

theorem path_eq_nil_of_mem_missingContentIssues (h : i ∈ missingContentIssues members) :
    i.path = [] := by
  unfold missingContentIssues at h
  split_ifs at h
  · rw [List.mem_singleton.mp h]
  · cases h

theorem keysSatisfy_of_mem_memberIssues {key : String} {mayLack : Bool}
    {issues : Json → List Issue} (hkey : p key = true)
    (hvalue : ∀ v, ∀ j ∈ issues v, j.path.KeysSatisfy p)
    (h : i ∈ memberIssues key mayLack issues members) : i.path.KeysSatisfy p := by
  rcases mem_memberIssues_iff.mp h with ⟨-, -, rfl⟩ | ⟨v, -, inner, hinner, rfl⟩
  · intro name hname
    cases List.mem_singleton.mp hname
    exact hkey
  · exact Issue.keysSatisfy_under_key hkey (hvalue v inner hinner)

theorem keysSatisfy_of_mem_listIssues {issues : Json → List Issue}
    (hitem : ∀ v, ∀ j ∈ issues v, j.path.KeysSatisfy p) (h : i ∈ listIssues issues value) :
    i.path.KeysSatisfy p := by
  cases value with
  | arr values =>
    cases values with
    | nil =>
      rw [listIssues, List.mem_singleton] at h
      exact i.keysSatisfy_of_path_eq_nil (by rw [h])
    | cons first rest =>
      rw [listIssues] at h
      · obtain ⟨j, v, -, inner, hinner, rfl⟩ := mem_itemIssues_iff.mp h
        exact Issue.keysSatisfy_under_index _ (hitem v inner hinner)
      · exact List.cons_ne_nil first rest
  | _ => exact i.keysSatisfy_of_path_eq_nil (by rw [List.mem_singleton.mp h, typeIssue])

theorem keysSatisfy_of_mem_diagramOrTextIssues {kinds : List DiagramKind}
    (hdiagramKey : p diagramKey = true) (htextKey : p textKey = true)
    (h : i ∈ diagramOrTextIssues kinds value) : i.path.KeysSatisfy p := by
  cases value with
  | obj members =>
    rw [diagramOrTextIssues] at h
    rcases List.mem_append.mp h with h | hunknown
    · rcases List.mem_append.mp h with h | hmissing
      · rcases List.mem_append.mp h with hdiagram | htext
        · refine keysSatisfy_of_mem_memberIssues hdiagramKey (fun v j hj => ?_) hdiagram
          exact j.keysSatisfy_of_path_eq_nil (path_eq_nil_of_mem_diagramIssues hj)
        · refine keysSatisfy_of_mem_memberIssues htextKey (fun v j hj => ?_) htext
          refine keysSatisfy_of_mem_listIssues (fun w k hk => ?_) hj
          exact k.keysSatisfy_of_path_eq_nil (path_eq_nil_of_mem_textIssues hk)
      · exact i.keysSatisfy_of_path_eq_nil (path_eq_nil_of_mem_missingContentIssues hmissing)
    · exact i.keysSatisfy_of_path_eq_nil (path_eq_nil_of_mem_unknownIssues hunknown)
  | _ => exact i.keysSatisfy_of_path_eq_nil (by rw [List.mem_singleton.mp h, typeIssue])

end Check

namespace Shape

mutual

/-- Whether every key that a shape declares, at any depth, satisfies `p`. -/
def allKeys (p : String → Bool) : Shape → Bool
  | text | oneOf _ | anyObject => true
  | list item => item.allKeys p
  | record fields => allFieldKeys p fields
  | diagramOrText _ => p Check.diagramKey && p Check.textKey
  | optional inner => inner.allKeys p

def allFieldKeys (p : String → Bool) : List (String × Shape) → Bool
  | [] => true
  | (key, shape) :: rest => p key && shape.allKeys p && allFieldKeys p rest

end

variable {p : String → Bool}

theorem allKeys_record_iff {fields : List Field} : (record fields).allKeys p = true ↔
    ∀ field ∈ fields, p field.1 = true ∧ field.2.allKeys p = true := by
  rw [allKeys]
  induction fields with
  | nil => exact iff_of_true rfl nofun
  | cons field rest ih =>
    rw [allFieldKeys, Bool.and_eq_true, Bool.and_eq_true, List.forall_mem_cons, ih]

theorem allKeys_orAbsent (shape : Shape) : shape.orAbsent.allKeys p = shape.allKeys p := by
  unfold orAbsent
  split_ifs
  · rfl
  · rw [allKeys]

mutual

theorem keysSatisfy_of_mem_issues : (shape : Shape) → shape.allKeys p = true → {value : Json} →
    {i : Issue} → i ∈ shape.issues value → i.path.KeysSatisfy p
  | text, _, _, i, h => by
    rw [issues] at h
    exact i.keysSatisfy_of_path_eq_nil (Check.path_eq_nil_of_mem_textIssues h)
  | oneOf words, _, _, i, h => by
    rw [issues] at h
    exact i.keysSatisfy_of_path_eq_nil (Check.path_eq_nil_of_mem_oneOfIssues h)
  | anyObject, _, _, i, h => by
    rw [issues] at h
    exact i.keysSatisfy_of_path_eq_nil (Check.path_eq_nil_of_mem_anyObjectIssues h)
  | list item, hkeys, _, _, h => by
    rw [issues] at h
    rw [allKeys] at hkeys
    exact Check.keysSatisfy_of_mem_listIssues
      (fun _ _ hj => item.keysSatisfy_of_mem_issues hkeys hj) h
  | record fields, hkeys, value, i, h => by
    cases value with
    | obj members =>
      rw [issues] at h
      rcases List.mem_append.mp h with hfields | hunknown
      · exact keysSatisfy_of_mem_fieldIssues fields hkeys hfields
      · exact i.keysSatisfy_of_path_eq_nil (Check.path_eq_nil_of_mem_unknownIssues hunknown)
    | _ => exact i.keysSatisfy_of_path_eq_nil (by rw [List.mem_singleton.mp h, Check.typeIssue])
  | diagramOrText kinds, hkeys, _, _, h => by
    rw [issues] at h
    rw [allKeys, Bool.and_eq_true] at hkeys
    exact Check.keysSatisfy_of_mem_diagramOrTextIssues hkeys.1 hkeys.2 h
  | optional inner, hkeys, _, _, h => by
    rw [issues] at h
    rw [allKeys] at hkeys
    exact inner.keysSatisfy_of_mem_issues hkeys h

theorem keysSatisfy_of_mem_fieldIssues : (fields : List (String × Shape)) →
    allFieldKeys p fields = true → {members : List (String × Json)} → {i : Issue} →
    i ∈ fieldIssues fields members → i.path.KeysSatisfy p
  | [], _, _, _, h => by
    rw [fieldIssues] at h
    cases h
  | (key, shape) :: rest, hkeys, _, _, h => by
    rw [allFieldKeys, Bool.and_eq_true, Bool.and_eq_true] at hkeys
    obtain ⟨⟨hkey, hshape⟩, hrest⟩ := hkeys
    rw [fieldIssues] at h
    rcases List.mem_append.mp h with hmember | hothers
    · exact Check.keysSatisfy_of_mem_memberIssues hkey
        (fun _ _ hj => shape.keysSatisfy_of_mem_issues hshape hj) hmember
    · exact keysSatisfy_of_mem_fieldIssues rest hrest hothers

end

theorem head?_path_of_mem_issues {fields : List Field} {value : Json} {i : Issue}
    (h : i ∈ (record fields).issues value) :
    i.path = [] ∨ ∃ key ∈ fields.map Prod.fst, i.path.head? = some (.key key) := by
  cases value with
  | obj members =>
    rw [issues, fieldIssues_eq_flatMap] at h
    rcases List.mem_append.mp h with hfields | hunknown
    · obtain ⟨field, hfield, hmember⟩ := List.mem_flatMap.mp hfields
      exact .inr ⟨field.1, List.mem_map_of_mem hfield,
        Check.head?_path_of_mem_memberIssues hmember⟩
    · exact .inl (Check.path_eq_nil_of_mem_unknownIssues hunknown)
  | _ =>
    rw [List.mem_singleton.mp h]
    exact .inl rfl

end Shape

namespace Registry

variable {r : Registry} {f : Family} {d : DocumentType} {schema : FamilySchema}

theorem Builtin.isPlainKey_of_shape (hr : r.Builtin f.id) (h : r.composeFamily f d = .ok schema) :
    schema.shape.allKeys isPlainKey = true := by
  have htables : ∀ e ∈ businessTable ++ planningTable ++ qualityTable ++ designTable,
      ∀ shape ∈ e.2.ownShapes, shape.allKeys isPlainKey = true := by decide +kernel
  refine (composed_induction (P := fun shape => shape.allKeys isPlainKey = true) h
    (hr.forall_factory htables) rfl ?_ ?_).2
  · intro shape hshape
    rwa [Shape.allKeys_orAbsent]
  · intro fields _ hfields
    refine Shape.allKeys_record_iff.mpr fun field hfield => ?_
    obtain ⟨⟨s, hkey⟩, hshape⟩ := hfields field hfield
    rw [hkey]
    exact ⟨isPlainKey_camelCase s.name, hshape⟩

/-- If every section at the top has a letter or a digit in its name, no issue is found at a path
that begins with an empty key. -/
theorem afterEmptyKeys_eq_of_named (h : r.composeFamily f d = .ok schema)
    (hnamed : ∀ s ∈ f.topLevel, s.Applies d → ∃ c ∈ s.name.toList, Text.isAlphanumeric c = true)
    {value : Json} {i : Issue} (hi : i ∈ schema.shape.issues value) :
    i.path.afterEmptyKeys = i.path := by
  -- the first key on a path is that of a section at the top
  rcases Shape.head?_path_of_mem_issues hi with hnil | ⟨key, hkey, hhead⟩
  · rw [hnil]
    rfl
  · have hne : key ≠ "" := by
      have hmem : key ∈ schema.keys := hkey
      rw [(keys_eq_map h).1] at hmem
      obtain ⟨s, hs, rfl⟩ := List.mem_map.mp hmem
      obtain ⟨htop, happlies⟩ := List.mem_filter.mp hs
      obtain ⟨c, hc, hletter⟩ := hnamed s htop (of_decide_eq_true happlies)
      intro hempty
      have hnone := camelCase_eq_empty_iff.mp hempty c hc
      rw [hletter] at hnone
      cases hnone
    obtain ⟨rest, hpath⟩ : ∃ rest, i.path = .key key :: rest := by
      cases hp : i.path with
      | nil => simp [hp] at hhead
      | cons segment rest =>
        rw [hp, List.head?_cons, Option.some.injEq] at hhead
        exact ⟨rest, by rw [hhead]⟩
    rw [hpath, Path.afterEmptyKeys, List.dropWhile_cons, if_neg (by simpa using hne)]

/-- With built-in factories, the display of an issue tells its place, except for empty keys that the
path begins with. There are none if every section at the top has a letter or a digit in its
name. -/
theorem pathString_identifies (hr : r.Builtin f.id) (h : r.composeFamily f d = .ok schema)
    {value : Json} {issues : List Issue} (hv : schema.validate value = .error issues)
    {i j : Issue} (hi : i ∈ issues) (hj : j ∈ issues) :
    (i.pathString = j.pathString ↔ i.path.afterEmptyKeys = j.path.afterEmptyKeys) ∧
      ((∀ s ∈ f.topLevel, s.Applies d →
          ∃ c ∈ s.name.toList, Text.isAlphanumeric c = true) →
        i.path ≠ j.path → i.pathString ≠ j.pathString) := by
  rw [(Shape.validate_eq_error_iff.mp hv).2] at hi hj
  have hkeys := hr.isPlainKey_of_shape h
  have hiff : i.pathString = j.pathString ↔ i.path.afterEmptyKeys = j.path.afterEmptyKeys :=
    Path.display_eq_iff (Shape.keysSatisfy_of_mem_issues _ hkeys hi)
      (Shape.keysSatisfy_of_mem_issues _ hkeys hj)
  refine ⟨hiff, fun hnamed hne hsame => hne ?_⟩
  have hafter := hiff.mp hsame
  rwa [afterEmptyKeys_eq_of_named h hnamed hi, afterEmptyKeys_eq_of_named h hnamed hj] at hafter

end Registry

/-- Two items of one list under two composites. -/
theorem sketch_pathString_identifies :
    let value := Json.obj [("risks", .obj [("owners", .obj [("names",
      .obj [("text", .arr [.str "", .str ""])])])])]
    let i : Issue := ⟨.tooSmall, [.key "risks", .key "owners", .key "names", .key "text", .index 0],
      Check.emptyStringMessage⟩
    let j : Issue := ⟨.tooSmall, [.key "risks", .key "owners", .key "names", .key "text", .index 1],
      Check.emptyStringMessage⟩
    ∃ schema, sketchRegistry.composeFamily deliveryFamily .plan = .ok schema ∧
      schema.validate value = .error [i, j] ∧
      (i.pathString = j.pathString ↔ i.path.afterEmptyKeys = j.path.afterEmptyKeys) ∧
      i.pathString ≠ j.pathString := by
  intro value i j
  obtain ⟨schema, hcomposed, hvalue⟩ : ∃ schema,
      sketchRegistry.composeFamily deliveryFamily .plan = .ok schema ∧
        schema.validate value = .error [i, j] := ⟨_, by rfl, by rfl⟩
  have hidentifies := Registry.pathString_identifies builtin_sketchRegistry hcomposed hvalue
    List.mem_cons_self (List.mem_cons_of_mem i List.mem_cons_self)
  have htop : deliveryFamily.topLevel = [requiredSection "9.1" "Risks"] := by rfl
  have hnamed : ∀ s ∈ deliveryFamily.topLevel, s.Applies .plan →
      ∃ c ∈ s.name.toList, Text.isAlphanumeric c = true := by
    intro s hs _
    rw [htop, List.mem_singleton] at hs
    rw [hs]
    exact ⟨'R', List.mem_cons_self, by decide⟩
  exact ⟨schema, hcomposed, hvalue, hidentifies.1, hidentifies.2 hnamed (by decide)⟩

/-- A family with a section that has no letter and no digit in its name. Below it and next to it are
sections of one name. -/
def dashedFamily : Family :=
  { deliveryFamily with
    sections := [requiredSection "9.1" "---", requiredSection "9.1.1" "Risks",
      requiredSection "9.2" "Risks"] }

def dashedRegistry : Registry :=
  Registry.empty.withTable 9 (.ofPairs [("9.1", .composite),
    ("9.1.1", Registry.fixed .textList), ("9.2", Registry.fixed .textList)])

theorem builtin_dashedRegistry : dashedRegistry.Builtin dashedFamily.id := by
  refine Registry.builtin_withTable ?_
  simp only [List.forall_mem_cons]
  exact ⟨⟨"4.2", by rfl⟩, ⟨"1.2", by rfl⟩, ⟨"1.2", by rfl⟩, nofun⟩

/-- Nothing is written for the empty key, so two places have one display. -/
theorem dashed_pathString_eq :
    dashedRegistry.Builtin dashedFamily.id ∧ dashedFamily.checkStructure = .ok () ∧
      ∃ schema, dashedRegistry.composeFamily dashedFamily .plan = .ok schema ∧
        ∃ issues, schema.validate (.obj [("", .obj [])]) = .error issues ∧
          ∃ i ∈ issues, ∃ j ∈ issues, i.path ≠ j.path ∧ i.pathString = j.pathString := by
  let below : Issue := ⟨.required, [.key "", .key "risks"], "Required"⟩
  let beside : Issue := ⟨.required, [.key "risks"], "Required"⟩
  obtain ⟨schema, hcomposed, hvalue⟩ : ∃ schema,
      dashedRegistry.composeFamily dashedFamily .plan = .ok schema ∧
        schema.validate (.obj [("", .obj [])]) = .error [below, beside] := ⟨_, by rfl, by rfl⟩
  exact ⟨builtin_dashedRegistry, by rfl, schema, hcomposed, _, hvalue, below, List.mem_cons_self,
    beside, List.mem_cons_of_mem _ List.mem_cons_self, by decide, by decide +kernel⟩

end DocSections
