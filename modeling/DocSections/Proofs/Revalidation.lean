import DocSections.Proofs.Conformance
import DocSections.Proofs.Header
import Mathlib.Data.List.Forall2

/-! What validation leaves of content. Flow graphs become records and everything else stays as it
is; a record is no diagram text, so the result is accepted again exactly if nothing was replaced. -/

namespace DocSections

theorem eq_of_forall₂ {α : Type} {R : α → α → Prop} {xs ys : List α} (h : List.Forall₂ R xs ys)
    (heq : ∀ x ∈ xs, ∀ y ∈ ys, R x y → y = x) : ys = xs := by
  induction h with
  | nil => rfl
  | cons hxy _ ih =>
    rw [heq _ List.mem_cons_self _ List.mem_cons_self hxy,
      ih fun x hx y hy => heq x (List.mem_cons_of_mem _ hx) y (List.mem_cons_of_mem _ hy)]

namespace Shape

/-- Whether `d` is the object that stands for the flow graph that a text is; its first word says that
it is one, and flow graphs are allowed. -/
def TakenApart (kinds : List DiagramKind) : Json → Json → Prop
  | .str s, d => .graph ∈ kinds ∧ (Text.words s.toList).head? = some "graph".toList ∧
      ∃ direction content, Diagram.parse kinds s = .ok (.record ⟨.graph, direction, content⟩) ∧
        d = Diagram.graphObject direction content
  | _, _ => False

mutual

/-- Whether `d` is the given value, but for texts that the shape checks as diagrams and that were
taken apart. -/
def DiffersAtGraphs : Shape → Json → Json → Prop
  | list item, .arr values, .arr results =>
    List.Forall₂ (fun v d => item.DiffersAtGraphs v d) values results
  | record fields, .obj members, .obj results =>
    List.Forall₂ (fun m n => n.1 = m.1 ∧ MemberDiffers fields m.1 m.2 n.2) members results
  | diagramOrText kinds, .obj members, .obj results =>
    List.Forall₂ (fun m n => n.1 = m.1 ∧
      (n.2 = m.2 ∨ m.1 = Check.diagramKey ∧ TakenApart kinds m.2 n.2)) members results
  | optional inner, value, d => inner.DiffersAtGraphs value d
  | _, value, d => d = value

def MemberDiffers : List (String × Shape) → String → Json → Json → Prop
  | [], _, value, d => d = value
  | (declared, shape) :: rest, key, value, d =>
    if key = declared ∧ key ∉ rest.map Prod.fst then shape.DiffersAtGraphs value d
    else MemberDiffers rest key value d

end

mutual

def allowsGraph : Shape → Bool
  | list item => item.allowsGraph
  | record fields => anyAllowsGraph fields
  | diagramOrText kinds => kinds.contains .graph
  | optional inner => inner.allowsGraph
  | _ => false

def anyAllowsGraph : List (String × Shape) → Bool
  | [] => false
  | (_, shape) :: rest => shape.allowsGraph || anyAllowsGraph rest

end

theorem diagramOutput_cases (kinds : List DiagramKind) (value : Json) :
    diagramOutput kinds value = value ∨ TakenApart kinds value (diagramOutput kinds value) := by
  cases value with
  | str s =>
    rw [diagramOutput]
    split
    · rename_i direction content hparse
      obtain ⟨hallowed, before, after, hcut, -⟩ := Diagram.cut_of_parse_record hparse
      exact .inr ⟨hallowed, Text.head?_words_iff.mpr ⟨before, after, hcut⟩, _, _, hparse, rfl⟩
    · exact .inl rfl
  | _ => exact .inl rfl

theorem forall₂_map {α β : Type} {R : α → β → Prop} {g : α → β} {xs : List α}
    (h : ∀ x ∈ xs, R x (g x)) : List.Forall₂ R xs (xs.map g) :=
  List.forall₂_map_right_iff.mpr (List.forall₂_same.mpr h)

mutual

/-- The output of a shape differs from its input at flow graphs only. -/
theorem differsAtGraphs_output : (shape : Shape) → (value : Json) →
    shape.DiffersAtGraphs value (shape.output value)
  | text, _ => by rw [DiffersAtGraphs, output] <;> simp
  | oneOf _, _ => by rw [DiffersAtGraphs, output] <;> simp
  | anyObject, _ => by rw [DiffersAtGraphs, output] <;> simp
  | list item, value => by
    cases value with
    | arr values =>
      rw [output, DiffersAtGraphs]
      exact forall₂_map fun v _ => item.differsAtGraphs_output v
    | _ => rw [output, DiffersAtGraphs] <;> simp
  | record fields, value => by
    cases value with
    | obj members =>
      rw [output, DiffersAtGraphs]
      exact forall₂_map fun m _ => ⟨rfl, memberDiffers_memberOutput fields m.1 m.2⟩
    | _ => rw [output, DiffersAtGraphs] <;> simp
  | diagramOrText kinds, value => by
    cases value with
    | obj members =>
      rw [output, DiffersAtGraphs]
      refine forall₂_map fun m _ => ⟨rfl, ?_⟩
      simp only
      split_ifs with hkey
      · exact (diagramOutput_cases kinds m.2).imp id fun h => ⟨hkey, h⟩
      · exact .inl rfl
    | _ => rw [output, DiffersAtGraphs] <;> simp
  | optional inner, value => by
    rw [output, DiffersAtGraphs]
    exact inner.differsAtGraphs_output value

theorem memberDiffers_memberOutput : (fields : List (String × Shape)) → (key : String) →
    (value : Json) → MemberDiffers fields key value (memberOutput fields key value)
  | [], _, _ => by rw [memberOutput, MemberDiffers]
  | (declared, shape) :: rest, key, value => by
    rw [memberOutput, MemberDiffers]
    split_ifs
    · exact shape.differsAtGraphs_output value
    · exact memberDiffers_memberOutput rest key value

end

section

variable {value d : Json}

theorem DiffersAtGraphs.list_cases {item : Shape} (h : (list item).DiffersAtGraphs value d) :
    d = value ∨ ∃ values results, value = .arr values ∧ d = .arr results ∧
      List.Forall₂ item.DiffersAtGraphs values results := by
  cases value with
  | arr values =>
    cases d with
    | arr results =>
      rw [DiffersAtGraphs] at h
      exact .inr ⟨values, results, rfl, rfl, h⟩
    | _ => exact .inl h
  | _ => exact .inl h

theorem DiffersAtGraphs.record_cases {fields : List (String × Shape)}
    (h : (record fields).DiffersAtGraphs value d) :
    d = value ∨ ∃ members results, value = .obj members ∧ d = .obj results ∧
      List.Forall₂ (fun m n => n.1 = m.1 ∧ MemberDiffers fields m.1 m.2 n.2) members results := by
  cases value with
  | obj members =>
    cases d with
    | obj results =>
      rw [DiffersAtGraphs] at h
      exact .inr ⟨members, results, rfl, rfl, h⟩
    | _ => exact .inl h
  | _ => exact .inl h

theorem DiffersAtGraphs.diagramOrText_cases {kinds : List DiagramKind}
    (h : (diagramOrText kinds).DiffersAtGraphs value d) :
    d = value ∨ ∃ members results, value = .obj members ∧ d = .obj results ∧
      List.Forall₂ (fun m n => n.1 = m.1 ∧
        (n.2 = m.2 ∨ m.1 = Check.diagramKey ∧ TakenApart kinds m.2 n.2)) members results := by
  cases value with
  | obj members =>
    cases d with
    | obj results =>
      rw [DiffersAtGraphs] at h
      exact .inr ⟨members, results, rfl, rfl, h⟩
    | _ => exact .inl h
  | _ => exact .inl h

end

mutual

theorem eq_of_not_allowsGraph : (shape : Shape) → {value d : Json} → shape.allowsGraph = false →
    shape.DiffersAtGraphs value d → d = value
  | text, _, _, _, h => by rwa [DiffersAtGraphs] at h <;> simp
  | oneOf _, _, _, _, h => by rwa [DiffersAtGraphs] at h <;> simp
  | anyObject, _, _, _, h => by rwa [DiffersAtGraphs] at h <;> simp
  | list item, value, d, hn, h => by
    rcases h.list_cases with heq | ⟨values, results, rfl, rfl, hitems⟩
    · exact heq
    · rw [eq_of_forall₂ hitems fun v _ r _ hvr => item.eq_of_not_allowsGraph hn hvr]
  | record fields, value, d, hn, h => by
    rcases h.record_cases with heq | ⟨members, results, rfl, rfl, hmembers⟩
    · exact heq
    · rw [eq_of_forall₂ hmembers fun m _ n _ hmn =>
        Prod.ext hmn.1 (memberEq_of_not_allowsGraph fields hn hmn.2)]
  | diagramOrText kinds, value, d, hn, h => by
    rcases h.diagramOrText_cases with heq | ⟨members, results, rfl, rfl, hmembers⟩
    · exact heq
    · have hgraph : .graph ∉ kinds := by
        intro hmem
        rw [allowsGraph, List.contains_iff_mem.mpr hmem] at hn
        cases hn
      rw [eq_of_forall₂ hmembers]
      rintro m - n - ⟨hkey, hsame | ⟨-, happart⟩⟩
      · exact Prod.ext hkey hsame
      · unfold TakenApart at happart
        split at happart
        · exact absurd happart.1 hgraph
        · cases happart
  | optional inner, value, d, hn, h => by
    rw [DiffersAtGraphs] at h
    exact inner.eq_of_not_allowsGraph hn h

theorem memberEq_of_not_allowsGraph : (fields : List (String × Shape)) → {key : String} →
    {value d : Json} → anyAllowsGraph fields = false → MemberDiffers fields key value d → d = value
  | [], _, _, _, _, h => by rwa [MemberDiffers] at h
  | (declared, shape) :: rest, key, value, d, hn, h => by
    rw [anyAllowsGraph, Bool.or_eq_false_iff] at hn
    rw [MemberDiffers] at h
    split_ifs at h
    · exact shape.eq_of_not_allowsGraph hn.1 h
    · exact memberEq_of_not_allowsGraph rest hn.2 h

end

/-- The record of a flow graph is no text, so no diagram is read from it. -/
theorem not_isDiagram_of_takenApart {kinds : List DiagramKind} {value d : Json}
    (h : TakenApart kinds value d) : ¬ IsDiagram kinds d := by
  unfold TakenApart at h
  split at h
  · obtain ⟨-, -, direction, content, -, rfl⟩ := h
    exact id
  · cases h

/-- Where members are in step with content, each is what is found at its key. -/
theorem find?_of_forall₂ {R : String × Json → String × Json → Prop}
    {members results : List (String × Json)} (hc : (Json.obj members).Canonical)
    (h : List.Forall₂ (fun m n => n.1 = m.1 ∧ R m n) members results) {n : String × Json}
    (hn : n ∈ results) : Assoc.find? n.1 results = some n.2 := by
  have hnodup : (results.map Prod.fst).Nodup := by
    rw [Assoc.keys_eq_of_forall₂ (fun _ _ hmn => hmn.1) h]
    exact hc.1.nodup_keys
  exact (Assoc.find?_eq_some_iff hnodup).mpr hn

theorem MemberIs.of_find? {key : String} {mayLack : Bool} {p : Json → Prop}
    {members : List (String × Json)} {value : Json} (h : MemberIs key mayLack p members)
    (hfind : Assoc.find? key members = some value) : p value := by
  rwa [MemberIs, hfind] at h

mutual

/-- What differs from content has the shape only if it does not differ at all: where a text was
taken apart, a text is wanted. -/
theorem eq_of_conforms : (shape : Shape) → {value d : Json} → value.Canonical →
    shape.DiffersAtGraphs value d → shape.Conforms d → d = value
  | text, _, _, _, h, _ => by rwa [DiffersAtGraphs] at h <;> simp
  | oneOf _, _, _, _, h, _ => by rwa [DiffersAtGraphs] at h <;> simp
  | anyObject, _, _, _, h, _ => by rwa [DiffersAtGraphs] at h <;> simp
  | list item, value, d, hc, h, hd => by
    rcases h.list_cases with heq | ⟨values, results, rfl, rfl, hitems⟩
    · exact heq
    · rw [Conforms] at hd
      rw [eq_of_forall₂ hitems fun v hv r hr hvr =>
        item.eq_of_conforms (Json.canonicalItems_iff.mp hc v hv) hvr (hd.2 r hr)]
  | record fields, value, d, hc, h, hd => by
    rcases h.record_cases with heq | ⟨members, results, rfl, rfl, hmembers⟩
    · exact heq
    · rw [Conforms] at hd
      rw [eq_of_forall₂ hmembers]
      intro m hm n hn hmn
      have hfind := find?_of_forall₂ hc hmembers hn
      rw [hmn.1] at hfind
      have hcanonical := Json.canonicalMembers_iff.mp hc.2 m hm
      exact Prod.ext hmn.1 (memberEq_of_conforms fields hcanonical hmn.2 hd.1 hfind)
  | diagramOrText kinds, value, d, hc, h, hd => by
    rcases h.diagramOrText_cases with heq | ⟨members, results, rfl, rfl, hmembers⟩
    · exact heq
    · rw [Conforms] at hd
      obtain ⟨-, -, hdiagram, -⟩ := hd
      rw [eq_of_forall₂ hmembers]
      -- a member that was taken apart holds no text, so the shape would refuse it
      rintro m - n hn ⟨hkey, hsame | ⟨hdiagramKey, happart⟩⟩
      · exact Prod.ext hkey hsame
      · have hfind := find?_of_forall₂ hc hmembers hn
        rw [hkey, hdiagramKey] at hfind
        exact absurd (hdiagram.of_find? hfind) (not_isDiagram_of_takenApart happart)
  | optional inner, value, d, hc, h, hd => by
    rw [DiffersAtGraphs] at h
    rw [Conforms] at hd
    exact inner.eq_of_conforms hc h hd

theorem memberEq_of_conforms : (fields : List (String × Shape)) → {key : String} →
    {value d : Json} → {results : List (String × Json)} → value.Canonical →
    MemberDiffers fields key value d → FieldsConform fields results →
    Assoc.find? key results = some d → d = value
  | [], _, _, _, _, _, h, _, _ => by rwa [MemberDiffers] at h
  | (declared, shape) :: rest, key, value, d, results, hc, h, hd, hfind => by
    rw [FieldsConform] at hd
    rw [MemberDiffers] at h
    split_ifs at h with hlast
    · rw [hlast.1] at hfind
      exact shape.eq_of_conforms hc h (hd.1.of_find? hfind)
    · exact memberEq_of_conforms rest hc h hd.2 hfind

end

theorem validate_isOk_iff (shape : Shape) (value : Json) :
    (∃ d, shape.validate value = .ok d) ↔ shape.Conforms value := by
  rw [validate_eq, ← issues_eq_nil_iff]
  split_ifs with h
  · exact ⟨fun _ => h, fun _ => ⟨_, rfl⟩⟩
  · constructor
    · rintro ⟨d, hd⟩
      cases hd
    · intro hnil
      exact absurd hnil h

theorem eq_output_of_validate {shape : Shape} {c : Content} {d : Json}
    (h : shape.validate c.json = .ok d) : d = shape.output c.json := by
  have hconforms := (validate_isOk_iff shape c.json).mp ⟨d, h⟩
  rw [validate_eq, if_pos ((shape.issues_eq_nil_iff c.json).mpr hconforms),
    shape.data_eq_output c.canonical hconforms] at h
  exact (Except.ok.inj h).symm

/-- Validated content differs from what was given at flow graphs only, and not at all where none are
allowed. It is accepted again exactly if nothing differs, and then it is left as it is. -/
theorem validated_differs_at_graphs (shape : Shape) (c : Content) {d : Json}
    (h : shape.validate c.json = .ok d) :
    shape.DiffersAtGraphs c.json d ∧ (shape.allowsGraph = false → d = c.json) ∧
      ((∃ e, shape.validate d = .ok e) ↔ d = c.json) ∧
      (d = c.json → shape.validate d = .ok d) := by
  have hdiffers : shape.DiffersAtGraphs c.json d := by
    rw [eq_output_of_validate h]
    exact shape.differsAtGraphs_output c.json
  have hself : d = c.json → shape.validate d = .ok d := by
    rintro rfl
    exact h
  refine ⟨hdiffers, fun hn => shape.eq_of_not_allowsGraph hn hdiffers, ?_, hself⟩
  constructor
  · intro hagain
    have hconforms := (validate_isOk_iff shape d).mp hagain
    exact shape.eq_of_conforms c.canonical hdiffers hconforms
  · intro heq
    exact ⟨d, hself heq⟩

end Shape

/-- A record that declares one key twice, at first for any object. -/
def flowShape : Shape :=
  .record [("flow", .anyObject), ("flow", .diagramOrText [.erDiagram, .graph])]

def flowContent : Content :=
  .of (.obj [("flow", .obj [("diagram", .str "\ngraph TD\nA --> B\n"), ("text", .arr [.str "a"])])])

/-- The flow graph is taken apart as the last declaration says, and the result is refused. -/
theorem flowContent_differs_at_graphs :
    let d : Json := .obj [("flow", .obj [
      ("diagram", .obj [("content", .str "A --> B"), ("diagramType", .str "graph"),
        ("direction", .str "TD"), ("type", .str "mermaid")]),
      ("text", .arr [.str "a"])])]
    flowShape.validate flowContent.json = .ok d ∧
      flowShape.DiffersAtGraphs flowContent.json d ∧ d ≠ flowContent.json ∧
      ¬ ∃ e, flowShape.validate d = .ok e := by
  intro d
  have hok : flowShape.validate flowContent.json = .ok d := by rfl
  have hne : d ≠ flowContent.json := by decide +kernel
  obtain ⟨hdiffers, -, hagain, -⟩ := Shape.validated_differs_at_graphs flowShape flowContent hok
  exact ⟨hok, hdiffers, hne, fun h => hne (hagain.mp h)⟩

end DocSections
