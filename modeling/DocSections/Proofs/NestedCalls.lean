import DocSections.Proofs.Composition
import DocSections.Proofs.Forest

/-! Composition as a recursion over ids. A factory that composes what is under its section finds the
children by the id alone, so that nothing in the recursion itself gets smaller. It ends since a
child has one point more in its id than its parent, and no id of the family has more points than
`maxDepth`, be the ids repeated, without a parent, or no ids of sections at all. -/

namespace DocSections

namespace Composer

/-- What composes the sections under an id. -/
abbrev Recursion := String → ShapeIndex → Composition (List Field × ShapeIndex)

/-- Composes sections in order, where `recurse` composes what is under each of them. -/
def composeSections (c : Composer) (f : Family) (recurse : Recursion) :
    List Section → List String → ShapeIndex → Composition (List Field × ShapeIndex)
  | [], _, index => .ok ([], index)
  | s :: rest, keys, index => do
    let (field, index) ← c.composeSection s (f.childrenOf s.id) (recurse s.id) index
    c.addField s keys field fun keys => c.composeSections f recurse rest keys index

/-- Composes the sections under an id with calls that nest `budget` deep. What a call that is nested
deeper gives is left to `beyond`. -/
def composeUnder (c : Composer) (f : Family) (beyond : Recursion) : Nat → Recursion
  | 0 => beyond
  | budget + 1 => fun parent index =>
    c.composeSections f (c.composeUnder f beyond budget) (f.childrenOf parent) [] index

/-- Whether the sections under each id are composed in order, by the recursion itself where it goes
on below them. -/
def Solves (c : Composer) (f : Family) (recurse : Recursion) : Prop :=
  ∀ parent index, recurse parent index =
    c.composeSections f recurse (f.childrenOf parent) [] index

/-- Whether composing the sections under `parent` composes the sections under `id`. -/
def Calls (c : Composer) (f : Family) (parent id : String) : Prop :=
  ∃ s ∈ f.childrenOf parent, s.Applies c.documentType ∧ c.Opens s ∧ s.id = id

variable {c : Composer} {f : Family} {recurse recurse' beyond : Recursion} {parent id : String}

theorem depth_of_calls (h : c.Calls f parent id) :
    SectionId.depth id = SectionId.depth parent + 1 ∧ SectionId.depth id ≤ f.maxDepth := by
  obtain ⟨s, hs, -, -, rfl⟩ := h
  have hmem := (Family.mem_childrenOf.mp hs).1
  exact ⟨Family.depth_of_mem_childrenOf hs, Family.depth_le_maxDepth hmem⟩

theorem length_le_of_isChain {ids : List String} (h : (parent :: ids).IsChain (c.Calls f))
    (hparent : SectionId.depth parent ≤ f.maxDepth) :
    SectionId.depth parent + ids.length ≤ f.maxDepth := by
  induction ids generalizing parent with
  | nil => exact hparent
  | cons id rest ih =>
    obtain ⟨hcall, hrest⟩ := List.isChain_cons_cons.mp h
    obtain ⟨hdeeper, hid⟩ := depth_of_calls hcall
    have hlength := ih hrest hid
    rw [List.length_cons]
    omega

section

variable {children children' : ShapeIndex → Composition (List Field × ShapeIndex)}

theorem make_congr {factory : Factory} (h : factory.opens = true → children = children')
    (id : String) (index : ShapeIndex) :
    c.make factory id children index = c.make factory id children' index := by
  cases factory with
  | composite => rw [h rfl]
  | container => rw [h rfl]
  | leaf shape => rfl
  | shared shape ids => rfl

/-- What is under a section matters only if the section applies and its factory opens it. -/
theorem composeSection_congr {s : Section}
    (h : s.Applies c.documentType → c.Opens s → children = children') (below : List Section)
    (index : ShapeIndex) :
    c.composeSection s below children index = c.composeSection s below children' index := by
  unfold composeSection
  cases hp : s.isPlaceholder with
  | true => rfl
  | false =>
    cases ha : s.applicability.get? c.documentType with
    | none => simp [Section.applicabilityFor, ha, bind, Except.bind]
    | some a =>
      rw [Section.applicabilityFor_eq_ok_iff.mpr ha]
      simp only [bind, Except.bind, Bool.false_eq_true, if_false]
      split_ifs with homitted
      · rfl
      · have happlies := (Section.applies_iff_ne_omitted hp ha).mpr homitted
        unfold composeApplicable
        cases hf : c.factory? s.id with
        | none => rfl
        | some factory =>
          have hmake := make_congr (c := c)
            (fun ho : factory.opens = true => h happlies ((opens_iff hf).mpr ho)) s.id index
          simp only [hmake]

end

/-- Sections ask a recursion only for the ids that they call. -/
theorem composeSections_congr {ss : List Section}
    (h : ∀ s ∈ ss, s.Applies c.documentType → c.Opens s → recurse s.id = recurse' s.id)
    (keys : List String) (index : ShapeIndex) :
    c.composeSections f recurse ss keys index = c.composeSections f recurse' ss keys index := by
  induction ss generalizing keys index with
  | nil => rfl
  | cons s rest ih =>
    have hrest := ih fun t ht => h t (List.mem_cons_of_mem _ ht)
    simp only [composeSections, composeSection_congr (h s List.mem_cons_self), hrest]

theorem composeSections_childrenOf_congr (h : ∀ id, c.Calls f parent id → recurse id = recurse' id)
    (keys : List String) (index : ShapeIndex) :
    c.composeSections f recurse (f.childrenOf parent) keys index =
      c.composeSections f recurse' (f.childrenOf parent) keys index :=
  composeSections_congr (fun s hs ha ho => h s.id ⟨s, hs, ha, ho, rfl⟩) keys index

/-- Two solutions agree on an id if they agree on the ids that it calls. -/
theorem Solves.eq (h : c.Solves f recurse) (h' : c.Solves f recurse') : recurse = recurse' := by
  funext parent
  induction parent using f.children_induction with
  | step parent ih =>
    funext index
    rw [h, h']
    refine composeSections_childrenOf_congr (fun id hcall => ?_) [] index
    obtain ⟨s, hs, -, -, rfl⟩ := hcall
    exact ih s hs

def outlined (c : Composer) (f : Family) : Recursion := fun parent index =>
  c.composeAll ((f.childrenOf parent).map f.branch) [] index

theorem composeAll_map_branch (ss : List Section) (keys : List String) (index : ShapeIndex) :
    c.composeAll (ss.map f.branch) keys index =
      c.composeSections f (c.outlined f) ss keys index := by
  induction ss generalizing keys index with
  | nil => rfl
  | cons s rest ih =>
    have hbranch : c.compose (f.branch s) index =
        c.composeSection s (f.childrenOf s.id) (c.outlined f s.id) index := by
      rw [Family.branch_eq, compose, Family.map_top_branch]
      rfl
    simp only [List.map_cons, composeAll, composeSections, hbranch, Family.top_branch, ih]

theorem solves_outlined (c : Composer) (f : Family) : c.Solves f (c.outlined f) :=
  fun parent index => composeAll_map_branch (f.childrenOf parent) [] index

/-- A call that has as many calls left as can follow it gives what a solution gives, so that none
is nested too deep. -/
theorem Solves.composeUnder_eq (h : c.Solves f recurse) (beyond : Recursion) {budget : Nat}
    (hparent : SectionId.depth parent ≤ f.maxDepth)
    (hbudget : f.maxDepth + 1 ≤ SectionId.depth parent + budget) :
    c.composeUnder f beyond budget parent = recurse parent := by
  induction budget generalizing parent with
  | zero => omega
  | succ budget ih =>
    funext index
    rw [h, composeUnder]
    refine composeSections_childrenOf_congr (fun id hcall => ?_) [] index
    obtain ⟨hdeeper, hid⟩ := depth_of_calls hcall
    exact ih hid (by omega)

end Composer

namespace Registry

def schemaFrom (f : Family) (d : DocumentType) (recurse : Composer.Recursion) :
    Composition FamilySchema :=
  (recurse f.rootId .empty).map fun result => ⟨f.id, d, result.1, result.2⟩

def composeNested (r : Registry) (beyond : Composer.Recursion) (budget : Nat) (f : Family)
    (d : DocumentType) : Composition FamilySchema :=
  schemaFrom f d ((r.composer f d).composeUnder f beyond budget)

theorem schemaFrom_eq {r : Registry} {f : Family} {d : DocumentType} {recurse : Composer.Recursion}
    (h : (r.composer f d).Solves f recurse) : schemaFrom f d recurse = r.composeFamily f d := by
  rw [h.eq (Composer.solves_outlined _ f), composeFamily_eq]
  rfl

/-- Composition ends on every family. Its calls nest at most one deeper than an id has points, so
that a budget of that many calls gives the outcome whatever a deeper call would give, as does every
greater one; and the recursion alone determines what is composed under each id. -/
theorem composition_ends (r : Registry) (f : Family) (d : DocumentType) :
    (∀ ids, (f.rootId :: ids).IsChain ((r.composer f d).Calls f) →
      (f.rootId :: ids).length ≤ f.maxDepth + 1) ∧
    (∀ budget, f.maxDepth + 1 ≤ budget → ∀ beyond,
      r.composeNested beyond budget f d = r.composeFamily f d) ∧
    (∀ levels, f.maxDepth ≤ levels → r.composeWithin levels f d = r.composeFamily f d) ∧
    (∃! recurse, (r.composer f d).Solves f recurse) ∧
    ∀ recurse, (r.composer f d).Solves f recurse →
      schemaFrom f d recurse = r.composeFamily f d := by
  have hsolves := Composer.solves_outlined (r.composer f d) f
  have hroot : SectionId.depth f.rootId = 0 := List.count_eq_zero.mpr f.point_not_mem_rootId
  refine ⟨fun ids hchain => ?_, fun budget hbudget beyond => ?_, fun levels hlevels => ?_,
    ⟨_, hsolves, fun other hother => hother.eq hsolves⟩, fun recurse h => schemaFrom_eq h⟩
  · have hlength := Composer.length_le_of_isChain hchain (by omega)
    rw [List.length_cons]
    omega
  · rw [← schemaFrom_eq hsolves, composeNested, schemaFrom, schemaFrom,
      hsolves.composeUnder_eq beyond (by omega) (by omega)]
  · rw [composeFamily, composeWithin, composeWithin,
      Family.outlineFrom_eq (by omega) (by omega : f.maxDepth ≤ _ + f.maxDepth)]

end Registry

/-- A family with an id that is repeated, a section without a parent, and an id of points alone. -/
def strayFamily : Family :=
  { deliveryFamily with
    sections := [requiredSection "9.1" "Risks", requiredSection "9.1.1" "Owners",
      requiredSection "9.1" "Notes", requiredSection "7.7.7" "Strays",
      requiredSection ".." "Points"] }

theorem isChain_calls_stray : [strayFamily.rootId, "9.1", "9.1.1"].IsChain
    ((deliveryRegistry.composer strayFamily .plan).Calls strayFamily) := by
  have hfirst : requiredSection "9.1" "Risks" ∈ strayFamily.childrenOf strayFamily.rootId := by
    decide +kernel
  have hsecond : requiredSection "9.1.1" "Owners" ∈ strayFamily.childrenOf "9.1" := by
    decide +kernel
  exact .cons_cons ⟨_, hfirst, by decide +kernel, by decide +kernel, rfl⟩
    (.cons_cons ⟨_, hsecond, by decide +kernel, by decide +kernel, rfl⟩ (.singleton _))

theorem composition_ends_stray : strayFamily.checkStructure ≠ .ok () ∧
    [strayFamily.rootId, "9.1", "9.1.1"].length ≤ strayFamily.maxDepth + 1 ∧
    (∀ beyond, deliveryRegistry.composeNested beyond 3 strayFamily .plan =
      deliveryRegistry.composeFamily strayFamily .plan) ∧
    deliveryRegistry.composeWithin 2 strayFamily .plan =
      deliveryRegistry.composeFamily strayFamily .plan ∧
    Registry.schemaFrom strayFamily .plan
        ((deliveryRegistry.composer strayFamily .plan).outlined strayFamily) =
      deliveryRegistry.composeFamily strayFamily .plan ∧
    ∃ schema, deliveryRegistry.composeFamily strayFamily .plan = .ok schema := by
  have hdepth : strayFamily.maxDepth = 2 := by decide +kernel
  obtain ⟨hchain, hbudget, hlevels, -, hsolves⟩ :=
    Registry.composition_ends deliveryRegistry strayFamily .plan
  exact ⟨by decide +kernel, hchain _ isChain_calls_stray, hbudget 3 (by omega),
    hlevels 2 (by omega), hsolves _ (Composer.solves_outlined _ _), _, by rfl⟩

/-- One call less, and what lies beyond comes to light. -/
example (fault : CompositionFault) : deliveryRegistry.composeNested (fun _ _ => .error fault) 2
    strayFamily .plan = .error fault := by
  rfl

end DocSections
