import DocSections.Catalog.Basic
import DocSections.Catalog.Outline
import DocSections.Compose.Fault
import Mathlib.Data.List.Nodup

/-! The sections of a family by the way that leads to them. A walk goes from a root down through
sections that apply to a document type; where every such section is entered, it meets the sections
that are reached. -/

namespace DocSections

namespace Section

/-- Whether the section is no placeholder and is required or optional for the document type. -/
def Applies (s : Section) (d : DocumentType) : Prop :=
  s.isPlaceholder = false ∧
    (s.applicability.get? d = some .required ∨ s.applicability.get? d = some .optional)

instance (s : Section) (d : DocumentType) : Decidable (s.Applies d) :=
  inferInstanceAs (Decidable (_ ∧ _))

/-- Whether the section is a placeholder or declares something for the document type. -/
def Declares (s : Section) (d : DocumentType) : Prop :=
  s.isPlaceholder = false → (s.applicability.get? d).isSome = true

theorem Applies.declares {s : Section} {d : DocumentType} (h : s.Applies d) : s.Declares d := by
  intro _
  rcases h.2 with ha | ha <;> rw [ha] <;> rfl

theorem declares_of_isPlaceholder {s : Section} {d : DocumentType} (h : s.isPlaceholder = true) :
    s.Declares d := by
  intro hp
  rw [h] at hp
  cases hp

theorem declares_iff_isSome {s : Section} {d : DocumentType} (hp : s.isPlaceholder = false) :
    s.Declares d ↔ (s.applicability.get? d).isSome = true :=
  ⟨fun h => h hp, fun h _ => h⟩

theorem applicabilityFor_eq_ok_iff {s : Section} {d : DocumentType} {a : Applicability} :
    s.applicabilityFor d = .ok a ↔ s.applicability.get? d = some a := by
  unfold applicabilityFor
  cases s.applicability.get? d <;> simp

/-- What a section declares that is no placeholder decides whether it applies. -/
theorem applies_iff_ne_omitted {s : Section} {d : DocumentType} {a : Applicability}
    (hp : s.isPlaceholder = false) (ha : s.applicability.get? d = some a) :
    s.Applies d ↔ a ≠ .omitted := by
  unfold Applies
  cases a <;> simp [hp, ha]

end Section

namespace Family

theorem depth_of_mem_childrenOf {f : Family} {parent : String} {s : Section}
    (h : s ∈ f.childrenOf parent) : SectionId.depth s.id = SectionId.depth parent + 1 :=
  SectionId.depth_of_parent? (mem_childrenOf.mp h).2

/-- What holds of an id whenever it holds of all children holds of every id, since a child lies
deeper than its parent and no section lies deeper than `maxDepth`. -/
theorem children_induction (f : Family) {motive : String → Prop}
    (step : ∀ parent, (∀ s ∈ f.childrenOf parent, motive s.id) → motive parent)
    (parent : String) : motive parent := by
  induction hn : f.maxDepth - SectionId.depth parent using Nat.strongRecOn generalizing parent with
  | ind n ih =>
    refine step parent fun s hs => ih _ ?_ s.id rfl
    have hdeeper := depth_of_mem_childrenOf hs
    have hbound := depth_le_maxDepth (mem_childrenOf.mp hs).1
    omega

def branch (f : Family) (s : Section) : Outline := .node s (f.outlineFrom f.maxDepth s.id)

theorem outlineFrom_eq_map {f : Family} {parent : String} {n : Nat}
    (hn : f.maxDepth ≤ SectionId.depth parent + n) :
    f.outlineFrom n parent = (f.childrenOf parent).map f.branch := by
  cases n with
  | zero =>
    rw [childrenOf_eq_nil (by omega)]
    rfl
  | succ n =>
    rw [outlineFrom]
    refine List.map_congr_left fun s hs => ?_
    have hdeeper := depth_of_mem_childrenOf hs
    rw [branch, outlineFrom_eq (m := n) (n := f.maxDepth) (by omega) (by omega)]

theorem branch_eq (f : Family) (s : Section) :
    f.branch s = .node s ((f.childrenOf s.id).map f.branch) := by
  rw [branch, outlineFrom_eq_map (by omega)]

@[simp] theorem top_branch (f : Family) (s : Section) : (f.branch s).top = s := rfl

theorem map_top_branch (f : Family) (ss : List Section) :
    (ss.map f.branch).map Outline.top = ss := by
  rw [List.map_map]
  exact List.map_id' ss

/-- The sections that a walk from `root` meets. It goes through sections that apply, and goes on
below such a section if that is entered. -/
inductive Visited (f : Family) (d : DocumentType) (enters : Section → Prop) (root : String) :
    Section → Prop
  | top {s : Section} : s ∈ f.childrenOf root → s.Applies d → Visited f d enters root s
  | child {p s : Section} : Visited f d enters root p → enters p → s ∈ f.childrenOf p.id →
      s.Applies d → Visited f d enters root s

/-- A section is reached if it applies, and is at the top or right under one that is reached. -/
def Reached (f : Family) (d : DocumentType) : Section → Prop :=
  f.Visited d (fun _ => True) f.rootId

variable {f : Family} {d : DocumentType} {enters enters' : Section → Prop} {root : String}
  {s t : Section}

theorem Visited.applies (h : f.Visited d enters root s) : s.Applies d := by
  cases h with
  | top _ ha => exact ha
  | child _ _ _ ha => exact ha

theorem Visited.mem (h : f.Visited d enters root s) : s ∈ f.sections := by
  cases h with
  | top hs _ => exact (mem_childrenOf.mp hs).1
  | child _ _ hs _ => exact (mem_childrenOf.mp hs).1

theorem Visited.imp (himp : ∀ t, enters t → enters' t) (h : f.Visited d enters root s) :
    f.Visited d enters' root s := by
  induction h with
  | top hs ha => exact .top hs ha
  | child _ he hs ha ih => exact .child ih (himp _ he) hs ha

theorem Visited.descend (ht : t ∈ f.childrenOf root) (ha : t.Applies d) (he : enters t)
    (h : f.Visited d enters t.id s) : f.Visited d enters root s := by
  induction h with
  | top hs hsa => exact .child (.top ht ha) he hs hsa
  | child _ hpe hs hsa ih => exact .child ih hpe hs hsa

/-- A walk read from its first step. -/
theorem visited_iff : f.Visited d enters root s ↔
    ∃ t ∈ f.childrenOf root, t.Applies d ∧ (s = t ∨ enters t ∧ f.Visited d enters t.id s) := by
  constructor
  · intro h
    induction h with
    | top hs ha => exact ⟨_, hs, ha, .inl rfl⟩
    | child _ he hs ha ih =>
      obtain ⟨t, ht, hta, rfl | ⟨hte, hp⟩⟩ := ih
      · exact ⟨_, ht, hta, .inr ⟨he, .top hs ha⟩⟩
      · exact ⟨t, ht, hta, .inr ⟨hte, .child hp he hs ha⟩⟩
  · rintro ⟨t, ht, ha, rfl | ⟨he, h⟩⟩
    · exact .top ht ha
    · exact .descend ht ha he h

theorem reached_iff : f.Reached d s ↔
    s.Applies d ∧ (s ∈ f.topLevel ∨ ∃ p, f.Reached d p ∧ s ∈ f.childrenOf p.id) := by
  constructor
  · intro h
    cases h with
    | top hs ha => exact ⟨ha, .inl hs⟩
    | child hp _ hs ha => exact ⟨ha, .inr ⟨_, hp, hs⟩⟩
  · rintro ⟨ha, hs | ⟨p, hp, hs⟩⟩
    · exact .top hs ha
    · exact .child hp trivial hs ha

theorem Visited.depth_lt (h : f.Visited d enters root s) :
    SectionId.depth root < SectionId.depth s.id := by
  induction h with
  | top hs _ =>
    have := depth_of_mem_childrenOf hs
    omega
  | child _ _ hs _ ih =>
    have := depth_of_mem_childrenOf hs
    omega

theorem checkIds_eq_ok_iff {seen : List String} {ss : List Section} :
    f.checkIds seen ss = .ok () ↔ (∀ s ∈ ss, f.owns s.id = true ∧ s.id ∉ seen) ∧
      (ss.map Section.id).Nodup := by
  induction ss generalizing seen with
  | nil => simp [checkIds]
  | cons s rest ih =>
    rw [checkIds, List.forall_mem_cons, List.map_cons, List.nodup_cons]
    cases ho : f.owns s.id with
    | false => simp
    | true =>
      by_cases hseen : s.id ∈ seen
      · simp [hseen]
      · have hnew : (∀ t ∈ rest, f.owns t.id = true ∧ t.id ∉ s.id :: seen) ↔
            (∀ t ∈ rest, f.owns t.id = true ∧ t.id ∉ seen) ∧ s.id ∉ rest.map Section.id := by
          simp only [List.mem_cons, not_or, List.mem_map, not_exists, not_and]
          constructor
          · intro h
            exact ⟨fun t ht => ⟨(h t ht).1, (h t ht).2.2⟩, fun t ht => (h t ht).2.1⟩
          · rintro ⟨h, hne⟩ t ht
            exact ⟨(h t ht).1, hne t ht, (h t ht).2⟩
        rw [if_neg (by simp), if_neg (by simp [hseen]), ih, hnew]
        simp only [hseen, not_false_eq_true, and_self, true_and, and_assoc]

theorem checkStructure_eq_ok_iff : f.checkStructure = .ok () ↔
    f.checkIds [] f.sections = .ok () ∧ f.checkParents f.sections = .ok () := by
  unfold checkStructure
  cases f.checkIds [] f.sections with
  | error fault => exact ⟨nofun, fun h => nomatch h.1⟩
  | ok _ => exact ⟨fun h => ⟨rfl, h⟩, And.right⟩

theorem nodup_ids_of_checkStructure (h : f.checkStructure = .ok ()) :
    (f.sections.map Section.id).Nodup :=
  (checkIds_eq_ok_iff.mp (checkStructure_eq_ok_iff.mp h).1).2

theorem section?_eq_some_of_mem (h : f.checkStructure = .ok ()) (hs : s ∈ f.sections) :
    f.section? s.id = some s := by
  unfold section?
  cases hfind : f.sections.find? (·.id == s.id) with
  | none =>
    have hne := List.find?_eq_none.mp hfind s hs
    exact absurd (beq_self_eq_true s.id) hne
  | some t =>
    have hid : t.id = s.id := by simpa using List.find?_some hfind
    rw [List.inj_on_of_nodup_map (nodup_ids_of_checkStructure h)
      (List.mem_of_find?_eq_some hfind) hs hid]

theorem nodup_childrenOf (h : f.checkStructure = .ok ()) (parent : String) :
    (f.childrenOf parent).Nodup :=
  ((nodup_ids_of_checkStructure h).of_map Section.id).filter _

end Family

end DocSections
