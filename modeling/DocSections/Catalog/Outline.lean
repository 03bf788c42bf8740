import DocSections.Catalog.Family

/-! The sections of a family as a tree, by the parents that their ids name. -/

namespace DocSections

/-- A section with the sections right under it. -/
inductive Outline where
  | node (top : Section) (children : List Outline)

namespace Outline

def top : Outline → Section
  | node s _ => s

end Outline

namespace Family

/-- The tree under `parent`, cut off after `levels` levels. -/
def outlineFrom (f : Family) : Nat → String → List Outline
  | 0, _ => []
  | levels + 1, parent =>
    (f.childrenOf parent).map fun s => .node s (f.outlineFrom levels s.id)

def maxDepth (f : Family) : Nat := (f.sections.map fun s => SectionId.depth s.id).foldl max 0

theorem le_foldl_max (ns : List Nat) (m : Nat) : m ≤ ns.foldl max m := by
  induction ns generalizing m with
  | nil => exact Nat.le_refl m
  | cons n rest ih => exact Nat.le_trans (Nat.le_max_left m n) (ih (max m n))

theorem le_foldl_max_of_mem {ns : List Nat} {n : Nat} (h : n ∈ ns) (m : Nat) :
    n ≤ ns.foldl max m := by
  induction ns generalizing m with
  | nil => simp at h
  | cons k rest ih =>
    rcases List.mem_cons.mp h with rfl | h
    · exact Nat.le_trans (Nat.le_max_right m n) (le_foldl_max rest (max m n))
    · exact ih h (max m k)

theorem depth_le_maxDepth {f : Family} {s : Section} (h : s ∈ f.sections) :
    SectionId.depth s.id ≤ f.maxDepth :=
  le_foldl_max_of_mem (List.mem_map_of_mem (f := fun s => SectionId.depth s.id) h) 0

theorem mem_childrenOf {f : Family} {parent : String} {s : Section} :
    s ∈ f.childrenOf parent ↔ s ∈ f.sections ∧ s.parentId? = some parent := by
  simp [childrenOf]

/-- Nothing lies under an id that is as deep as the deepest section. -/
theorem childrenOf_eq_nil {f : Family} {parent : String}
    (h : f.maxDepth ≤ SectionId.depth parent) : f.childrenOf parent = [] := by
  refine List.eq_nil_iff_forall_not_mem.mpr fun s hs => ?_
  obtain ⟨hm, hp⟩ := mem_childrenOf.mp hs
  have h1 := SectionId.depth_of_parent? hp
  have h2 := depth_le_maxDepth hm
  omega

theorem outlineFrom_eq {f : Family} {parent : String} {m n : Nat}
    (hm : f.maxDepth ≤ SectionId.depth parent + m) (hn : f.maxDepth ≤ SectionId.depth parent + n) :
    f.outlineFrom m parent = f.outlineFrom n parent := by
  induction m generalizing parent n with
  | zero =>
    cases n with
    | zero => rfl
    | succ n => simp [outlineFrom, childrenOf_eq_nil (by omega)]
  | succ m ih =>
    cases n with
    | zero => simp [outlineFrom, childrenOf_eq_nil (by omega)]
    | succ n =>
      simp only [outlineFrom]
      refine List.map_congr_left fun s hs => ?_
      have hd := SectionId.depth_of_parent? (mem_childrenOf.mp hs).2
      have he := @ih s.id n (by omega) (by omega)
      rw [he]

end Family

end DocSections
