import DocSections.Proofs.Lookup
import DocSections.Proofs.Pattern

/-! The exported pattern of a diagram, as tools outside read it. In the dialect that draft 07
prescribes for patterns, space is not quite the white space by which diagrams are read: the byte order
mark counts and the next-line character does not. So the pattern and the reader part where one of
these stands at the border of a keyword, and nowhere else but where no kind is allowed. -/

namespace DocSections

namespace Pattern

open Text

/-- Space in patterns of draft 07: tabs and line ends, the space separators, and the byte order
mark. -/
def spaceRanges : List (Nat × Nat) :=
  [(0x09, 0x0D), (0x20, 0x20), (0xA0, 0xA0), (0x1680, 0x1680), (0x2000, 0x200A), (0x2028, 0x2029),
   (0x202F, 0x202F), (0x205F, 0x205F), (0x3000, 0x3000), (0xFEFF, 0xFEFF)]

def isPatternSpace (c : Char) : Bool := inRanges c.toNat spaceRanges

def byteOrderMark : Char := '\uFEFF'

def nextLine : Char := '\u0085'

theorem isPatternSpace_iff {c : Char} : isPatternSpace c = true ↔
    c = byteOrderMark ∨ isBlank c = true ∧ c ≠ nextLine := by
  have hmark : c = byteOrderMark ↔ c.toNat = 0xFEFF := Char.toNat_inj.symm
  have hnext : c = nextLine ↔ c.toNat = 0x85 := Char.toNat_inj.symm
  rw [hmark, Ne, hnext, isPatternSpace, isBlank]
  simp only [spaceRanges, blankRanges, inRanges, Bool.or_false, Bool.if_false_left, Bool.and_eq_true,
    Bool.not_eq_eq_eq_not, Bool.not_true, decide_eq_false_iff_not, not_lt, Bool.or_eq_true,
    decide_eq_true_eq]
  omega

theorem isPatternSpace_keyword (k : DiagramKind) :
    ∀ c ∈ k.keyword.toList, isPatternSpace c = false := by
  have hall : (k.keyword.toList.all fun c => !isPatternSpace c) = true := by
    cases k <;> decide +kernel
  intro c hc
  exact Bool.not_eq_true' _ ▸ List.all_eq_true.mp hall c hc

/-- The characters that a keyword needs to be space: those before it and the one after it. -/
def border (before after : List Char) : List Char := before ++ after.head?.toList

section

variable {p q : Char → Bool} {cs before word after : List Char}

theorem forall_border (h : CutAtWord p cs before word after) :
    ∀ c ∈ border before after, p c = true := by
  intro c hc
  rcases List.mem_append.mp hc with hbefore | hafter
  · exact h.before_space c hbefore
  · exact h.after_space c (Option.mem_toList.mp hafter)

theorem cutAtWord_of_border (h : CutAtWord p cs before word after)
    (hsolid : ∀ c ∈ word, q c = false) (hall : ∀ c ∈ border before after, q c = true) :
    CutAtWord q cs before word after where
  eq := h.eq
  before_space c hc := hall c (List.mem_append_left _ hc)
  ne_nil := h.ne_nil
  solid := hsolid
  after_space c hc := hall c (List.mem_append_right _ (Option.mem_toList.mpr hc))

/-- A text begins with a keyword in one sense of space and not in another one exactly if the border
of the keyword has the character that is space in the first sense only. -/
theorem beginsWithKeyword_and_not_iff
    (hp : ∀ k : DiagramKind, ∀ c ∈ k.keyword.toList, p c = false)
    (hq : ∀ k : DiagramKind, ∀ c ∈ k.keyword.toList, q c = false) {mark : Char}
    (hmark : q mark = false) (honly : ∀ c, p c = true → q c = false → c = mark)
    {kinds : List DiagramKind} :
    BeginsWithKeyword p kinds cs ∧ ¬ BeginsWithKeyword q kinds cs ↔
      ∃ k ∈ kinds, ∃ before after,
        CutAtWord p cs before k.keyword.toList after ∧ mark ∈ border before after := by
  constructor
  · rintro ⟨⟨k, hk, before, after, hcut⟩, hnot⟩
    refine ⟨k, hk, before, after, hcut, ?_⟩
    by_contra hnone
    refine hnot ⟨k, hk, before, after, cutAtWord_of_border hcut (hq k) fun c hc => ?_⟩
    cases hqc : q c with
    | true => rfl
    | false =>
      have heq : c = mark := honly c (forall_border hcut c hc) hqc
      exact absurd (heq ▸ hc) hnone
  · rintro ⟨k, hk, before, after, hcut, hborder⟩
    refine ⟨⟨k, hk, before, after, hcut⟩, ?_⟩
    rintro ⟨l, hl, before', after', hcut'⟩
    -- both are the one cut where either kind of space parts words
    have hsolid : ∀ k : DiagramKind, ∀ c ∈ k.keyword.toList, (p c || q c) = false :=
      fun k c hc => by rw [hp k c hc, hq k c hc, Bool.or_false]
    have hwide : CutAtWord (fun c => p c || q c) cs before k.keyword.toList after :=
      hcut.mono (fun c hc => by rw [hc, Bool.true_or]) (hsolid k)
    have hwide' : CutAtWord (fun c => p c || q c) cs before' l.keyword.toList after' :=
      hcut'.mono (fun c hc => by rw [hc, Bool.or_true]) (hsolid l)
    obtain ⟨rfl, -, rfl⟩ := hwide.unique hwide'
    rw [forall_border hcut' mark hborder] at hmark
    cases hmark

end

section

variable {kinds : List DiagramKind} {cs : List Char}

/-- What the pattern finds and the reader refuses has a byte order mark next to its keyword. -/
theorem beginsWithKeyword_not_blank_iff :
    BeginsWithKeyword isPatternSpace kinds cs ∧ ¬ BeginsWithKeyword isBlank kinds cs ↔
      ∃ k ∈ kinds, ∃ before after, CutAtWord isPatternSpace cs before k.keyword.toList after ∧
        byteOrderMark ∈ border before after := by
  refine beginsWithKeyword_and_not_iff isPatternSpace_keyword DiagramKind.isBlank_keyword
    (by decide) ?_
  intro c hspace hnot
  rcases isPatternSpace_iff.mp hspace with hmark | ⟨hblank, -⟩
  · exact hmark
  · rw [hnot] at hblank
    cases hblank

/-- What the reader takes and the pattern misses has a next-line character next to its keyword. -/
theorem beginsWithKeyword_not_space_iff :
    BeginsWithKeyword isBlank kinds cs ∧ ¬ BeginsWithKeyword isPatternSpace kinds cs ↔
      ∃ k ∈ kinds, ∃ before after, CutAtWord isBlank cs before k.keyword.toList after ∧
        nextLine ∈ border before after := by
  refine beginsWithKeyword_and_not_iff DiagramKind.isBlank_keyword isPatternSpace_keyword
    (by decide) ?_
  intro c hblank hnot
  by_contra hne
  rw [isPatternSpace_iff.mpr (.inr ⟨hblank, hne⟩)] at hnot
  cases hnot

end

def exportedPattern? (shape : Shape) : Option Json :=
  ((shape.toJsonSchema.member? "properties").bind (·.member? "diagram")).bind (·.member? "pattern")

theorem exportedPattern?_diagramOrText (kinds : List DiagramKind) :
    exportedPattern? (.diagramOrText kinds) = some (.str (Shape.keywordPattern kinds)) := by
  have hmember : ∀ key members, (Json.ofMembers members).member? key =
      Assoc.find? key members.reverse := Assoc.find?_ofPairs
  simp [exportedPattern?, Shape.toJsonSchema, Shape.diagramOrTextSchema, hmember, Assoc.find?_cons]

/-- Without a keyword there is nothing between the start and a space or the end. -/
theorem foundIn_bordered_empty {isSpace : Char → Bool} {text : List Char} :
    (bordered empty).FoundIn isSpace text ↔ ∀ c ∈ text.head?, isSpace c = true := by
  rw [foundIn_bordered]
  constructor
  · rintro ⟨before, part, after, rfl, hbefore, rfl, hafter⟩
    rcases before with - | ⟨c, before⟩
    · exact hafter
    · intro d hd
      have hdc : c = d := Option.some.inj hd
      exact hdc ▸ hbefore c List.mem_cons_self
  · intro hhead
    exact ⟨[], [], text, rfl, nofun, rfl, hhead⟩

/-- Where the exported pattern and the reader part. The pattern alone takes a text with a byte order
mark at the border of its keyword, and the reader alone one with a next-line character there. If no
kind is allowed, the reader takes nothing, and the pattern what is empty or begins with space. -/
theorem exported_pattern_parts_iff (kinds : List DiagramKind) :
    ∃ source pattern, exportedPattern? (.diagramOrText kinds) = some (.str source) ∧
      ofText? source = some pattern ∧ ∀ text : String,
        (pattern.FoundIn isPatternSpace text.toList ∧ (¬ ∃ d, Diagram.parse kinds text = .ok d) ↔
          (kinds = [] ∧ ∀ c ∈ text.toList.head?, isPatternSpace c = true) ∨
            ∃ k ∈ kinds, ∃ before after,
              CutAtWord isPatternSpace text.toList before k.keyword.toList after ∧
                byteOrderMark ∈ border before after) ∧
        ((∃ d, Diagram.parse kinds text = .ok d) ∧ ¬ pattern.FoundIn isPatternSpace text.toList ↔
          ∃ k ∈ kinds, ∃ before after,
            CutAtWord isBlank text.toList before k.keyword.toList after ∧
              nextLine ∈ border before after) := by
  rcases kinds with - | ⟨k, kinds⟩
  · refine ⟨_, bordered empty, exportedPattern?_diagramOrText [], by rfl, fun text => ?_⟩
    have hread : ¬ ∃ d, Diagram.parse [] text = .ok d := by
      rw [← beginsWithKeyword_iff_parse]
      rintro ⟨k, hk, -⟩
      cases hk
    rw [foundIn_bordered_empty]
    simp [hread]
  · refine ⟨_, _, exportedPattern?_diagramOrText _, ofText?_keywordPattern k kinds, fun text => ?_⟩
    rw [foundIn_ofKeywords isPatternSpace_keyword, ← beginsWithKeyword_iff_parse,
      beginsWithKeyword_not_blank_iff, beginsWithKeyword_not_space_iff]
    have hsome : ¬ (k :: kinds = [] ∧ ∀ c ∈ text.toList.head?, isPatternSpace c = true) :=
      fun h => List.cons_ne_nil _ _ h.1
    exact ⟨(or_iff_right hsome).symm, Iff.rfl⟩

/-- A byte order mark before the keyword, a next-line character there, and no allowed kind. -/
theorem exported_pattern_parts :
    (∃ pattern, ofText? (Shape.keywordPattern [.graph]) = some pattern ∧
      pattern.FoundIn isPatternSpace "\uFEFFgraph TD\nA-->B".toList ∧
      Diagram.parse [.graph] "\uFEFFgraph TD\nA-->B" = .error (.keyword "\uFEFFgraph") ∧
      ¬ pattern.FoundIn isPatternSpace "\u0085graph TD".toList ∧
      Diagram.parse [.graph] "\u0085graph TD" = .ok (.record ⟨.graph, some .topDown, ""⟩)) ∧
    ∃ pattern, ofText? (Shape.keywordPattern []) = some pattern ∧
      pattern.FoundIn isPatternSpace [] ∧ Diagram.parse [] "" = .error .empty := by
  have hfound : BeginsWithKeyword isPatternSpace [.graph] "\uFEFFgraph TD\nA-->B".toList := by
    rw [beginsWithKeyword_iff_head?]
    decide +kernel
  have hlost : ¬ BeginsWithKeyword isPatternSpace [.graph] "\u0085graph TD".toList := by
    rw [beginsWithKeyword_iff_head?]
    decide +kernel
  rw [← foundIn_ofKeywords isPatternSpace_keyword] at hfound hlost
  exact ⟨⟨_, ofText?_keywordPattern .graph [], hfound, by rfl, hlost, by rfl⟩, bordered empty,
    by rfl, foundIn_bordered_empty.mpr nofun, by rfl⟩

end Pattern

end DocSections
