import DocSections.Json.Content
import DocSections.Text.Blank
import DocSections.Vocabulary

/-! Families of document sections. A family lists its sections flat, in document order; nesting is
carried by the dotted ids, so that `4.2.5.1` is a child of `4.2.5`. -/

namespace DocSections

inductive DocumentType where
  | plan
  | task
deriving DecidableEq, Repr

instance : Vocabulary DocumentType where
  values := [.plan, .task]
  word
    | .plan => "plan"
    | .task => "task"
  find?_word a := by cases a <;> decide

def DocumentType.name (d : DocumentType) : String := Vocabulary.word d

def DocumentType.unknownMessage (name : String) : String :=
  "unknown document type '" ++ name ++ "' (expected plan or task)"

inductive Applicability where
  | required
  | optional
  | omitted
deriving DecidableEq, Repr

instance : Vocabulary Applicability where
  values := [.required, .optional, .omitted]
  word
    | .required => "required"
    | .optional => "optional"
    | .omitted => "omitted"
  find?_word a := by cases a <;> decide

/-- Applicability as declared for each document type, or left open. -/
structure ApplicabilityMap where
  plan : Option Applicability
  task : Option Applicability
deriving DecidableEq, Repr

namespace ApplicabilityMap

def unset : ApplicabilityMap := ⟨none, none⟩

def of (plan task : Applicability) : ApplicabilityMap := ⟨some plan, some task⟩

def get? (m : ApplicabilityMap) : DocumentType → Option Applicability
  | .plan => m.plan
  | .task => m.task

end ApplicabilityMap

/-- The format that a section announces to its readers; its shape comes from elsewhere. -/
inductive ContentFormat where
  | text
  | list
  | table
  | composite
  | container
  | diagram
deriving DecidableEq, Repr

instance : Vocabulary ContentFormat where
  values := [.text, .list, .table, .composite, .container, .diagram]
  word
    | .text => "text"
    | .list => "list"
    | .table => "table"
    | .composite => "composite"
    | .container => "container"
    | .diagram => "diagram"
  find?_word a := by cases a <;> decide

/-- A named part of a table or composite, as documentation. -/
structure SectionField where
  name : String
  description : Option String := none
  required : Bool := false
deriving DecidableEq, Repr

/-- A worked example, for one document type or for both. -/
structure SectionExample where
  documentType : Option DocumentType := none
  description : Option String := none
  content : Content
deriving DecidableEq

structure Section where
  id : String
  name : String
  level : UInt8
  applicability : ApplicabilityMap
  format : ContentFormat
  description : String := ""
  notes : Option String := none
  fields : List SectionField := []
  examples : List SectionExample := []
deriving DecidableEq

structure Family where
  id : UInt32
  name : String
  anchor : String
  rationale : Option String := none
  notes : Option String := none
  applicability : ApplicabilityMap
  sections : List Section
deriving DecidableEq

namespace SectionId

def beforeLastPoint : List Char → Option (List Char)
  | [] => none
  | c :: rest =>
    match beforeLastPoint rest with
    | some before => some (c :: before)
    | none => if c = '.' then some [] else none

def parent? (id : String) : Option String := (beforeLastPoint id.toList).map String.ofList

/-- The number of points, which is how deep the section lies. -/
def depth (id : String) : Nat := id.toList.count '.'

theorem beforeLastPoint_eq_none_iff {cs : List Char} : beforeLastPoint cs = none ↔ '.' ∉ cs := by
  induction cs with
  | nil => simp [beforeLastPoint]
  | cons c rest ih =>
    rw [beforeLastPoint]
    cases h : beforeLastPoint rest with
    | none => simp [ih.mp h, eq_comm]
    | some before =>
      have : '.' ∈ rest := Classical.not_not.mp fun hn => by simp [ih.mpr hn] at h
      simp [this]

theorem eq_of_beforeLastPoint {cs before : List Char} (h : beforeLastPoint cs = some before) :
    ∃ leaf, '.' ∉ leaf ∧ cs = before ++ '.' :: leaf := by
  induction cs generalizing before with
  | nil => simp [beforeLastPoint] at h
  | cons c rest ih =>
    rw [beforeLastPoint] at h
    split at h
    · rename_i b hb
      obtain ⟨leaf, hl, rfl⟩ := ih hb
      cases h
      exact ⟨leaf, hl, rfl⟩
    · rename_i hn
      split at h
      · rename_i hc
        cases h
        exact ⟨rest, beforeLastPoint_eq_none_iff.mp hn, by simp [hc]⟩
      · simp at h

theorem depth_of_parent? {id parent : String} (h : parent? id = some parent) :
    depth id = depth parent + 1 := by
  obtain ⟨before, hb, rfl⟩ := Option.map_eq_some_iff.mp h
  obtain ⟨leaf, hl, e⟩ := eq_of_beforeLastPoint hb
  simp [depth, e, List.count_eq_zero.mpr hl]

end SectionId

namespace Section

/-- The id of the enclosing section, or of the family for a section at the top. -/
def parentId? (s : Section) : Option String := SectionId.parent? s.id

/-- Whether the name is a template marker in double braces, which stands in for real sections. -/
def isPlaceholder (s : Section) : Bool :=
  let name := Text.trim s.name.toList
  ['\x7b', '\x7b'].isPrefixOf name && ['\x7d', '\x7d'].isSuffixOf name

def examplesFor (s : Section) (d : DocumentType) : List SectionExample :=
  s.examples.filter fun e => e.documentType.all (· == d)

end Section

namespace Family

/-- The id in decimal, which is the parent of the sections at the top. -/
def rootId (f : Family) : String := toString f.id.toNat

def section? (f : Family) (id : String) : Option Section := f.sections.find? (·.id == id)

def childrenOf (f : Family) (parent : String) : List Section :=
  f.sections.filter fun s => s.parentId? == some parent

def topLevel (f : Family) : List Section := f.childrenOf f.rootId

/-- A family that declares nothing for a document type belongs to it. -/
def appliesTo (f : Family) (d : DocumentType) : Bool := f.applicability.get? d != some .omitted

end Family

end DocSections
