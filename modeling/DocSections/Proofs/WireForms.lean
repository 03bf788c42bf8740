import DocSections.Command.Run
import DocSections.Proofs.JsonText
import DocSections.Proofs.ReadBack

/-! Issues and diagrams read back from JSON. Nothing in the JSON tells which alternative a step of a
path or a diagram is written as. It is read as the alternative that it was, since a key and a raw
text are written as strings, and nothing else is read from a string. -/

namespace DocSections

theorem Source.natBelow?_eq_some_iff {s : Source} {bound n : Nat} :
    s.natBelow? bound = some n ↔ s = .num (.int n) ∧ n < bound := by
  constructor
  · intro h
    unfold natBelow? at h
    split at h
    · split_ifs at h with hlt
      cases h
      exact ⟨rfl, hlt⟩
    · cases h
  · rintro ⟨rfl, hlt⟩
    exact if_pos hlt

/-- Whether the indices on a path fit in 64 bits, as the indices of a list in memory do. -/
def Path.IsSized (path : Path) : Prop := ∀ i, .index i ∈ path → i < UInt64.size

namespace PathSegment

/-- Only a string is read as a key, and every string is. -/
theorem ofSource?_eq_key_iff {s : Source} {name : String} :
    ofSource? s = some (key name) ↔ s = .str name := by
  cases s <;> simp [ofSource?]

theorem ofSource?_eq_index_iff {s : Source} {i : Nat} :
    ofSource? s = some (index i) ↔ s = .num (.int i) ∧ i < UInt64.size := by
  rw [← Source.natBelow?_eq_some_iff]
  cases s <;> simp [ofSource?, Source.natBelow?]

/-- The JSON of a step has no members that could be put into another order. -/
theorem order_toJson {order : Json → Json} (ho : Json.Reorders order) (segment : PathSegment) :
    order segment.toJson = segment.toJson := by
  cases segment with
  | key name => exact ho.str name
  | index i => exact ho.num _

theorem ofSource?_toJson {path : Path} (h : path.IsSized) {segment : PathSegment}
    (hs : segment ∈ path) : ofSource? (.ofJson segment.toJson) = some segment := by
  cases segment with
  | key name => exact ofSource?_eq_key_iff.mpr rfl
  | index i => exact ofSource?_eq_index_iff.mpr ⟨rfl, h i hs⟩

theorem readable_toJson {path : Path} (h : path.IsSized) {segment : PathSegment}
    (hs : segment ∈ path) (room : Nat) : segment.toJson.Readable room := by
  cases segment with
  | key name => exact .str name
  | index i => exact .int ⟨by omega, by exact_mod_cast h i hs⟩

end PathSegment

namespace Issue

def listToJson (issues : List Issue) : Json := .arr (issues.map toJson)

def listOfText? (text : String) : Option (List Issue) :=
  (Source.ofText? text).bind (Source.list? ofSource?)

variable {order : Json → Json} {i : Issue} {issues : List Issue}

theorem ofSource?_toJson (ho : Json.Reorders order) (h : i.path.IsSized) :
    ofSource? (.ofJson (order i.toJson)) = some i := by
  have hjson : i.toJson = .inOrder [("code", some (Vocabulary.toJson i.code)),
      ("path", some (.arr (i.path.map PathSegment.toJson))), ("message", some (.str i.message))] :=
    rfl
  have hpath : Source.list? PathSegment.ofSource?
      (.ofJson (order (.arr (i.path.map PathSegment.toJson)))) = some i.path := by
    refine Json.ReadsBack.list_of_mem ho fun segment hs => ?_
    rw [PathSegment.order_toJson ho]
    exact PathSegment.ofSource?_toJson h hs
  rw [ofSource?, hjson, ho.fields?_inOrder]
  · simp [Json.ReadsBack.word ho _, Json.ReadsBack.str ho _, hpath]
  · rfl
  · decide

theorem readable_toJson (h : i.path.IsSized) (room : Nat) : i.toJson.Readable (room + 2) := by
  refine .obj fun m hm => ?_
  simp only [List.mem_cons, List.not_mem_nil, or_false] at hm
  rcases hm with rfl | rfl | rfl
  · exact .str _
  · refine .arr fun item hitem => ?_
    obtain ⟨segment, hs, rfl⟩ := List.mem_map.mp hitem
    exact PathSegment.readable_toJson h hs room
  · exact .str _

theorem list?_listToJson (ho : Json.Reorders order) (h : ∀ i ∈ issues, i.path.IsSized) :
    Source.list? ofSource? (.ofJson (order (listToJson issues))) = some issues :=
  Json.ReadsBack.list_of_mem ho fun i hi => ofSource?_toJson ho (h i hi)

theorem readable_listToJson (h : ∀ i ∈ issues, i.path.IsSized) :
    (listToJson issues).Readable Source.nestingLimit := by
  refine .arr fun item hitem => ?_
  obtain ⟨i, hi, rfl⟩ := List.mem_map.mp hitem
  exact readable_toJson (h i hi) 124

theorem listOfText?_compact (h : ∀ i ∈ issues, i.path.IsSized) (blanks : String)
    (hblanks : ∀ c ∈ blanks.toList, Source.blank c = true) :
    listOfText? ((listToJson issues).compact ++ blanks) = some issues := by
  rw [listOfText?, Source.ofText?_compact (readable_listToJson h) blanks hblanks]
  exact list?_listToJson Json.reorders_id h

end Issue

namespace Diagram

/-- Whether a value is what the diagram is written as. The fields of a record are in any order. -/
def WrittenAs (j : Json) : Diagram → Prop
  | record r => ∃ fields, j = .obj fields ∧ fields.Perm (Json.setMembers r.members)
  | text s => j = .str s

def ofText? (text : String) : Option Diagram := (Source.ofText? text).bind ofSource?

variable {d : Diagram} {j : Json} {s : Source} {t : String}

/-- Every field that a record sets is written as a string. -/
theorem exists_eq_str {r : DiagramRecord} {m : String × Json}
    (hm : m ∈ Json.setMembers r.members) : ∃ word, m.2 = .str word := by
  obtain ⟨n, hn, hset⟩ := List.mem_filterMap.mp hm
  obtain ⟨value, hvalue, rfl⟩ := Option.map_eq_some_iff.mp hset
  simp only [DiagramRecord.members, List.mem_cons, List.not_mem_nil, or_false] at hn
  rcases hn with rfl | rfl | rfl | rfl
  · exact ⟨_, (Option.some.inj hvalue).symm⟩
  · exact ⟨_, (Option.some.inj hvalue).symm⟩
  · obtain ⟨direction, -, rfl⟩ := Option.map_eq_some_iff.mp hvalue
    exact ⟨_, rfl⟩
  · exact ⟨_, (Option.some.inj hvalue).symm⟩

theorem writtenAs_toJson (d : Diagram) : WrittenAs d.toJson d := by
  cases d with
  | text s => rfl
  | record r => exact r.exists_toJson_eq_obj

/-- Only a string is read as raw text, and every string is. -/
theorem ofSource?_eq_text_iff : ofSource? s = some (text t) ↔ s = .str t := by
  constructor
  · intro h
    unfold ofSource? at h
    split at h
    · cases h
    · obtain ⟨u, hu, htext⟩ := Option.map_eq_some_iff.mp h
      cases htext
      cases s <;> cases hu
      rfl
  · rintro rfl
    rfl

theorem WrittenAs.ofSource?_eq (h : WrittenAs j d) : ofSource? (.ofJson j) = some d := by
  cases d with
  | text t =>
    subst h
    exact ofSource?_eq_text_iff.mpr rfl
  | record r =>
    obtain ⟨fields, rfl, hperm⟩ := h
    rw [ofSource?, DiagramRecord.ofSource?_of_perm hperm]

theorem WrittenAs.readable (h : WrittenAs j d) (room : Nat) : j.Readable (room + 1) := by
  cases d with
  | text t =>
    subst h
    exact .str t
  | record r =>
    obtain ⟨fields, rfl, hperm⟩ := h
    refine .obj fun m hm => ?_
    obtain ⟨word, hword⟩ := exists_eq_str (hperm.mem_iff.mp hm)
    rw [hword]
    exact .str word

theorem WrittenAs.ofText?_compact (h : WrittenAs j d) : ofText? j.compact = some d := by
  have hread := Source.ofText?_compact (h.readable 126) "" nofun
  rw [String.append_empty] at hread
  rw [ofText?, hread]
  exact h.ofSource?_eq

end Diagram

/-- Issues are read back from the text that lists them, also as the compact report prints it, and
from their JSON with sorted keys. A diagram is read back from its JSON, be that a text or a value,
and raw text is read from strings only. -/
theorem untagged_read_back :
    (∀ issues : List Issue, (∀ i ∈ issues, i.path.IsSized) →
      Issue.listOfText? (Issue.listToJson issues).compact = some issues ∧
      (∀ target d, Issue.listOfText? (Command.issueReport .compact target d issues) =
        some issues) ∧
      Source.list? Issue.ofSource? (.ofJson (Issue.listToJson issues).sortKeys) = some issues) ∧
    (∀ d : Diagram, d.WrittenAs d.toJson ∧ ∀ j, Diagram.WrittenAs j d →
      Diagram.ofSource? (.ofJson j) = some d ∧ Diagram.ofText? j.compact = some d) ∧
    ∀ s t, Diagram.ofSource? s = some (.text t) ↔ s = .str t := by
  refine ⟨fun issues h => ⟨?_, fun target d => ?_, ?_⟩, fun d => ⟨d.writtenAs_toJson, ?_⟩, ?_⟩
  · have hread := Issue.listOfText?_compact h "" nofun
    rwa [String.append_empty] at hread
  · exact Issue.listOfText?_compact h "\n" (by simp [Source.blank])
  · exact Issue.list?_listToJson Json.reorders_sortKeys h
  · exact fun j h => ⟨h.ofSource?_eq, h.ofText?_compact⟩
  · exact fun s t => Diagram.ofSource?_eq_text_iff

/-- Issues with keys that look like indices beside indices, an empty key, an empty path, and a
message with escapes. -/
def strayIssues : List Issue :=
  [⟨.required, [.key "0", .index 0, .key "[1]"], "say \"yes\"\n"⟩,
    ⟨.tooSmall, [.index 18446744073709551615, .key ""], ""⟩, ⟨.invalidType, [], "Expected string"⟩]

theorem strayIssues_read_back : (∀ i ∈ strayIssues, i.path.IsSized) ∧
    Command.issueReport .compact "4.2" .plan strayIssues =
      "[\x7b\"code\":\"required\",\"path\":[\"0\",0,\"[1]\"]," ++
        "\"message\":\"say \\\"yes\\\"\\n\"\x7d," ++
        "\x7b\"code\":\"too_small\",\"path\":[18446744073709551615,\"\"]," ++
        "\"message\":\"\"\x7d," ++
        "\x7b\"code\":\"invalid_type\",\"path\":[],\"message\":\"Expected string\"\x7d]\n" ∧
    Issue.listOfText? (Command.issueReport .compact "4.2" .plan strayIssues) =
      some strayIssues := by
  have hsized : ∀ i ∈ strayIssues, i.path.IsSized := by
    simp [strayIssues, Path.IsSized]
  exact ⟨hsized, by decide +kernel, (untagged_read_back.1 strayIssues hsized).2.1 _ _⟩

end DocSections
