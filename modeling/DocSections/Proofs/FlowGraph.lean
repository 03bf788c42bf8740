import DocSections.Proofs.ReadBack
import DocSections.Proofs.Revalidation

/-! What becomes of the words of a diagram. Reading looks at the first word of the text, at the next
word if it stands on the same line, and at what stands below that line. A flow graph that is taken
apart loses what else stands on the header line, and no other word. -/

namespace DocSections

namespace Diagram

open Text

section

variable {after : List Char}

/-- The direction is the word after the keyword, if that stands on the same line. -/
theorem direction_graphRecord_eq_some_iff {d : Direction} :
    (graphRecord after).direction = some d ↔
      ∃ gap rest, CutAtWord isBlank after gap (Vocabulary.word d).toList rest ∧ '\n' ∉ gap := by
  rw [← head?_words_beforeFeed_iff, graphRecord, Option.bind_eq_some_iff]
  simp only [Vocabulary.ofWord?_eq_some_iff]
  constructor
  · rintro ⟨word, hword, hd⟩
    rw [hword, hd, String.toList_ofList]
  · intro hword
    exact ⟨_, hword, String.ofList_toList.symm⟩

theorem words_content_graphRecord (after : List Char) :
    words (graphRecord after).content.toList = words (afterFeed after) := by
  rw [graphRecord, String.toList_ofList, words_trimEnd, words_unlines, flatMap_words_lines]

end

/-- Whether a record says what a text says that begins with the keyword of flow graphs. Its direction
is the second word, if no line feed stands before it; its content has the words after the first line
feed that follows the keyword. -/
structure Describes (r : DiagramRecord) (cs before after : List Char) : Prop where
  kind : r.kind = .graph
  cut : CutAtWord isBlank cs before DiagramKind.graph.keyword.toList after
  direction : ∀ d, r.direction = some d ↔
    ∃ gap rest, CutAtWord isBlank after gap (Vocabulary.word d).toList rest ∧ '\n' ∉ gap
  content : words r.content.toList = words (afterFeed after)
  trimmed : ∀ c ∈ r.content.toList.getLast?, isBlank c = false

theorem describes_graphRecord {cs before after : List Char}
    (h : CutAtWord isBlank cs before DiagramKind.graph.keyword.toList after) :
    Describes (graphRecord after) cs before after where
  kind := rfl
  cut := h
  direction _ := direction_graphRecord_eq_some_iff
  content := words_content_graphRecord after
  trimmed := isBlank_getLast?_content after

/-- A text is refused since it has no word, or for its first word. -/
theorem fault_of_parse {kinds : List DiagramKind} {text : String} {fault : Fault}
    (h : parse kinds text = .error fault) :
    fault = (words text.toList).head?.elim .empty fun word => .keyword (String.ofList word) := by
  cases hword : (words text.toList).head? with
  | none =>
    rw [parse_of_words_eq_nil kinds (List.head?_eq_none_iff.mp hword)] at h
    exact (Except.error.inj h).symm
  | some word =>
    obtain ⟨before, after, hcut⟩ := head?_words_iff.mp hword
    rw [parse_of_cut hcut] at h
    split at h
    · exact (Except.error.inj h).symm
    · cases h
    · cases h

theorem infix_message (fault : Fault) : "Diagram must be a valid Mermaid graph".toList <:+:
    (fault.message [.graph]).toList := by
  have hkinds : "Diagram must be a valid Mermaid " ++ " or ".intercalate
      ([DiagramKind.graph].map DiagramKind.keyword) = "Diagram must be a valid Mermaid graph" := by
    decide +kernel
  obtain ⟨found, hmessage⟩ : ∃ found,
      fault.message [.graph] = "Diagram must be a valid Mermaid graph" ++ found :=
    ⟨_, congrArg (· ++ _) hkinds⟩
  have happend : (fault.message [.graph]).toList =
      "Diagram must be a valid Mermaid graph".toList ++ found.toList := by
    rw [hmessage, String.toList_append]
  rw [happend]
  exact (List.prefix_append _ _).isInfix

/-- Reading is decided by words. The first word says whether a text is a diagram of an allowed kind.
A diagram of another kind than a flow graph stays as it is, and a flow graph becomes a record that
describes it. A text that is refused is told its first word. -/
theorem parse_by_words (kinds : List DiagramKind) (text : String) :
    ((∃ d, parse kinds text = .ok d) ↔
      ∃ k ∈ kinds, (words text.toList).head? = some k.keyword.toList) ∧
    (∀ (k : DiagramKind) d, (words text.toList).head? = some k.keyword.toList → parse kinds text = .ok d →
      (k ≠ .graph → d = .text text) ∧
      (k = .graph → ∃ r, d = .record r ∧ ∃ before after, Describes r text.toList before after)) ∧
    (∀ fault, parse kinds text = .error fault →
      fault = (words text.toList).head?.elim .empty (fun word => .keyword (String.ofList word)) ∧
      (kinds = [.graph] →
        "Diagram must be a valid Mermaid graph".toList <:+: (fault.message kinds).toList)) := by
  refine ⟨parse_isOk_iff, ?_, ?_⟩
  · intro k d hword hd
    obtain ⟨l, hl, hallowed⟩ := parse_isOk_iff.mp ⟨d, hd⟩
    have hk : k ∈ kinds := by
      rw [hword, Option.some.injEq, String.toList_inj] at hallowed
      rwa [Vocabulary.word_injective hallowed]
    obtain ⟨before, after, hcut⟩ := head?_words_iff.mp hword
    constructor
    · intro hne
      rw [parse_of_not_graph hk hne hcut] at hd
      exact (Except.ok.inj hd).symm
    · rintro rfl
      rw [parse_of_graph hk hcut] at hd
      exact ⟨_, (Except.ok.inj hd).symm, before, after, describes_graphRecord hcut⟩
  · intro fault hfault
    refine ⟨fault_of_parse hfault, ?_⟩
    rintro rfl
    exact infix_message fault

/-- The line ends and blanks of a flow graph are of several kinds; the carriage return that stands
before another one stays in the content. -/
def spacedGraph : String := "\n \u0085graph\u00a0LR x\r\n\r\nA --> B\r\r\nB\u2028 \n"

theorem spacedGraph_parse_by_words :
    parse [.erDiagram, .graph] spacedGraph =
        .ok (.record ⟨.graph, some .leftRight, "\nA --> B\r\nB"⟩) ∧
      (∃ before after, Describes ⟨.graph, some .leftRight, "\nA --> B\r\nB"⟩ spacedGraph.toList
        before after) ∧
      parse [.graph] "Graph TD" = .error (.keyword "Graph") ∧
      "Diagram must be a valid Mermaid graph".toList <:+:
        (Fault.message [.graph] (.keyword "Graph")).toList := by
  have hread : parse [.erDiagram, .graph] spacedGraph =
      .ok (.record ⟨.graph, some .leftRight, "\nA --> B\r\nB"⟩) := by rfl
  have hrefused : parse [.graph] "Graph TD" = .error (.keyword "Graph") := by rfl
  have hword : (words spacedGraph.toList).head? = some DiagramKind.graph.keyword.toList := by
    decide +kernel
  obtain ⟨-, hkind, -⟩ := parse_by_words [.erDiagram, .graph] spacedGraph
  obtain ⟨r, hr, hdescribes⟩ := (hkind .graph _ hword hread).2 rfl
  cases hr
  obtain ⟨-, -, hfault⟩ := parse_by_words [.graph] "Graph TD"
  exact ⟨hread, hdescribes, hrefused, (hfault _ hrefused).2 rfl⟩

end Diagram

def DiagramRecord.words (r : DiagramRecord) : List (List Char) :=
  r.kind.keyword.toList :: (r.direction.map fun d => (Vocabulary.word d).toList).toList ++
    Text.words r.content.toList

namespace Shape

/-- The diagram in validated content is the record of the flow graph that was there. -/
theorem member?_diagram_of_validate {kinds : List DiagramKind} {c : Content} {data : Json}
    {text : String} {r : DiagramRecord} (h : (diagramOrText kinds).validate c.json = .ok data)
    (htext : c.json.member? "diagram" = some (.str text))
    (hread : Diagram.parse kinds text = .ok (.record r)) :
    data.member? "diagram" = some r.toJson := by
  have hdata := eq_output_of_validate h
  cases hjson : c.json with
  | obj members =>
    rw [hjson, Json.member?] at htext
    rw [hdata, hjson, output, Json.member?, Assoc.find?_map "diagram" fun key value =>
      if key = Check.diagramKey then diagramOutput kinds value else value, htext]
    have hrecord : diagramOutput kinds (.str text) = r.toJson := by
      rw [← diagramData_eq_diagramOutput, Check.diagramData, hread]
    rw [← hrecord]
    rfl
  | _ =>
    rw [hjson] at htext
    cases htext

end Shape

namespace Diagram

open Text

/-- The words on the header line after the keyword are no others than the direction exactly if there
are none or there is one, which is a direction. -/
theorem words_beforeFeed_eq_direction_iff (after : List Char) :
    words (beforeFeed after) =
        ((graphRecord after).direction.map fun d => (Vocabulary.word d).toList).toList ↔
      words (beforeFeed after) = [] ∨
        ∃ d : Direction, words (beforeFeed after) = [(Vocabulary.word d).toList] := by
  rw [graphRecord]
  rcases words (beforeFeed after) with - | ⟨word, more⟩
  · simp
  · rw [List.head?_cons, Option.bind_some]
    cases hd : Vocabulary.ofWord? (α := Direction) (String.ofList word) with
    | none =>
      refine iff_of_false (List.cons_ne_nil _ _) ?_
      rintro (hnil | ⟨d, hd'⟩)
      · cases hnil
      · have hword : word = (Vocabulary.word d).toList := (List.cons.inj hd').1
        rw [hword, String.ofList_toList, Vocabulary.ofWord?_word] at hd
        cases hd
    | some d =>
      have hword : (Vocabulary.word d).toList = word := by
        rw [Vocabulary.word_of_ofWord? hd, String.toList_ofList]
      rw [Option.map_some, Option.toList_some, hword]
      constructor
      · intro hmore
        exact .inr ⟨d, by rw [hword, hmore]⟩
      · rintro (hnil | ⟨d', hd'⟩)
        · cases hnil
        · rw [(List.cons.inj hd').2]

/-- A flow graph has its keyword, the words after it on the header line, and those of the content.
So its record stands for all its words exactly if the header line has none but the keyword and, at
most, a direction. Then nothing of the diagram is lost in validated content, from which the record is
read back. -/
theorem words_kept_iff {kinds : List DiagramKind} {text : String} {r : DiagramRecord}
    (h : parse kinds text = .ok (.record r)) :
    ∃ before after, CutAtWord isBlank text.toList before DiagramKind.graph.keyword.toList after ∧
      words text.toList = DiagramKind.graph.keyword.toList :: words (beforeFeed after) ++
        words r.content.toList ∧
      (words text.toList = r.words ↔ words (beforeFeed after) = [] ∨
        ∃ d : Direction, words (beforeFeed after) = [(Vocabulary.word d).toList]) ∧
      ∀ (c : Content) data, (Shape.diagramOrText kinds).validate c.json = .ok data →
        c.json.member? "diagram" = some (.str text) → ∃ written,
          data.member? "diagram" = some written ∧
            DiagramRecord.ofSource? (.ofJson written) = some r := by
  obtain ⟨-, before, after, hcut, rfl⟩ := cut_of_parse_record h
  have hwords : words text.toList = DiagramKind.graph.keyword.toList ::
      words (beforeFeed after) ++ words (graphRecord after).content.toList := by
    rw [hcut.words_eq, words_content_graphRecord, List.cons_append, words_beforeFeed_append]
  refine ⟨before, after, hcut, hwords, ?_, ?_⟩
  · rw [← words_beforeFeed_eq_direction_iff, hwords, DiagramRecord.words, List.append_left_inj]
    exact List.cons_inj_right _
  · intro c data hvalid htext
    exact ⟨_, Shape.member?_diagram_of_validate hvalid htext h, DiagramRecord.ofSource?_toJson _⟩

def tidyGraph : String := "\n graph LR \r\n\r\nA --> B\n"

theorem tidyGraph_words_kept :
    let c := Content.of (.obj [("diagram", .str tidyGraph)])
    ∃ r before after, parse [.graph] tidyGraph = .ok (.record r) ∧
      CutAtWord isBlank tidyGraph.toList before DiagramKind.graph.keyword.toList after ∧
      words (beforeFeed after) = [(Vocabulary.word Direction.leftRight).toList] ∧
      words tidyGraph.toList = r.words ∧
      ∃ data written, (Shape.diagramOrText [.graph]).validate c.json = .ok data ∧
        data.member? "diagram" = some written ∧
        DiagramRecord.ofSource? (.ofJson written) = some r := by
  intro c
  have hread : parse [.graph] tidyGraph =
      .ok (.record ⟨.graph, some .leftRight, "\nA --> B"⟩) := by rfl
  have hvalid : (Shape.diagramOrText [.graph]).validate c.json = .ok (.obj [("diagram",
      DiagramRecord.toJson ⟨.graph, some .leftRight, "\nA --> B"⟩)]) := by rfl
  have hcut : CutAtWord isBlank tidyGraph.toList "\n ".toList DiagramKind.graph.keyword.toList
      " LR \r\n\r\nA --> B\n".toList := by decide +kernel
  obtain ⟨before, after, hcut', -, hkept, hcarried⟩ := words_kept_iff hread
  obtain ⟨rfl, -, rfl⟩ := hcut'.unique hcut
  have hline : words (beforeFeed " LR \r\n\r\nA --> B\n".toList) =
      [(Vocabulary.word Direction.leftRight).toList] := by decide +kernel
  obtain ⟨written, hwritten, hagain⟩ := hcarried c _ hvalid (by rfl)
  exact ⟨_, _, _, hread, hcut, hline, hkept.mpr (.inr ⟨_, hline⟩), _, written, hvalid, hwritten,
    hagain⟩

/-- A statement that follows the direction on the header line is lost. -/
theorem header_statement_lost :
    let text := "graph TD A-->B\nC-->D"
    ∃ r, parse [.graph] text = .ok (.record r) ∧
      (words text.toList)[1]? = some (Vocabulary.word Direction.topDown).toList ∧
      "A-->B".toList ∈ words text.toList ∧ "A-->B".toList ∉ r.words ∧
      words text.toList ≠ r.words := by
  refine ⟨⟨.graph, some .topDown, "C-->D"⟩, by rfl, ?_, ?_, ?_, ?_⟩
  · decide +kernel
  · decide +kernel
  · decide +kernel
  · decide +kernel

end Diagram

end DocSections
