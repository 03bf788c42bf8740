import DocSections.Proofs.Header

/-! Records of flow graphs, written back as text and read again. Reading joins the lines below the
header by line feeds, so a carriage return is dropped if it stands before a line feed. It comes back
as part of a line end only where two of them stood there. -/

namespace DocSections

namespace Text

/-- The text without the carriage returns that stand right before line feeds. -/
def dropReturns : List Char → List Char
  | [] => []
  | c :: rest =>
    if c = '\r' ∧ rest.head? = some '\n' then dropReturns rest else c :: dropReturns rest

theorem unlines_consFirst (c : Char) (ls : List (List Char)) :
    unlines (consFirst c ls) = c :: unlines ls := by
  rcases ls with - | ⟨line, - | ⟨next, more⟩⟩
  · rfl
  · rw [consFirst, unlines, unlines, List.intercalate_singleton, List.intercalate_singleton]
  · rw [consFirst, unlines, unlines, List.intercalate_cons_cons, List.intercalate_cons_cons]
    rfl

theorem unlines_cons_nil {ls : List (List Char)} (h : ls ≠ []) :
    unlines ([] :: ls) = '\n' :: unlines ls := by
  obtain ⟨next, more, rfl⟩ := List.exists_cons_of_ne_nil h
  rw [unlines, List.intercalate_cons_cons]
  rfl

/-- Lines joined again are the text without the carriage returns of its line ends and without a line
feed at its end. -/
theorem dropReturns_eq_unlines_lines (cs : List Char) :
    dropReturns cs = unlines (lines cs) ∨ dropReturns cs = unlines (lines cs) ++ ['\n'] := by
  induction cs with
  | nil => exact .inl rfl
  | cons c rest ih =>
    rw [lines, dropReturns]
    by_cases hfeed : c = '\n'
    · subst hfeed
      rw [if_pos rfl, if_neg (fun h => absurd h.1 (by decide))]
      by_cases hrest : rest = []
      · subst hrest
        exact .inr rfl
      · have hlines : lines rest ≠ [] := fun hnil => hrest (lines_eq_nil_iff.mp hnil)
        rw [unlines_cons_nil hlines]
        rcases ih with ih | ih
        · exact .inl (by rw [ih])
        · exact .inr (by rw [ih]; rfl)
    · rw [if_neg hfeed]
      split_ifs with hreturn
      · exact ih
      · rw [unlines_consFirst]
        rcases ih with ih | ih
        · exact .inl (by rw [ih])
        · exact .inr (by rw [ih]; rfl)

theorem trimEnd_unlines_lines (cs : List Char) :
    trimEnd (unlines (lines cs)) = trimEnd (dropReturns cs) := by
  rcases dropReturns_eq_unlines_lines cs with h | h
  · rw [h]
  · rw [h, trimEnd_eq_rdropWhile, trimEnd_eq_rdropWhile,
      List.rdropWhile_concat_pos isBlank _ _ (by decide)]

theorem getLast?_dropReturns (cs : List Char) : (dropReturns cs).getLast? = cs.getLast? := by
  induction cs with
  | nil => rfl
  | cons c rest ih =>
    rw [dropReturns]
    split_ifs with hreturn
    · obtain ⟨more, rfl⟩ := List.head?_eq_some_iff.mp hreturn.2
      rw [ih, List.getLast?_cons_cons]
    · rw [List.getLast?_cons, List.getLast?_cons, ih]

/-- Dropping carriage returns leaves a trimmed text trimmed. -/
theorem trimEnd_dropReturns_of_trimEnd {cs : List Char} (h : trimEnd cs = cs) :
    trimEnd (dropReturns cs) = dropReturns cs := by
  rw [trimEnd_eq_self_iff, getLast?_dropReturns]
  exact trimEnd_eq_self_iff.mp h

theorem length_dropReturns_le (cs : List Char) : (dropReturns cs).length ≤ cs.length := by
  induction cs with
  | nil => exact le_rfl
  | cons c rest ih =>
    rw [dropReturns, List.length_cons]
    split_ifs
    · omega
    · rw [List.length_cons]
      omega

theorem returnFeed_prefix_iff {c : Char} {rest : List Char} :
    ['\r', '\n'] <+: c :: rest ↔ c = '\r' ∧ rest.head? = some '\n' := by
  rw [List.cons_prefix_cons, eq_comm]
  rcases rest with - | ⟨d, more⟩
  · simp
  · simp [List.cons_prefix_cons, eq_comm]

/-- Nothing is dropped exactly if no carriage return stands before a line feed. -/
theorem dropReturns_eq_self_iff {cs : List Char} :
    dropReturns cs = cs ↔ ¬ ['\r', '\n'] <:+: cs := by
  induction cs with
  | nil => simp [dropReturns]
  | cons c rest ih =>
    rw [dropReturns, List.infix_cons_iff, returnFeed_prefix_iff, not_or, ← ih]
    split_ifs with hreturn
    · refine iff_of_false (fun heq => ?_) fun hnot => hnot.1 hreturn
      have hle := length_dropReturns_le rest
      rw [heq, List.length_cons] at hle
      omega
    · rw [List.cons_inj_right, and_iff_right hreturn]

/-- A carriage return is left before a line feed only where another one stood between them. -/
theorem infix_of_infix_dropReturns {cs : List Char} (h : ['\r', '\n'] <:+: dropReturns cs) :
    ['\r', '\r', '\n'] <:+: cs := by
  induction cs with
  | nil => simp [dropReturns] at h
  | cons c rest ih =>
    rw [dropReturns] at h
    split_ifs at h with hreturn
    · exact List.infix_cons (ih h)
    · rw [List.infix_cons_iff, returnFeed_prefix_iff] at h
      rcases h with ⟨hc, hhead⟩ | h
      · rcases rest with - | ⟨d, more⟩
        · cases hhead
        · rw [dropReturns] at hhead
          split_ifs at hhead with hsecond
          · obtain ⟨others, rfl⟩ := List.head?_eq_some_iff.mp hsecond.2
            rw [hc, hsecond.1]
            exact (List.prefix_append ['\r', '\r', '\n'] others).isInfix
          · exact absurd ⟨hc, hhead⟩ hreturn
      · exact List.infix_cons (ih h)

end Text

/-- What stands between the keyword and the end of a header line that is written with a direction. -/
def DiagramRecord.headerRest (r : DiagramRecord) : String :=
  r.direction.elim "" fun d => " " ++ Vocabulary.word d

/-- A flow graph written as text: the keyword and the direction, if there is one, on a line of their
own, and the content below. -/
def DiagramRecord.toText (r : DiagramRecord) : String :=
  r.kind.keyword ++ r.headerRest ++ "\n" ++ r.content

namespace Diagram

open Text

section

variable {r : DiagramRecord}

theorem feed_not_mem_headerRest : '\n' ∉ r.headerRest.toList := by
  rw [DiagramRecord.headerRest]
  rcases r.direction with - | d
  · decide
  · cases d <;> decide +kernel

theorem direction_of_headerRest :
    ((words r.headerRest.toList).head?.bind fun w => Vocabulary.ofWord? (String.ofList w)) =
      r.direction := by
  rw [DiagramRecord.headerRest]
  rcases r.direction with - | d
  · rfl
  · cases d <;> decide +kernel

/-- What is read from a header line and a content that were written. -/
theorem graphRecord_written (content : List Char) :
    graphRecord (r.headerRest.toList ++ '\n' :: content) =
      ⟨.graph, r.direction, String.ofList (trimEnd (dropReturns content))⟩ := by
  have hbefore : beforeFeed (r.headerRest.toList ++ '\n' :: content) = r.headerRest.toList := by
    rw [beforeFeed_append feed_not_mem_headerRest]
    exact List.append_nil _
  have hafter : afterFeed (r.headerRest.toList ++ '\n' :: content) = content :=
    afterFeed_append feed_not_mem_headerRest _
  rw [graphRecord, hbefore, hafter, direction_of_headerRest, trimEnd_unlines_lines]

theorem cut_toText (h : r.kind = .graph) :
    CutAtWord isBlank r.toText.toList [] DiagramKind.graph.keyword.toList
      (r.headerRest.toList ++ '\n' :: r.content.toList) where
  eq := by
    rw [DiagramRecord.toText, h]
    simp only [String.toList_append, List.append_assoc]
    rfl
  before_space := nofun
  ne_nil := DiagramKind.keyword_ne_nil _
  solid := DiagramKind.isBlank_keyword _
  after_space := by
    intro c hc
    rw [DiagramRecord.headerRest] at hc
    generalize r.direction = direction at hc
    rcases direction with - | d
    · have hfeed : '\n' = c := Option.some.inj hc
      rw [← hfeed]
      decide
    · rw [Option.elim_some, String.toList_append] at hc
      have hspace : ' ' = c := Option.some.inj hc
      rw [← hspace]
      decide

end

/-- A carriage return before a line feed in the content comes from two of them. -/
theorem infix_of_infix_content {cs before after : List Char}
    (h : CutAtWord isBlank cs before DiagramKind.graph.keyword.toList after)
    (hreturn : ['\r', '\n'] <:+: (graphRecord after).content.toList) :
    ['\r', '\r', '\n'] <:+: cs := by
  rw [graphRecord, String.toList_ofList, trimEnd_unlines_lines] at hreturn
  have hprefix : trimEnd (dropReturns (afterFeed after)) <+: dropReturns (afterFeed after) :=
    List.rdropWhile_prefix isBlank _
  have hbelow := infix_of_infix_dropReturns (hreturn.trans hprefix.isInfix)
  have hsuffix : afterFeed after <:+ after :=
    (List.tail_suffix _).trans (List.dropWhile_suffix _)
  rw [h.eq]
  exact (hbelow.trans hsuffix.isInfix).trans (List.suffix_append _ _).isInfix

/-- A flow graph that was read, written as text and read again, is the same record but for the
carriage returns before line feeds in its content. So it is the same exactly if there are none, as
when no two of them stand before a line feed in the text. -/
theorem parse_toText {kinds : List DiagramKind} {text : String} {r : DiagramRecord}
    (h : parse kinds text = .ok (.record r)) :
    parse kinds r.toText =
        .ok (.record { r with content := String.ofList (dropReturns r.content.toList) }) ∧
      (parse kinds r.toText = .ok (.record r) ↔ ¬ ['\r', '\n'] <:+: r.content.toList) ∧
      (¬ ['\r', '\r', '\n'] <:+: text.toList → parse kinds r.toText = .ok (.record r)) := by
  obtain ⟨hk, before, after, hcut, hr⟩ := cut_of_parse_record h
  have hkind : r.kind = .graph := by rw [hr]; rfl
  have htrim : trimEnd r.content.toList = r.content.toList := by
    rw [hr]
    exact trimEnd_eq_self_iff.mpr (isBlank_getLast?_content after)
  have hagain : parse kinds r.toText =
      .ok (.record { r with content := String.ofList (dropReturns r.content.toList) }) := by
    rw [parse_of_graph hk (cut_toText hkind), graphRecord_written,
      trimEnd_dropReturns_of_trimEnd htrim, hkind]
  have hsame : parse kinds r.toText = .ok (.record r) ↔ ¬ ['\r', '\n'] <:+: r.content.toList := by
    rw [← dropReturns_eq_self_iff, hagain]
    constructor
    · intro heq
      have hcontent := congrArg DiagramRecord.content (Diagram.record.inj (Except.ok.inj heq))
      rw [← String.toList_inj, String.toList_ofList] at hcontent
      exact hcontent
    · intro heq
      rw [heq, String.ofList_toList]
  refine ⟨hagain, hsame, fun hreturns => hsame.mpr fun hreturn => hreturns ?_⟩
  rw [hr] at hreturn
  exact infix_of_infix_content hcut hreturn

/-- A graph with another word on the header line, line ends of two kinds, a carriage return inside a
line and white space at the end. -/
def unevenGraph : String := "\ngraph TB x\r\n\r\n A\rB \r\nC\u2003\n"

theorem unevenGraph_parse_toText :
    ∃ r, parse [.erDiagram, .graph] unevenGraph = .ok (.record r) ∧
      ¬ ['\r', '\r', '\n'] <:+: unevenGraph.toList ∧ r.toText = "graph TB\n\n A\rB \nC" ∧
      parse [.erDiagram, .graph] r.toText = .ok (.record r) := by
  have hread : parse [.erDiagram, .graph] unevenGraph =
      .ok (.record ⟨.graph, some .topBottom, "\n A\rB \nC"⟩) := by rfl
  have hreturns : ¬ ['\r', '\r', '\n'] <:+: unevenGraph.toList := by decide +kernel
  exact ⟨_, hread, hreturns, by decide +kernel, (parse_toText hread).2.2 hreturns⟩

/-- Of two carriage returns before a line feed one is left by the first reading and none by the
second. -/
theorem doubled_return_lost :
    ∃ r s, parse [.graph] "graph\nA\r\r\nB" = .ok (.record r) ∧
      parse [.graph] r.toText = .ok (.record s) ∧ r.content = "A\r\nB" ∧ s.content = "A\nB" ∧
      parse [.graph] r.toText ≠ .ok (.record r) := by
  have hread : parse [.graph] "graph\nA\r\r\nB" = .ok (.record ⟨.graph, none, "A\r\nB"⟩) := by rfl
  have hagain : parse [.graph] (DiagramRecord.toText ⟨.graph, none, "A\r\nB"⟩) =
      .ok (.record ⟨.graph, none, "A\nB"⟩) := by rfl
  refine ⟨_, _, hread, hagain, rfl, rfl, ?_⟩
  rw [hagain]
  intro heq
  have hcontent := congrArg DiagramRecord.content (Diagram.record.inj (Except.ok.inj heq))
  exact absurd hcontent (by decide)

end Diagram

end DocSections
