import DocSections.Diagram
import DocSections.Proofs.Words

/-! What a diagram is read by. The header line begins with the first word of the text, and that word
alone decides whether the text is a diagram of an allowed kind. What follows the word decides what a
flow graph is taken apart into. -/

namespace DocSections

theorem DiagramKind.keyword_ne_nil (k : DiagramKind) : k.keyword.toList ≠ [] := by
  cases k <;> decide +kernel

theorem DiagramKind.isBlank_keyword (k : DiagramKind) :
    ∀ c ∈ k.keyword.toList, Text.isBlank c = false := by
  have hall : (k.keyword.toList.all fun c => !Text.isBlank c) = true := by
    cases k <;> decide +kernel
  intro c hc
  exact Bool.not_eq_true' _ ▸ List.all_eq_true.mp hall c hc

namespace Diagram

open Text

/-- A blank at the front of a text moves its header line only. -/
theorem headerOn_cons_blank {c : Char} (h : isBlank c = true) {cs header : List Char}
    {body : List (List Char)} (hcs : headerOn cs = header :: body) :
    ∃ header', headerOn (c :: cs) = header' :: body ∧ words header' = words header := by
  rw [headerOn] at hcs ⊢
  rw [lines]
  split_ifs with hfeed hreturn
  · exact ⟨header, hcs, rfl⟩
  · exact ⟨header, hcs, rfl⟩
  · cases hlines : lines cs with
    | nil =>
      rw [hlines] at hcs
      cases hcs
    | cons first more =>
      rw [hlines, List.dropWhile_cons] at hcs
      rw [consFirst, List.dropWhile_cons, List.all_cons, h, Bool.true_and]
      split_ifs at hcs ⊢ with hblank
      · exact ⟨header, hcs, rfl⟩
      · obtain ⟨rfl, rfl⟩ := List.cons.inj hcs
        exact ⟨c :: first, rfl, words_cons_blank h first⟩

/-- The header line has the first word of the text and the words after it up to the line feed; what
follows the line feed are the other lines. -/
theorem headerOn_of_cut {cs before word after : List Char}
    (h : CutAtWord isBlank cs before word after) :
    ∃ header, headerOn cs = header :: lines (afterFeed after) ∧
      words header = word :: words (beforeFeed after) := by
  obtain ⟨rfl, hbefore, hne, hsolid, hafter⟩ := h
  induction before with
  | nil =>
    have hcut : CutAtWord isBlank (word ++ after) [] word after :=
      ⟨rfl, nofun, hne, hsolid, hafter⟩
    obtain ⟨hline, hrest⟩ := hcut.beforeFeed (List.not_mem_nil)
    have hsome : word ++ after ≠ [] := by simp [hne]
    obtain ⟨header, hlines, hheader⟩ := lines_eq_cons_words hsome
    rw [hline.words_eq] at hheader
    refine ⟨header, ?_, hheader⟩
    have hword : ¬ (header.all isBlank = true) := by
      intro hblank
      rw [words_eq_nil_iff.mpr (List.all_eq_true.mp hblank)] at hheader
      cases hheader
    rw [headerOn, List.nil_append, hlines, List.dropWhile_cons, if_neg hword, hrest]
  | cons c rest ih =>
    obtain ⟨hc, hrest⟩ := List.forall_mem_cons.mp hbefore
    obtain ⟨header, hheader, hwords⟩ := ih hrest
    obtain ⟨header', hheader', hwords'⟩ := headerOn_cons_blank hc hheader
    exact ⟨header', hheader', hwords'.trans hwords⟩

theorem headerOn_eq_nil {cs : List Char} (h : words cs = []) : headerOn cs = [] := by
  refine List.dropWhile_eq_nil_iff.mpr fun line hline => ?_
  rw [← flatMap_words_lines, List.flatMap_eq_nil_iff] at h
  exact List.all_eq_true.mpr (words_eq_nil_iff.mp (h line hline))

/-- What a flow graph is taken apart into, which what follows its keyword decides. -/
def graphRecord (after : List Char) : DiagramRecord where
  kind := .graph
  direction := (words (beforeFeed after)).head?.bind fun w => Vocabulary.ofWord? (String.ofList w)
  content := String.ofList (trimEnd (unlines (lines (afterFeed after))))

theorem isBlank_getLast?_content (after : List Char) :
    ∀ c ∈ (graphRecord after).content.toList.getLast?, isBlank c = false := by
  rw [graphRecord, String.toList_ofList]
  exact isBlank_getLast?_trimEnd _

theorem parse_of_words_eq_nil (kinds : List DiagramKind) {text : String}
    (h : words text.toList = []) : parse kinds text = .error .empty := by
  rw [parse, headerOn_eq_nil h]

section

variable {kinds : List DiagramKind} {text : String} {before word after : List Char}

/-- All that reading does, by the first word of the text and what follows it. -/
theorem parse_of_cut (h : CutAtWord isBlank text.toList before word after) : parse kinds text =
    match (Vocabulary.ofWord? (String.ofList word)).filter (kinds.contains ·) with
    | none => .error (.keyword (String.ofList word))
    | some .graph => .ok (.record (graphRecord after))
    | some _ => .ok (.text text) := by
  obtain ⟨header, hheader, hwords⟩ := headerOn_of_cut h
  have hdirection : (String.ofList word :: (words (beforeFeed after)).map String.ofList)[1]?.bind
      Vocabulary.ofWord? = (graphRecord after).direction := by
    rw [graphRecord, List.getElem?_cons_succ, ← List.head?_eq_getElem?, List.head?_map]
    cases (words (beforeFeed after)).head? <;> rfl
  rw [parse, hheader]
  simp only [hwords, List.map_cons, List.headD_cons, hdirection]
  rfl

theorem parse_of_graph (hk : .graph ∈ kinds)
    (h : CutAtWord isBlank text.toList before DiagramKind.graph.keyword.toList after) :
    parse kinds text = .ok (.record (graphRecord after)) := by
  rw [parse_of_cut h, String.ofList_toList, DiagramKind.keyword, Vocabulary.ofWord?_word,
    Option.filter_some, if_pos (List.contains_iff_mem.mpr hk)]

theorem parse_of_not_graph {k : DiagramKind} (hk : k ∈ kinds) (hne : k ≠ .graph)
    (h : CutAtWord isBlank text.toList before k.keyword.toList after) :
    parse kinds text = .ok (.text text) := by
  rw [parse_of_cut h, String.ofList_toList, DiagramKind.keyword, Vocabulary.ofWord?_word,
    Option.filter_some, if_pos (List.contains_iff_mem.mpr hk)]
  cases k with
  | graph => exact absurd rfl hne
  | _ => rfl

theorem parse_of_not_keyword (hword : ∀ k ∈ kinds, k.keyword.toList ≠ word)
    (h : CutAtWord isBlank text.toList before word after) :
    parse kinds text = .error (.keyword (String.ofList word)) := by
  have hnone : (Vocabulary.ofWord? (String.ofList word)).filter (kinds.contains ·) = none := by
    refine Option.filter_eq_none_iff.mpr fun k hk hmem => ?_
    refine hword k (List.contains_iff_mem.mp hmem) ?_
    rw [DiagramKind.keyword, Vocabulary.ofWord?_eq_some_iff.mp hk, String.toList_ofList]
  rw [parse_of_cut h, hnone]

end

section

variable {kinds : List DiagramKind} {text : String}

/-- A text is a diagram of an allowed kind exactly if its first word is the keyword of one. -/
theorem parse_isOk_iff : (∃ d, parse kinds text = .ok d) ↔
    ∃ k ∈ kinds, (words text.toList).head? = some k.keyword.toList := by
  constructor
  · rintro ⟨d, hd⟩
    cases hword : (words text.toList).head? with
    | none =>
      rw [parse_of_words_eq_nil kinds (List.head?_eq_none_iff.mp hword)] at hd
      cases hd
    | some word =>
      obtain ⟨before, after, hcut⟩ := head?_words_iff.mp hword
      by_contra! hnot
      rw [parse_of_not_keyword (fun k hk heq => hnot k hk (congrArg some heq.symm)) hcut] at hd
      cases hd
  · rintro ⟨k, hk, hword⟩
    obtain ⟨before, after, hcut⟩ := head?_words_iff.mp hword
    by_cases hgraph : k = .graph
    · subst hgraph
      exact ⟨_, parse_of_graph hk hcut⟩
    · exact ⟨_, parse_of_not_graph hk hgraph hcut⟩

theorem cut_of_parse_record {r : DiagramRecord} (h : parse kinds text = .ok (.record r)) :
    .graph ∈ kinds ∧ ∃ before after,
      CutAtWord isBlank text.toList before DiagramKind.graph.keyword.toList after ∧
        r = graphRecord after := by
  obtain ⟨k, hk, hword⟩ := parse_isOk_iff.mp ⟨_, h⟩
  obtain ⟨before, after, hcut⟩ := head?_words_iff.mp hword
  by_cases hgraph : k = .graph
  · subst hgraph
    rw [parse_of_graph hk hcut] at h
    cases h
    exact ⟨hk, before, after, hcut, rfl⟩
  · rw [parse_of_not_graph hk hgraph hcut] at h
    cases h

end

end Diagram

end DocSections
