import DocSections.Text.Blank
import Mathlib.Data.List.Basic
import Mathlib.Data.List.DropRight
import Mathlib.Data.List.Infix
import Mathlib.Tactic.SplitIfs

/-! The words of a text, and what is left of them by its lines. Line ends are white space, so no word
is cut by taking a text apart into lines, putting lines together again or trimming. -/

namespace DocSections.Text

theorem fst_openRuns (p : Char → Bool) (cs : List Char) : (openRuns p cs).1 = cs.takeWhile p := by
  induction cs with
  | nil => rfl
  | cons c rest ih =>
    rw [openRuns, List.takeWhile_cons]
    split_ifs
    · rw [ih]
    · rfl

theorem runs_cons_of_pos {p : Char → Bool} {c : Char} (h : p c = true) (rest : List Char) :
    runs p (c :: rest) = (c :: rest.takeWhile p) :: (openRuns p rest).2 := by
  rw [runs, openRuns, if_pos h, fst_openRuns, closeRun, if_neg (List.cons_ne_nil _ _)]

theorem words_cons_blank {c : Char} (h : isBlank c = true) (rest : List Char) :
    words (c :: rest) = words rest :=
  runs_cons_of_not (by simp [h]) rest

theorem words_cons_of_not_blank {c : Char} (h : isBlank c = false) (rest : List Char) :
    words (c :: rest) = (c :: rest.takeWhile fun c => !isBlank c) ::
      (openRuns (fun c => !isBlank c) rest).2 :=
  runs_cons_of_pos (by simp [h]) rest

theorem words_eq_nil_iff {cs : List Char} : words cs = [] ↔ ∀ c ∈ cs, isBlank c = true := by
  induction cs with
  | nil => simp [words]
  | cons c rest ih =>
    rw [List.forall_mem_cons, ← ih]
    cases h : isBlank c with
    | true => rw [words_cons_blank h]; simp
    | false => rw [words_cons_of_not_blank h]; simp

theorem words_append_blanks (cs : List Char) {blanks : List Char}
    (h : ∀ c ∈ blanks, isBlank c = true) : words (cs ++ blanks) = words cs := by
  cases blanks with
  | nil => rw [List.append_nil]
  | cons c rest =>
    obtain ⟨hc, hrest⟩ := List.forall_mem_cons.mp h
    rw [words_append_blank hc, words_eq_nil_iff.mpr hrest, List.append_nil]

/-! The first word -/

/-- A text cut at its first word, where `isSpace` are the characters that stand between words. -/
structure CutAtWord (isSpace : Char → Bool) (cs before word after : List Char) : Prop where
  eq : cs = before ++ word ++ after
  before_space : ∀ c ∈ before, isSpace c = true
  ne_nil : word ≠ []
  solid : ∀ c ∈ word, isSpace c = false
  after_space : ∀ c ∈ after.head?, isSpace c = true

section

variable {isSpace : Char → Bool} {cs before word after : List Char}

theorem cutAtWord_iff_all : CutAtWord isSpace cs before word after ↔
    cs = before ++ word ++ after ∧ before.all isSpace = true ∧ word ≠ [] ∧
      (word.all fun c => !isSpace c) = true ∧ after.head?.all isSpace = true := by
  rw [List.all_eq_true, List.all_eq_true, Option.all_eq_true]
  simp only [Bool.not_eq_true']
  constructor
  · intro h
    exact ⟨h.eq, h.before_space, h.ne_nil, h.solid, h.after_space⟩
  · rintro ⟨heq, hbefore, hne, hsolid, hafter⟩
    exact ⟨heq, hbefore, hne, hsolid, hafter⟩

instance : Decidable (CutAtWord isSpace cs before word after) :=
  decidable_of_iff' _ cutAtWord_iff_all

theorem CutAtWord.takeWhile_after (h : CutAtWord isSpace cs before word after) :
    after.takeWhile (fun c => !isSpace c) = [] := by
  cases after with
  | nil => rfl
  | cons c rest => simp [h.after_space c rfl]

/-- The first word is the first run, and the runs after it are those of the rest. -/
theorem CutAtWord.runs_eq (h : CutAtWord isSpace cs before word after) :
    runs (fun c => !isSpace c) cs = word :: runs (fun c => !isSpace c) after := by
  obtain ⟨rfl, hbefore, hne, hsolid, hafter⟩ := h
  induction before with
  | nil =>
    have hopen := openRuns_of_all (p := fun c => !isSpace c) (w := word)
      (fun c hc => by simp [hsolid c hc]) after
    have hcut : CutAtWord isSpace (word ++ after) [] word after :=
      ⟨rfl, nofun, hne, hsolid, hafter⟩
    have hnone : (openRuns (fun c => !isSpace c) after).1 = [] := by
      rw [fst_openRuns, hcut.takeWhile_after]
    rw [List.nil_append, runs, hopen, runs, hnone, List.append_nil, closeRun, if_neg hne, closeRun,
      if_pos rfl]
  | cons c rest ih =>
    obtain ⟨hc, hrest⟩ := List.forall_mem_cons.mp hbefore
    rw [List.cons_append, List.cons_append, runs_cons_of_not (by simp [hc])]
    exact ih hrest

/-- A text has a first word exactly if it can be cut at it. -/
theorem head?_runs_iff : (runs (fun c => !isSpace c) cs).head? = some word ↔
    ∃ before after, CutAtWord isSpace cs before word after := by
  constructor
  · intro h
    induction cs with
    | nil => cases h
    | cons c rest ih =>
      cases hc : isSpace c with
      | true =>
        rw [runs_cons_of_not (by simp [hc])] at h
        obtain ⟨before, after, rfl, hbefore, hne, hsolid, hafter⟩ := ih h
        exact ⟨c :: before, after, rfl, List.forall_mem_cons.mpr ⟨hc, hbefore⟩, hne, hsolid, hafter⟩
      | false =>
        rw [runs_cons_of_pos (by simp [hc]), List.head?_cons, Option.some.injEq] at h
        subst h
        refine ⟨[], rest.dropWhile fun c => !isSpace c, ?_, nofun, List.cons_ne_nil _ _, ?_,
          fun d hd => ?_⟩
        · rw [List.nil_append, List.cons_append, List.takeWhile_append_dropWhile]
        · refine List.forall_mem_cons.mpr ⟨hc, fun d hd => ?_⟩
          simpa using List.mem_takeWhile_imp hd
        · have hstop := List.head?_dropWhile_not (fun c => !isSpace c) rest
          rw [Option.mem_def.mp hd] at hstop
          simpa using hstop
  · rintro ⟨before, after, h⟩
    rw [h.runs_eq, List.head?_cons]

/-- There is one way to cut a text at its first word. -/
theorem CutAtWord.unique {before' word' after' : List Char}
    (h : CutAtWord isSpace cs before word after) (h' : CutAtWord isSpace cs before' word' after') :
    before = before' ∧ word = word' ∧ after = after' := by
  have hword : word = word' := by
    have hruns := h.runs_eq.symm.trans h'.runs_eq
    exact (List.cons.inj hruns).1
  have htake : ∀ {b w a}, CutAtWord isSpace cs b w a → cs.takeWhile isSpace = b := by
    rintro b w a ⟨rfl, hb, hne, hsolid, -⟩
    obtain ⟨c, rest, rfl⟩ := List.exists_cons_of_ne_nil hne
    rw [List.append_assoc, List.takeWhile_append_of_pos hb, List.cons_append, List.takeWhile_cons,
      if_neg (by simp [hsolid c]), List.append_nil]
  have hbefore : before = before' := (htake h).symm.trans (htake h')
  refine ⟨hbefore, hword, ?_⟩
  have heq := h.eq.symm.trans h'.eq
  rw [hbefore, hword] at heq
  exact List.append_cancel_left heq

/-- The same cut, where more characters stand between words but none of those in the word. -/
theorem CutAtWord.mono {isSpace' : Char → Bool} (h : CutAtWord isSpace cs before word after)
    (hle : ∀ c, isSpace c = true → isSpace' c = true) (hsolid : ∀ c ∈ word, isSpace' c = false) :
    CutAtWord isSpace' cs before word after :=
  ⟨h.eq, fun c hc => hle c (h.before_space c hc), h.ne_nil, hsolid,
    fun c hc => hle c (h.after_space c hc)⟩

end

theorem head?_words_iff {cs word : List Char} : (words cs).head? = some word ↔
    ∃ before after, CutAtWord isBlank cs before word after :=
  head?_runs_iff

theorem CutAtWord.words_eq {cs before word after : List Char}
    (h : CutAtWord isBlank cs before word after) : words cs = word :: words after :=
  h.runs_eq

/-! Line feeds -/

def beforeFeed (cs : List Char) : List Char := cs.takeWhile (· ≠ '\n')

def afterFeed (cs : List Char) : List Char := (cs.dropWhile (· ≠ '\n')).tail

theorem beforeFeed_cons {c : Char} (h : c ≠ '\n') (rest : List Char) :
    beforeFeed (c :: rest) = c :: beforeFeed rest := by
  simp [beforeFeed, h]

theorem afterFeed_cons {c : Char} (h : c ≠ '\n') (rest : List Char) :
    afterFeed (c :: rest) = afterFeed rest := by
  simp [afterFeed, h]

theorem beforeFeed_append {line : List Char} (h : '\n' ∉ line) (rest : List Char) :
    beforeFeed (line ++ rest) = line ++ beforeFeed rest := by
  refine List.takeWhile_append_of_pos fun c hc => decide_eq_true ?_
  rintro rfl
  exact h hc

theorem afterFeed_append {line : List Char} (h : '\n' ∉ line) (rest : List Char) :
    afterFeed (line ++ rest) = afterFeed rest := by
  induction line with
  | nil => rfl
  | cons c line ih =>
    rw [List.mem_cons, not_or] at h
    rw [List.cons_append, afterFeed_cons (Ne.symm h.1), ih h.2]

theorem length_afterFeed_lt {cs : List Char} (h : cs ≠ []) : (afterFeed cs).length < cs.length := by
  have hle := List.length_dropWhile_le (fun c => decide (c ≠ '\n')) cs
  have hpos := List.length_pos_of_ne_nil h
  rw [afterFeed, List.length_tail]
  omega

theorem feed_not_mem_beforeFeed (cs : List Char) : '\n' ∉ beforeFeed cs := by
  intro hmem
  simpa using List.mem_takeWhile_imp hmem

theorem eq_beforeFeed_append (cs : List Char) :
    cs = beforeFeed cs ∧ afterFeed cs = [] ∨ cs = beforeFeed cs ++ '\n' :: afterFeed cs := by
  induction cs with
  | nil => exact .inl ⟨rfl, rfl⟩
  | cons c rest ih =>
    by_cases hc : c = '\n'
    · subst hc
      exact .inr rfl
    · rw [beforeFeed_cons hc, afterFeed_cons hc]
      rcases ih with ⟨hbefore, hafter⟩ | hcut
      · exact .inl ⟨congrArg (c :: ·) hbefore, hafter⟩
      · exact .inr (congrArg (c :: ·) hcut)

theorem words_beforeFeed_append (cs : List Char) :
    words (beforeFeed cs) ++ words (afterFeed cs) = words cs := by
  rcases eq_beforeFeed_append cs with ⟨hbefore, hafter⟩ | hcut
  · rw [← hbefore, hafter]
    exact List.append_nil _
  · conv_rhs => rw [hcut, words_append_blank (by decide)]

/-- A first word that stands on the first line is the first word of that line. -/
theorem CutAtWord.beforeFeed {cs before word after : List Char}
    (h : CutAtWord isBlank cs before word after) (hline : '\n' ∉ before) :
    CutAtWord isBlank (beforeFeed cs) before word (beforeFeed after) ∧
      afterFeed cs = afterFeed after := by
  have hword : '\n' ∉ before ++ word := by
    intro hmem
    rcases List.mem_append.mp hmem with hbefore | hword
    · exact hline hbefore
    · exact absurd (h.solid _ hword) (by decide)
  refine ⟨⟨?_, h.before_space, h.ne_nil, h.solid, fun c hc => ?_⟩, ?_⟩
  · rw [h.eq, beforeFeed_append hword]
  · cases after with
    | nil => cases hc
    | cons d rest =>
      have hd := h.after_space d rfl
      by_cases hfeed : d = '\n'
      · subst hfeed
        cases hc
      · rw [beforeFeed_cons hfeed, List.head?_cons, Option.mem_some_iff] at hc
        exact hc ▸ hd
  · rw [h.eq, afterFeed_append hword]

/-- What the first word of the first line is, said of the text. -/
theorem head?_words_beforeFeed_iff {cs word : List Char} :
    (words (beforeFeed cs)).head? = some word ↔
      ∃ before after, CutAtWord isBlank cs before word after ∧ '\n' ∉ before := by
  rw [head?_words_iff]
  constructor
  · rintro ⟨before, after, hcut⟩
    have hline : '\n' ∉ before := by
      intro hmem
      refine feed_not_mem_beforeFeed cs ?_
      rw [hcut.eq, List.append_assoc]
      exact List.mem_append_left _ hmem
    rcases eq_beforeFeed_append cs with ⟨hbefore, -⟩ | hparted
    · exact ⟨before, after, hbefore ▸ hcut, hline⟩
    · refine ⟨before, after ++ '\n' :: afterFeed cs, ⟨?_, hcut.before_space, hcut.ne_nil, hcut.solid,
        fun c hc => ?_⟩, hline⟩
      · rw [← List.append_assoc, ← hcut.eq, ← hparted]
      · cases after with
        | nil =>
          rw [List.nil_append, List.head?_cons, Option.mem_some_iff] at hc
          rw [← hc]
          decide
        | cons d rest => exact hcut.after_space c hc
  · rintro ⟨before, after, hcut, hline⟩
    exact ⟨before, _, (hcut.beforeFeed hline).1⟩

/-! Lines -/

theorem lines_eq_nil_iff {cs : List Char} : lines cs = [] ↔ cs = [] := by
  induction cs with
  | nil => simp [lines]
  | cons c rest ih =>
    rw [lines]
    split_ifs with hfeed hreturn
    · simp
    · have hrest : rest ≠ [] := by
        rintro rfl
        cases hreturn.2
      simp [ih, hrest]
    · cases lines rest <;> simp [consFirst]

/-- The first line is what stands before the first line feed, but for a carriage return at its
end, and the other lines are those of what follows. -/
theorem lines_eq_cons {cs : List Char} (h : cs ≠ []) : ∃ line,
    lines cs = line :: lines (afterFeed cs) ∧
      (beforeFeed cs = line ∨ beforeFeed cs = line ++ ['\r']) := by
  induction cs with
  | nil => exact absurd rfl h
  | cons c rest ih =>
    rw [lines]
    split_ifs with hfeed hreturn
    · subst hfeed
      exact ⟨[], rfl, .inl rfl⟩
    · obtain ⟨rfl, hhead⟩ := hreturn
      obtain ⟨more, rfl⟩ := List.head?_eq_some_iff.mp hhead
      exact ⟨[], rfl, .inr rfl⟩
    · rw [beforeFeed_cons hfeed, afterFeed_cons hfeed]
      by_cases hrest : rest = []
      · subst hrest
        exact ⟨[c], rfl, .inl rfl⟩
      · obtain ⟨line, hlines, hline⟩ := ih hrest
        rw [hlines]
        refine ⟨c :: line, rfl, ?_⟩
        rcases hline with hline | hline
        · exact .inl (by rw [hline])
        · exact .inr (by rw [hline]; rfl)

theorem lines_eq_cons_words {cs : List Char} (h : cs ≠ []) : ∃ line,
    lines cs = line :: lines (afterFeed cs) ∧ words line = words (beforeFeed cs) := by
  obtain ⟨line, hlines, hline⟩ := lines_eq_cons h
  refine ⟨line, hlines, ?_⟩
  rcases hline with hline | hline
  · rw [hline]
  · rw [hline, words_append_blanks line (List.forall_mem_singleton.mpr (by decide))]

/-- The words of a text are those of its lines. -/
theorem flatMap_words_lines (cs : List Char) : (lines cs).flatMap words = words cs := by
  by_cases h : cs = []
  · rw [h]
    rfl
  · obtain ⟨line, hlines, hline⟩ := lines_eq_cons_words h
    have hlt := length_afterFeed_lt h
    rw [hlines, List.flatMap_cons, hline, flatMap_words_lines (afterFeed cs),
      words_beforeFeed_append]
termination_by cs.length

theorem words_unlines (ls : List (List Char)) : words (unlines ls) = ls.flatMap words := by
  induction ls with
  | nil => rfl
  | cons line others ih =>
    cases others with
    | nil => rw [unlines, List.intercalate_singleton, List.flatMap_singleton]
    | cons next more =>
      rw [unlines] at ih
      rw [unlines, List.intercalate_cons_cons, List.append_assoc, List.singleton_append,
        words_append_blank (by decide), ih]
      rfl

/-! Trimming -/

theorem trimEnd_eq_rdropWhile (cs : List Char) : trimEnd cs = cs.rdropWhile isBlank := rfl

theorem isBlank_getLast?_trimEnd (cs : List Char) :
    ∀ c ∈ (trimEnd cs).getLast?, isBlank c = false := by
  intro c hc
  obtain ⟨hne, hlast⟩ := List.mem_getLast?_eq_getLast hc
  have hnot := List.rdropWhile_last_not isBlank cs hne
  rw [Bool.not_eq_true] at hnot
  rw [hlast]
  exact hnot

theorem trimEnd_eq_self_iff {cs : List Char} :
    trimEnd cs = cs ↔ ∀ c ∈ cs.getLast?, isBlank c = false := by
  constructor
  · intro h
    rw [← h]
    exact isBlank_getLast?_trimEnd cs
  · intro h
    refine List.rdropWhile_eq_self_iff.mpr fun hne => ?_
    rw [h _ (List.getLast?_eq_some_getLast hne)]
    exact Bool.false_ne_true

theorem words_trimEnd (cs : List Char) : words (trimEnd cs) = words cs := by
  have hblank : ∀ c ∈ cs.rtakeWhile isBlank, isBlank c = true := fun c hc =>
    List.mem_rtakeWhile_imp hc
  rw [← words_append_blanks (trimEnd cs) hblank, trimEnd_eq_rdropWhile,
    List.rdropWhile_append_rtakeWhile]

end DocSections.Text
