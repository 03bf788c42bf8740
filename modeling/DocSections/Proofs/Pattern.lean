import DocSections.Proofs.Header
import DocSections.Shape.JsonSchema

/-! Regular expressions, as far as exported patterns use them: how they are read from text, and
where they match. The pattern of a diagram matches in a text exactly if the first word of the text
is one of its keywords. -/

namespace DocSections

inductive Pattern where
  | empty
  | start
  | finish
  | space
  | char (c : Char)
  | sequence (first second : Pattern)
  | choice (first second : Pattern)
  | many (inner : Pattern)
deriving DecidableEq

namespace Pattern

/-! Reading -/

inductive Token where
  | term (p : Pattern)
  | star
  | bar
  | opening
  | closing
  | unsupported
deriving DecidableEq

def unsupportedChars : List Char := ['\\', '.', '[', ']', '\x7b', '\x7d', '+', '?']

def tokenOf (c : Char) : Token :=
  if c = '^' then .term .start
  else if c = '$' then .term .finish
  else if c = '*' then .star
  else if c = '|' then .bar
  else if c = '(' then .opening
  else if c = ')' then .closing
  else if c ∈ unsupportedChars then .unsupported
  else .term (.char c)

def tokens : List Char → List Token
  | [] => []
  | '\\' :: 's' :: rest => .term .space :: tokens rest
  | c :: rest => tokenOf c :: tokens rest

/-- A group that is being read: the alternatives that are complete, and the terms of the one that is
not, the last term first. -/
structure Group where
  complete : Option Pattern
  terms : List Pattern

namespace Group

def new : Group := ⟨none, []⟩

def push (g : Group) (p : Pattern) : Group := { g with terms := p :: g.terms }

def alternative (g : Group) : Pattern := g.terms.foldl (fun rest p => sequence p rest) empty

def pattern (g : Group) : Pattern :=
  match g.complete with
  | none => g.alternative
  | some p => choice p g.alternative

def next (g : Group) : Group := ⟨some g.pattern, []⟩

end Group

def read : List Group → Group → List Token → Option Pattern
  | [], g, [] => some g.pattern
  | _ :: _, _, [] => none
  | around, g, .term p :: rest => read around (g.push p) rest
  | around, ⟨complete, p :: terms⟩, .star :: rest => read around ⟨complete, many p :: terms⟩ rest
  | _, ⟨_, []⟩, .star :: _ => none
  | around, g, .bar :: rest => read around g.next rest
  | around, g, .opening :: rest => read (g :: around) .new rest
  | outer :: around, g, .closing :: rest => read around (outer.push g.pattern) rest
  | [], _, .closing :: _ => none
  | _, _, .unsupported :: _ => none

def ofText? (text : String) : Option Pattern := read [] .new (tokens text.toList)

/-! Matching. A pattern matches a part of a text, given with what is before and after that part. -/

/-- A part that is put together from parts each of which is matched. -/
inductive Repeated (m : List Char → List Char → List Char → Prop) :
    List Char → List Char → List Char → Prop
  | none (before after : List Char) : Repeated m before [] after
  | more {before first others after : List Char} : m before first (others ++ after) →
      Repeated m (before ++ first) others after → Repeated m before (first ++ others) after

/-- Whether the pattern matches `part`, where `isSpace` are the characters that count as space. -/
def Matches (isSpace : Char → Bool) : Pattern → List Char → List Char → List Char → Prop
  | empty, _, part, _ => part = []
  | start, before, part, _ => before = [] ∧ part = []
  | finish, _, part, after => part = [] ∧ after = []
  | space, _, part, _ => ∃ c, isSpace c = true ∧ part = [c]
  | char c, _, part, _ => part = [c]
  | sequence p q, before, part, after => ∃ first second, part = first ++ second ∧
      p.Matches isSpace before first (second ++ after) ∧
      q.Matches isSpace (before ++ first) second after
  | choice p q, before, part, after =>
      p.Matches isSpace before part after ∨ q.Matches isSpace before part after
  | many p, before, part, after => Repeated (p.Matches isSpace) before part after

/-- Whether the pattern matches somewhere in a text. -/
def FoundIn (isSpace : Char → Bool) (p : Pattern) (text : List Char) : Prop :=
  ∃ before part after, text = before ++ part ++ after ∧ p.Matches isSpace before part after

variable {isSpace : Char → Bool} {before part after : List Char}

theorem matches_sequence_empty {p : Pattern} :
    (sequence p empty).Matches isSpace before part after ↔ p.Matches isSpace before part after := by
  simp only [Matches]
  constructor
  · rintro ⟨first, second, rfl, hp, rfl⟩
    rwa [List.append_nil]
  · intro hp
    exact ⟨part, [], (List.append_nil part).symm, hp, rfl⟩

theorem matches_many_space :
    (many space).Matches isSpace before part after ↔ ∀ c ∈ part, isSpace c = true := by
  constructor
  · intro h
    induction h with
    | none before after => nofun
    | more hm _ ih =>
      obtain ⟨c, hc, rfl⟩ := hm
      exact List.forall_mem_cons.mpr ⟨hc, ih⟩
  · intro h
    induction part generalizing before with
    | nil => exact .none before after
    | cons c rest ih =>
      obtain ⟨hc, hrest⟩ := List.forall_mem_cons.mp h
      exact .more ⟨c, hc, rfl⟩ (ih hrest)

def word (w : List Char) : Pattern := Group.alternative ⟨none, (w.map char).reverse⟩

theorem word_cons (c : Char) (w : List Char) : word (c :: w) = sequence (char c) (word w) := by
  simp [word, Group.alternative]

theorem matches_word {w : List Char} : (word w).Matches isSpace before part after ↔ part = w := by
  induction w generalizing before part with
  | nil => rfl
  | cons c w ih =>
    rw [word_cons]
    simp only [Matches, ih]
    constructor
    · rintro ⟨first, second, rfl, rfl, rfl⟩
      rfl
    · rintro rfl
      exact ⟨[c], w, rfl, rfl, rfl⟩

/-- The group that has been read when the last of some words has, which are its alternatives. -/
def wordGroup : Option Pattern → List Char → List (List Char) → Group
  | complete, w, [] => ⟨complete, (w.map char).reverse⟩
  | complete, w, v :: others =>
    wordGroup (some (Group.pattern ⟨complete, (w.map char).reverse⟩)) v others

theorem matches_group {complete : Option Pattern} {w : List Char} :
    (Group.pattern ⟨complete, (w.map char).reverse⟩).Matches isSpace before part after ↔
      (∃ p ∈ complete, p.Matches isSpace before part after) ∨ part = w := by
  cases complete with
  | none =>
    change (word w).Matches isSpace before part after ↔ _
    simp [matches_word]
  | some p =>
    change (p.Matches isSpace before part after ∨ (word w).Matches isSpace before part after) ↔ _
    simp [matches_word]

theorem matches_wordGroup {complete : Option Pattern} {w : List Char} {others : List (List Char)} :
    (wordGroup complete w others).pattern.Matches isSpace before part after ↔
      (∃ p ∈ complete, p.Matches isSpace before part after) ∨ part ∈ w :: others := by
  induction others generalizing complete w with
  | nil => rw [wordGroup, matches_group, List.mem_singleton]
  | cons v others ih =>
    rw [wordGroup, ih]
    simp only [Option.mem_some_iff, exists_eq_left', matches_group, List.mem_cons, or_assoc]

/-! What a list of words, with bars between, is read as. -/

theorem tokens_cons {c : Char} (h : c ≠ '\\') (rest : List Char) :
    tokens (c :: rest) = tokenOf c :: tokens rest := by
  rw [tokens]
  intro _ hescape
  exact absurd hescape h

def IsPlain (c : Char) : Prop := tokenOf c = .term (.char c)

instance (c : Char) : Decidable (IsPlain c) := inferInstanceAs (Decidable (_ = _))

theorem tokens_cons_of_isPlain {c : Char} (h : IsPlain c) (rest : List Char) :
    tokens (c :: rest) = .term (.char c) :: tokens rest := by
  rw [tokens_cons, h]
  rintro rfl
  exact absurd h (by decide)

theorem read_word {around : List Group} {complete : Option Pattern} {terms : List Pattern}
    {w : List Char} (h : ∀ c ∈ w, IsPlain c) (rest : List Char) :
    read around ⟨complete, terms⟩ (tokens (w ++ rest)) =
      read around ⟨complete, (w.map char).reverse ++ terms⟩ (tokens rest) := by
  induction w generalizing terms with
  | nil => rfl
  | cons c w ih =>
    obtain ⟨hc, hw⟩ := List.forall_mem_cons.mp h
    rw [List.cons_append, tokens_cons_of_isPlain hc, read, Group.push, ih hw]
    simp

theorem read_words {around : List Group} {complete : Option Pattern} {w : List Char}
    {others : List (List Char)} (h : ∀ v ∈ w :: others, ∀ c ∈ v, IsPlain c) (rest : List Char) :
    read around ⟨complete, []⟩ (tokens (['|'].intercalate (w :: others) ++ rest)) =
      read around (wordGroup complete w others) (tokens rest) := by
  induction others generalizing complete w with
  | nil =>
    rw [List.intercalate_singleton, read_word (h w List.mem_cons_self), List.append_nil, wordGroup]
  | cons v others ih =>
    have hbar : tokenOf '|' = .bar := by decide
    rw [List.intercalate_cons_cons, List.append_assoc, List.append_assoc,
      read_word (h w List.mem_cons_self), List.append_nil, List.singleton_append,
      tokens_cons (by decide), hbar, read, wordGroup]
    exact ih fun u hu => h u (List.mem_cons_of_mem _ hu)

open Text DiagramKind

theorem isPlain_keyword (k : DiagramKind) : ∀ c ∈ k.keyword.toList, IsPlain c := by
  have hall : (k.keyword.toList.all fun c => IsPlain c) = true := by
    cases k <;> decide +kernel
  intro c hc
  exact of_decide_eq_true (List.all_eq_true.mp hall c hc)

/-- A pattern at the start of a text, after space, and before a space or the end. -/
def bordered (middle : Pattern) : Pattern :=
  let border := choice (sequence space empty) (sequence finish empty)
  sequence start (sequence (many space) (sequence middle (sequence border empty)))

/-- The pattern of an exported diagram: a start, space, one of the keywords, and a space or the
end. -/
def ofKeywords (k : DiagramKind) (kinds : List DiagramKind) : Pattern :=
  let keywords := (wordGroup none k.keyword.toList (kinds.map (·.keyword.toList))).pattern
  let border := choice (sequence space empty) (sequence finish empty)
  sequence start (sequence (many space) (sequence keywords (sequence border empty)))

theorem ofText?_keywordPattern (k : DiagramKind) (kinds : List DiagramKind) :
    ofText? (Shape.keywordPattern (k :: kinds)) = some (ofKeywords k kinds) := by
  have hplain : ∀ w ∈ (k :: kinds).map (·.keyword.toList), ∀ c ∈ w, IsPlain c := by
    intro w hw c hc
    obtain ⟨l, -, rfl⟩ := List.mem_map.mp hw
    exact isPlain_keyword l c hc
  have hhead : ∀ rest, read [] .new (tokens ("^\\s*(".toList ++ rest)) =
      read [⟨none, [many space, start]⟩] .new (tokens rest) := fun _ => rfl
  rw [ofText?, Shape.keywordPattern, String.toList_append, String.toList_append,
    String.toList_intercalate, List.append_assoc, hhead, List.map_map]
  exact read_words hplain _

theorem matches_border : (sequence (choice (sequence space empty) (sequence finish empty))
    empty).Matches isSpace before part after ↔
      (∃ c, isSpace c = true ∧ part = [c]) ∨ part = [] ∧ after = [] := by
  rw [matches_sequence_empty, Matches, matches_sequence_empty, matches_sequence_empty, Matches,
    Matches]

theorem foundIn_bordered {middle : Pattern} {text : List Char} :
    (bordered middle).FoundIn isSpace text ↔ ∃ before part after,
      text = before ++ part ++ after ∧ (∀ c ∈ before, isSpace c = true) ∧
        middle.Matches isSpace before part after ∧ ∀ c ∈ after.head?, isSpace c = true := by
  simp only [FoundIn, bordered]
  constructor
  · rintro ⟨-, -, after, rfl, -, -, rfl, ⟨rfl, rfl⟩, spaces, -, rfl, hspaces, part, border, rfl,
      hpart, hborder⟩
    rw [matches_many_space] at hspaces
    rw [matches_border] at hborder
    refine ⟨spaces, part, border ++ after, by simp, hspaces, hpart, ?_⟩
    rcases hborder with ⟨c, hc, rfl⟩ | ⟨rfl, rfl⟩
    · simpa using hc
    · nofun
  · rintro ⟨spaces, part, after, rfl, hspaces, hpart, hafter⟩
    obtain ⟨border, rest, rfl, hborder⟩ : ∃ border rest, after = border ++ rest ∧
        ((∃ c, isSpace c = true ∧ border = [c]) ∨ border = [] ∧ rest = []) := by
      cases after with
      | nil => exact ⟨[], [], rfl, .inr ⟨rfl, rfl⟩⟩
      | cons c rest => exact ⟨[c], rest, rfl, .inl ⟨c, hafter c rfl, rfl⟩⟩
    exact ⟨[], spaces ++ (part ++ border), rest, by simp, [], _, rfl, ⟨rfl, rfl⟩, spaces, _, rfl,
      matches_many_space.mpr hspaces, part, border, rfl, hpart, matches_border.mpr hborder⟩

/-- Whether a text begins, after space, with the keyword of an allowed kind as its first word. -/
def BeginsWithKeyword (isSpace : Char → Bool) (kinds : List DiagramKind) (text : List Char) : Prop :=
  ∃ k ∈ kinds, ∃ before after, CutAtWord isSpace text before k.keyword.toList after

/-- The pattern matches in a text exactly if the text begins, after space, with a keyword that ends
at a space or at the end. -/
theorem foundIn_ofKeywords (hsolid : ∀ k : DiagramKind, ∀ c ∈ k.keyword.toList, isSpace c = false)
    {k : DiagramKind} {kinds : List DiagramKind} {text : List Char} :
    (ofKeywords k kinds).FoundIn isSpace text ↔ BeginsWithKeyword isSpace (k :: kinds) text := by
  have hmatches : ∀ before word after,
      (wordGroup none k.keyword.toList (kinds.map (·.keyword.toList))).pattern.Matches isSpace
        before word after ↔ ∃ l ∈ k :: kinds, l.keyword.toList = word := by
    intro before word after
    rw [matches_wordGroup, ← List.mem_map]
    exact or_iff_right (by simp)
  refine foundIn_bordered.trans ⟨?_, ?_⟩
  · rintro ⟨before, word, after, rfl, hbefore, hword, hafter⟩
    obtain ⟨l, hl, rfl⟩ := (hmatches before word after).mp hword
    exact ⟨l, hl, before, after, rfl, hbefore, l.keyword_ne_nil, hsolid l, hafter⟩
  · rintro ⟨l, hl, before, after, hcut⟩
    exact ⟨before, l.keyword.toList, after, hcut.eq, hcut.before_space,
      (hmatches before _ after).mpr ⟨l, hl, rfl⟩, hcut.after_space⟩

theorem beginsWithKeyword_iff_head? {kinds : List DiagramKind} {text : List Char} :
    BeginsWithKeyword isSpace kinds text ↔
      ∃ k ∈ kinds, (runs (fun c => !isSpace c) text).head? = some k.keyword.toList :=
  exists_congr fun _ => and_congr_right fun _ => head?_runs_iff.symm

theorem beginsWithKeyword_iff_parse {kinds : List DiagramKind} {text : String} :
    BeginsWithKeyword isBlank kinds text.toList ↔ ∃ d, Diagram.parse kinds text = .ok d := by
  rw [Diagram.parse_isOk_iff]
  exact beginsWithKeyword_iff_head?

/-- With white space for space, the exported pattern finds the diagrams of the kinds. -/
theorem foundIn_ofKeywords_iff_parse {k : DiagramKind} {kinds : List DiagramKind} {text : String} :
    (ofKeywords k kinds).FoundIn isBlank text.toList ↔
      ∃ d, Diagram.parse (k :: kinds) text = .ok d := by
  rw [foundIn_ofKeywords DiagramKind.isBlank_keyword, beginsWithKeyword_iff_parse]

end Pattern

end DocSections
