import DocSections.Toml.Reader
import DocSections.Toml.Writer
import Mathlib.Tactic.IntervalCases

/-! Texts in TOML documents. In whichever form a text is written, the lexer reads it back. -/

namespace DocSections.Toml

variable {tokens : List Token} {chars first second : List Char} {c : Char} {q : Quote}
  {s s' : List Token × Lexing} {state state' : Lexing}

theorem lexFrom_cons (c : Char) (cs : List Char) (tokens : List Token) (state : Lexing) :
    lexFrom (c :: cs) (tokens, state) = (lexStep tokens c state).bind (lexFrom cs) := by
  rw [lexFrom, List.foldlM_cons]
  rfl

theorem lexFrom_append (h : lexFrom first s = some s') : lexFrom (first ++ second) s =
    lexFrom second s' := by
  rw [lexFrom, List.foldlM_append]
  change (lexFrom first s).bind (lexFrom second) = _
  rw [h]
  rfl

theorem lexFrom_cons_of_lexStep (h : lexStep tokens c state = some s) (cs : List Char) :
    lexFrom (c :: cs) (tokens, state) = lexFrom cs s := by
  rw [lexFrom_cons, h]
  rfl

/-- States that treat the next character alike go on alike. -/
theorem lexFrom_cons_congr (h : lexStep tokens c state = lexStep tokens c state') (cs : List Char) :
    lexFrom (c :: cs) (tokens, state) = lexFrom (c :: cs) (tokens, state') := by
  rw [lexFrom_cons, lexFrom_cons, h]

theorem isPrintable_of_not_isControl (h : isControl c = false) : isPrintable c = true := by
  rw [isControl, Bool.or_eq_false_iff, decide_eq_false_iff_not, beq_eq_false_iff_ne] at h
  rw [isPrintable, Bool.or_eq_true, Bool.and_eq_true, decide_eq_true_eq, bne_iff_ne]
  exact .inr ⟨Nat.le_of_not_lt h.1, h.2⟩

theorem hexValue?_toUpper_hexDigit {n : Nat} (h : n < 16) :
    Text.hexValue? (Text.hexDigit n).toUpper = some n := by
  interval_cases n <;> rfl

/-- The number of a character in four digits, of which two say it all. -/
theorem lexFrom_unit (multiline : Bool) (h : c.toNat < 0x100) :
    lexFrom ['\\', 'u', '0', '0', (Text.hexDigit (c.toNat / 16)).toUpper,
      (Text.hexDigit (c.toNat % 16)).toUpper] (tokens, inside multiline chars) =
      some (tokens, inside multiline (c :: chars)) := by
  have hzeros : lexFrom ['\\', 'u', '0', '0'] (tokens, inside multiline chars) =
      some (tokens, .unit multiline chars 2 0) := by
    cases multiline <;> rfl
  have hhigh : lexStep tokens (Text.hexDigit (c.toNat / 16)).toUpper (.unit multiline chars 2 0) =
      some (tokens, .unit multiline chars 1 (c.toNat / 16)) := by
    rw [lexStep, unitStep, hexValue?_toUpper_hexDigit (by omega)]
    simp
  have hlow : lexStep tokens (Text.hexDigit (c.toNat % 16)).toUpper
      (.unit multiline chars 1 (c.toNat / 16)) = some (tokens, inside multiline (c :: chars)) := by
    have hvalue : c.toNat / 16 * 16 + c.toNat % 16 = c.toNat := by omega
    have hvalid : c.toNat.isValidChar := c.valid
    rw [lexStep, unitStep, hexValue?_toUpper_hexDigit (by omega)]
    simp [hvalue, hvalid]
  calc
    _ = lexFrom [(Text.hexDigit (c.toNat / 16)).toUpper, (Text.hexDigit (c.toNat % 16)).toUpper]
        (tokens, .unit multiline chars 2 0) := lexFrom_append hzeros
    _ = lexFrom [(Text.hexDigit (c.toNat % 16)).toUpper]
        (tokens, .unit multiline chars 1 (c.toNat / 16)) := lexFrom_cons_of_lexStep hhigh _
    _ = some (tokens, inside multiline (c :: chars)) := lexFrom_cons_of_lexStep hlow []

theorem lexFrom_escape (tokens : List Token) (multiline : Bool) (c : Char) (chars : List Char) :
    lexFrom (escape c) (tokens, inside multiline chars) =
      some (tokens, inside multiline (c :: chars)) := by
  unfold escape
  split_ifs with hback htab hfeed hform hreturn hquote hbackslash hcontrol
  · obtain rfl : c = Char.ofNat 0x08 := by rw [← hback, Char.ofNat_toNat]
    cases multiline <;> rfl
  · subst htab
    cases multiline <;> rfl
  · subst hfeed
    cases multiline <;> rfl
  · obtain rfl : c = Char.ofNat 0x0C := by rw [← hform, Char.ofNat_toNat]
    cases multiline <;> rfl
  · subst hreturn
    cases multiline <;> rfl
  · subst hquote
    cases multiline <;> rfl
  · subst hbackslash
    cases multiline <;> rfl
  · refine lexFrom_unit multiline ?_
    simp only [isControl, Bool.or_eq_true, decide_eq_true_eq, beq_iff_eq] at hcontrol
    omega
  · have hprintable := isPrintable_of_not_isControl (Bool.eq_false_iff.mpr hcontrol)
    rw [lexFrom_cons]
    cases multiline with
    | false => simp [inside, lexStep, textStep, Quote.char, hquote, hbackslash, hprintable, lexFrom]
    | true =>
      simp [inside, lexStep, linesStep, Quote.char, hquote, hbackslash, hreturn, hprintable,
        lexFrom]

/-- The state inside a text in either kind of quotes. -/
def within (q : Quote) (multiline : Bool) (chars : List Char) : Lexing :=
  if multiline then .lines q chars else .text q chars

/-- In a text, `word` stands for a character. It does not begin like what ends a text or a line. -/
structure Spells (q : Quote) (multiline : Bool) (word : List Char) (c : Char) : Prop where
  head : ∃ d rest, word = d :: rest ∧ d ≠ q.char ∧ d ≠ '\r'
  lexes : ∀ tokens chars, lexFrom word (tokens, within q multiline chars) =
    some (tokens, within q multiline (c :: chars))

theorem spells_escape (multiline : Bool) (c : Char) : Spells .basic multiline (escape c) c where
  head := by
    unfold escape
    split_ifs with hback htab hfeed hform hreturn hquote
    all_goals exact ⟨_, _, rfl, by first | decide | assumption, by first | decide | assumption⟩
  lexes tokens chars := by
    have hlexes := lexFrom_escape tokens multiline c chars
    cases multiline <;> exact hlexes

theorem spells_feed (q : Quote) : Spells q true ['\n'] '\n' where
  head := ⟨'\n', [], rfl, by cases q <;> decide, by decide⟩
  lexes tokens chars := by cases q <;> rfl

theorem spells_literal (multiline : Bool) (hc : isControl c = false ∨ c = '\t')
    (hquote : c ≠ '\x27') : Spells .literal multiline [c] c where
  head := by
    refine ⟨c, [], rfl, hquote, ?_⟩
    rintro rfl
    rcases hc with hc | hc <;> exact absurd hc (by decide)
  lexes tokens chars := by
    have hprintable : isPrintable c = true := by
      rcases hc with hc | rfl
      · exact isPrintable_of_not_isControl hc
      · rfl
    have hreturn : c ≠ '\r' := by
      rintro rfl
      cases hprintable
    rw [lexFrom_cons]
    cases multiline <;>
      simp [within, lexStep, textStep, linesStep, Quote.char, hquote, hprintable, hreturn, lexFrom]

/-- How the characters of a text are written, where `count` quotes stand right before. In a text of
several lines up to two quotes in a row stand for themselves. -/
inductive Writes (q : Quote) (multiline : Bool) : Nat → List Char → List Char → Prop
  | nil {count : Nat} : Writes q multiline count [] []
  | quote {count : Nat} {cs body : List Char} : multiline = true → count < 2 →
      Writes q multiline (count + 1) cs body →
      Writes q multiline count (q.char :: cs) (q.char :: body)
  | other {count : Nat} {c : Char} {word cs body : List Char} : Spells q multiline word c →
      Writes q multiline 0 cs body → Writes q multiline count (c :: cs) (word ++ body)

theorem writes_escape (cs : List Char) : Writes .basic false 0 cs (cs.flatMap escape) := by
  induction cs with
  | nil => exact .nil
  | cons c rest ih => exact .other (spells_escape false c) ih

theorem writes_escapeLines (count : Nat) (cs : List Char) :
    Writes .basic true count cs (escapeLines count cs) := by
  induction cs generalizing count with
  | nil => exact .nil
  | cons c rest ih =>
    rw [escapeLines]
    split_ifs with hfeed hquote hcount
    · subst hfeed
      exact .other (spells_feed .basic) (ih 0)
    · subst hquote
      exact .quote rfl hcount (ih (count + 1))
    · subst hquote
      exact .other (spells_escape true '"') (ih 0)
    · exact .other (spells_escape true c) (ih 0)

theorem writes_literal {cs : List Char}
    (h : ∀ c ∈ cs, (isControl c = false ∨ c = '\t') ∧ c ≠ '\x27') :
    Writes .literal false 0 cs cs := by
  induction cs with
  | nil => exact .nil
  | cons c rest ih =>
    obtain ⟨⟨hc, hquote⟩, hrest⟩ := List.forall_mem_cons.mp h
    exact .other (spells_literal false hc hquote) (ih hrest)

theorem writes_literalLines {count : Nat} {cs : List Char}
    (h : ∀ c ∈ cs, isControl c = false ∨ c = '\t' ∨ c = '\n')
    (hthree : hasThree '\x27' count cs = false) : Writes .literal true count cs cs := by
  induction cs generalizing count with
  | nil => exact .nil
  | cons c rest ih =>
    obtain ⟨hc, hrest⟩ := List.forall_mem_cons.mp h
    rw [hasThree] at hthree
    split_ifs at hthree with hquote
    · subst hquote
      rw [Bool.or_eq_false_iff, decide_eq_false_iff_not] at hthree
      exact .quote rfl (by omega) (ih hrest hthree.2)
    · rcases hc with hc | hc | rfl
      · exact .other (spells_literal true (.inl hc) hquote) (ih hrest hthree)
      · exact .other (spells_literal true (.inr hc) hquote) (ih hrest hthree)
      · exact .other (spells_feed .literal) (ih hrest hthree)

/-- The state inside a text after `count` quotes that may be the beginning of its end. -/
def pending (q : Quote) (multiline : Bool) (chars : List Char) (count : Nat) : Lexing :=
  if count = 0 then within q multiline chars else .quotes q chars count

variable {multiline : Bool} {count : Nat} {cs body rest : List Char}

/-- Quotes of which there are too few stand for themselves. -/
theorem lexFrom_pending_of_ne (hc : c ≠ q.char) (hcount : count ≤ 2)
    (hmultiline : count = 0 ∨ multiline = true) (cs : List Char) :
    lexFrom (c :: cs) (tokens, pending q multiline chars count) =
      lexFrom (c :: cs) (tokens, within q multiline (List.replicate count q.char ++ chars)) := by
  refine lexFrom_cons_congr ?_ cs
  unfold pending
  split_ifs with hzero
  · rw [hzero]
    rfl
  · obtain rfl := hmultiline.resolve_left hzero
    have hfew : count < 3 := by omega
    simp [lexStep, quotesStep, within, hc, hfew]

theorem lexStep_pending_quote (hcount : count < 5) :
    lexStep tokens q.char (pending q true chars count) =
      some (tokens, pending q true chars (count + 1)) := by
  cases count with
  | zero => simp [pending, within, lexStep, linesStep]
  | succ n => simp [pending, lexStep, quotesStep, hcount]

/-- What is written is read, up to quotes at its end. -/
theorem exists_pending_of_writes (h : Writes q multiline count cs body) (hcount : count ≤ 2)
    (hmultiline : count = 0 ∨ multiline = true) (tokens : List Token) (chars : List Char) :
    ∃ chars' count', count' ≤ 2 ∧ (count' = 0 ∨ multiline = true) ∧
      lexFrom body (tokens, pending q multiline chars count) =
        some (tokens, pending q multiline chars' count') ∧
      List.replicate count' q.char ++ chars' =
        cs.reverse ++ (List.replicate count q.char ++ chars) := by
  induction h generalizing chars with
  | nil => exact ⟨chars, _, hcount, hmultiline, rfl, rfl⟩
  | @quote count cs body hlines hfew _ ih =>
    subst hlines
    obtain ⟨chars', count', hcount', hm', hlex, hall⟩ := ih (by omega) (.inr rfl) chars
    refine ⟨chars', count', hcount', hm', ?_, ?_⟩
    · rw [lexFrom_cons_of_lexStep (lexStep_pending_quote (by omega)), hlex]
    · rw [hall, List.reverse_cons, List.append_assoc, List.replicate_succ]
      rfl
  | @other count c word cs body hword _ ih =>
    obtain ⟨d, ds, rfl, hd, -⟩ := hword.head
    obtain ⟨chars', count', hcount', hm', hlex, hall⟩ :=
      ih (Nat.zero_le 2) (.inl rfl) (c :: (List.replicate count q.char ++ chars))
    refine ⟨chars', count', hcount', hm', ?_, ?_⟩
    · rw [List.cons_append, lexFrom_pending_of_ne hd hcount hmultiline, ← List.cons_append,
        lexFrom_append (hword.lexes tokens _)]
      exact hlex
    · rw [hall, List.reverse_cons, List.append_assoc]
      rfl

def delimiter (q : Quote) (multiline : Bool) : List Char :=
  if multiline then [q.char, q.char, q.char] else [q.char]

theorem startToken_feed (tokens : List Token) :
    startToken tokens '\n' = some (.newline :: tokens, .between) := by rfl

theorem lexFrom_close (hcount : count ≤ 2) (hmultiline : count = 0 ∨ multiline = true) :
    lexFrom (delimiter q multiline ++ '\n' :: rest) (tokens, pending q multiline chars count) =
      lexFrom rest (.newline ::
        textToken (List.replicate count q.char ++ chars) multiline :: tokens, .between) := by
  cases multiline with
  | false =>
    obtain rfl : count = 0 := hmultiline.resolve_right nofun
    have hquote : lexStep tokens q.char (.text q chars) =
        some (textToken chars false :: tokens, .between) := by
      simp [lexStep, textStep]
    have hfeed : lexStep (textToken chars false :: tokens) '\n' .between =
        some (.newline :: textToken chars false :: tokens, .between) := startToken_feed _
    exact (lexFrom_cons_of_lexStep hquote _).trans (lexFrom_cons_of_lexStep hfeed rest)
  | true =>
    have hfeed : lexStep tokens '\n' (pending q true chars (count + 1 + 1 + 1)) =
        some (.newline :: textToken (List.replicate count q.char ++ chars) true :: tokens,
          .between) := by
      have hne : '\n' ≠ q.char := by cases q <;> decide
      simp [pending, lexStep, quotesStep, hne, startToken_feed]
    simp only [delimiter, if_true, List.cons_append, List.nil_append]
    rw [lexFrom_cons_of_lexStep (lexStep_pending_quote (by omega)),
      lexFrom_cons_of_lexStep (lexStep_pending_quote (by omega)),
      lexFrom_cons_of_lexStep (lexStep_pending_quote (by omega)), lexFrom_cons_of_lexStep hfeed]

theorem char_ne_return (q : Quote) : q.char ≠ '\r' := by cases q <;> decide

theorem char_ne_feed (q : Quote) : q.char ≠ '\n' := by cases q <;> decide

theorem lexStep_open (q : Quote) (tokens : List Token) :
    lexStep tokens q.char .between = some (tokens, .opened q) := by
  cases q <;> rfl

theorem lexStep_opened_quote : lexStep tokens q.char (.opened q) = some (tokens, .emptyText q) := by
  simp [lexStep]

/-- After the first quote a text of one line goes on with its body, unless that is empty. -/
theorem lexFrom_opened_of_ne (hc : c ≠ q.char) (cs : List Char) :
    lexFrom (c :: cs) (tokens, .opened q) = lexFrom (c :: cs) (tokens, within q false []) :=
  lexFrom_cons_congr (by simp [lexStep, within, hc]) cs

theorem lexFrom_firstLine_of_ne (hfeed : c ≠ '\n') (hreturn : c ≠ '\r') (cs : List Char) :
    lexFrom (c :: cs) (tokens, .firstLine q) = lexFrom (c :: cs) (tokens, within q true []) :=
  lexFrom_cons_congr (by simp [lexStep, within, hfeed, hreturn]) cs

theorem head_of_writes (h : Writes q multiline 0 cs body) :
    (cs = [] ∧ body = []) ∨
      ∃ d ds, body = d :: ds ∧ d ≠ '\r' ∧ (multiline = false → d ≠ q.char) := by
  cases h with
  | nil => exact .inl ⟨rfl, rfl⟩
  | quote hlines _ _ =>
    refine .inr ⟨_, _, rfl, char_ne_return q, fun hm => ?_⟩
    rw [hlines] at hm
    cases hm
  | other hword _ =>
    obtain ⟨d, ds, rfl, hd, hreturn⟩ := hword.head
    exact .inr ⟨d, ds ++ _, rfl, hreturn, fun _ => hd⟩

/-- A text of several lines is opened; a line feed right after the quotes is no part of it, and is
written if there is another one in the text. -/
theorem lexFrom_open_lines (h : Writes q true 0 cs body) (rest : List Char) :
    lexFrom (delimiter q true ++ (if body.contains '\n' then ['\n'] else []) ++ body ++
        (delimiter q true ++ rest)) (tokens, .between) =
      lexFrom (body ++ (delimiter q true ++ rest)) (tokens, within q true []) := by
  have hopen : lexFrom (delimiter q true) (tokens, .between) = some (tokens, .firstLine q) := by
    cases q <;> rfl
  rw [List.append_assoc, List.append_assoc, lexFrom_append hopen]
  split_ifs with hfeed
  · exact lexFrom_cons_of_lexStep (by rfl) _
  · rcases head_of_writes h with ⟨-, rfl⟩ | ⟨d, ds, rfl, hreturn, -⟩
    · exact lexFrom_firstLine_of_ne (char_ne_feed q) (char_ne_return q) _
    · refine lexFrom_firstLine_of_ne ?_ hreturn _
      rintro rfl
      exact hfeed (by simp)

theorem lexFrom_enclose (h : Writes q multiline 0 cs body) (tokens : List Token)
    (rest : List Char) :
    lexFrom (enclose (delimiter q multiline) body ++ '\n' :: rest) (tokens, .between) =
      lexFrom rest (.newline :: .quoted (String.ofList cs) multiline :: tokens, .between) := by
  obtain ⟨chars, count, hcount, hmultiline, hlex, hall⟩ :=
    exists_pending_of_writes h (Nat.zero_le 2) (.inl rfl) tokens []
  have hbody : lexFrom body (tokens, within q multiline []) =
      some (tokens, pending q multiline chars count) := hlex
  have hclose : lexFrom (body ++ (delimiter q multiline ++ '\n' :: rest))
      (tokens, within q multiline []) =
        lexFrom rest (.newline :: .quoted (String.ofList cs) multiline :: tokens, .between) := by
    rw [lexFrom_append hbody, lexFrom_close hcount hmultiline, textToken, hall]
    simp
  cases multiline with
  | true =>
    rw [← hclose, ← lexFrom_open_lines h, enclose]
    simp [delimiter]
  | false =>
    have henclose : enclose (delimiter q false) body ++ '\n' :: rest =
        q.char :: (body ++ (delimiter q false ++ '\n' :: rest)) := by
      simp [enclose, delimiter]
    rw [henclose, lexFrom_cons_of_lexStep (lexStep_open q tokens)]
    rcases head_of_writes h with ⟨rfl, rfl⟩ | ⟨d, ds, rfl, -, hd⟩
    · exact (lexFrom_cons_of_lexStep lexStep_opened_quote _).trans
        (lexFrom_cons_of_lexStep (by cases q <;> rfl) rest)
    · rw [← hclose]
      exact lexFrom_opened_of_ne (hd rfl) _

/-- Without the control characters that have to be escaped, only tabs and line feeds are left. -/
theorem isControl_of_any_eq_false
    (h : cs.any (fun c => isControl c && c != '\t' && c != '\n') = false) (hc : c ∈ cs) :
    isControl c = false ∨ c = '\t' ∨ c = '\n' := by
  have hc := List.any_eq_false.mp h c hc
  simp only [Bool.and_eq_true, bne_iff_ne, not_and, not_not] at hc
  cases hcontrol : isControl c with
  | false => exact .inl rfl
  | true =>
    by_cases htab : c = '\t'
    · exact .inr (.inl htab)
    · exact .inr (.inr (hc ⟨hcontrol, htab⟩))

theorem of_formOf_eq_literal (h : formOf cs = .literal) :
    ∀ c ∈ cs, (isControl c = false ∨ c = '\t') ∧ c ≠ '\x27' := by
  intro c hc
  simp only [formOf] at h
  split_ifs at h with hcontrol _ _ hliteral
  simp only [Bool.and_eq_true, Bool.not_eq_true', List.contains_eq_mem, decide_eq_false_iff_not]
    at hliteral
  obtain ⟨hquote, hfeed⟩ := hliteral
  refine ⟨?_, fun heq => hquote (heq ▸ hc)⟩
  rcases isControl_of_any_eq_false (Bool.eq_false_iff.mpr hcontrol) hc with hplain | htab | rfl
  · exact .inl hplain
  · exact .inr htab
  · exact absurd hc hfeed

theorem of_formOf_eq_literalLines (h : formOf cs = .literalLines) :
    (∀ c ∈ cs, isControl c = false ∨ c = '\t' ∨ c = '\n') ∧ hasThree '\x27' 0 cs = false := by
  simp only [formOf] at h
  split_ifs at h with hcontrol _ _ _ _ hthree
  rw [Bool.not_eq_true'] at hthree
  exact ⟨fun c hc => isControl_of_any_eq_false (Bool.eq_false_iff.mpr hcontrol) hc, hthree⟩

/-- In whichever form a text is written, it suits the form. -/
theorem exists_writes_quotedChars (cs : List Char) : ∃ q multiline body,
    quotedChars cs = enclose (delimiter q multiline) body ∧ Writes q multiline 0 cs body := by
  rw [quotedChars]
  cases hform : formOf cs with
  | basic => exact ⟨.basic, false, _, rfl, writes_escape cs⟩
  | basicLines => exact ⟨.basic, true, _, rfl, writes_escapeLines 0 cs⟩
  | literal =>
    exact ⟨.literal, false, _, rfl, writes_literal (of_formOf_eq_literal hform)⟩
  | literalLines =>
    obtain ⟨hcontrol, hthree⟩ := of_formOf_eq_literalLines hform
    exact ⟨.literal, true, _, rfl, writes_literalLines hcontrol hthree⟩

/-- A part of a document between two tokens is made of these tokens. -/
def LexesAs (cs : List Char) (made : List Token) : Prop :=
  ∀ tokens, lexFrom cs (tokens, .between) = some (made.reverse ++ tokens, .between)

theorem LexesAs.append {made others : List Token} (h : LexesAs first made)
    (hothers : LexesAs second others) : LexesAs (first ++ second) (made ++ others) := by
  intro tokens
  rw [lexFrom_append (h tokens), hothers, List.reverse_append, List.append_assoc]

theorem LexesAs.tokens?_eq {made : List Token} (h : LexesAs cs made) : tokens? cs = some made := by
  rw [tokens?, h]
  simp [lexEnd]

/-- However a text is written, it is read back at the end of a line. -/
theorem exists_lexesAs_quotedChars (cs : List Char) : ∃ multiline,
    LexesAs (quotedChars cs ++ ['\n']) [.quoted (String.ofList cs) multiline, .newline] := by
  obtain ⟨q, multiline, body, hquoted, hwrites⟩ := exists_writes_quotedChars cs
  exact ⟨multiline, fun tokens => hquoted ▸ lexFrom_enclose hwrites tokens []⟩

end DocSections.Toml
