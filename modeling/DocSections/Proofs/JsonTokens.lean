import DocSections.Proofs.CompactText

/-! Tokens of compact JSON texts. A quoted text is one token wherever it stands. A word or a numeral
is one where a comma, a closing mark, a blank or the end follows, since only then does the lexer
know that it has ended. Whole numbers of 64 bits are read back from their digits. -/

namespace DocSections

namespace Number

/-- Whether a whole number fits in 64 bits, with its sign or without one. -/
def FitsWord (n : Int) : Prop := -0x8000000000000000 ≤ n ∧ n < UInt64.size

theorem isDigit_of_mem_toDigits {n : Nat} {c : Char} (hc : c ∈ Nat.toDigits 10 n) :
    c.isDigit = true :=
  Nat.isDigit_of_mem_toDigits (by decide) (by decide) hc

theorem eq_zero_of_digitValue {c : Char} (h : c.isDigit = true) (hvalue : Text.digitValue c = 0) :
    c = '0' := by
  have hle : 48 ≤ c.toNat := by
    simp only [Char.isDigit, Bool.and_eq_true, decide_eq_true_eq, UInt32.le_iff_toNat_le] at h
    exact h.1
  rw [Text.digitValue, if_pos h] at hvalue
  have hcode : c.toNat = 48 := by omega
  rw [← Char.ofNat_toNat c, hcode]

def plainNumeral (negative : Bool) (n : Nat) : Numeral :=
  ⟨negative, (Nat.toDigits 10 n).map Text.digitValue, none, none⟩

theorem digits_toDigits (n : Nat) :
    digits (Nat.toDigits 10 n) = ((Nat.toDigits 10 n).map Text.digitValue, []) := by
  have hdigits : ∀ c ∈ Nat.toDigits 10 n, c.isDigit = true := fun c => isDigit_of_mem_toDigits
  rw [digits, ← List.append_nil (Nat.toDigits 10 n), List.takeWhile_append_of_pos hdigits,
    List.dropWhile_append_of_pos hdigits]
  simp

/-- Only a number of one digit is written with a zero in front. -/
theorem exists_toDigits_eq_cons {n : Nat} (h : 10 ≤ n) :
    ∃ c rest, Nat.toDigits 10 n = c :: rest ∧ c ≠ '0' := by
  induction n using Nat.strongRecOn with
  | ind n ih =>
    rw [Nat.toDigits_of_base_le (by decide) h]
    by_cases hsmall : n / 10 < 10
    · rw [Nat.toDigits_of_lt_base hsmall]
      refine ⟨_, _, rfl, fun hzero => ?_⟩
      rw [Nat.digitChar_eq_zero] at hzero
      omega
    · obtain ⟨c, rest, hdigits, hc⟩ := ih (n / 10) (by omega) (by omega)
      exact ⟨c, rest ++ _, by rw [hdigits, List.cons_append], hc⟩

/-- The digits of a number are a whole part that a numeral may have. -/
theorem not_leadingZero (n : Nat) : ¬ ((Nat.toDigits 10 n).map Text.digitValue = [] ∨
    ((Nat.toDigits 10 n).map Text.digitValue).head? = some 0 ∧
      ((Nat.toDigits 10 n).map Text.digitValue).length ≠ 1) := by
  rintro (hnone | ⟨hhead, hlength⟩)
  · exact Nat.toDigits_ne_nil (List.map_eq_nil_iff.mp hnone)
  · by_cases hsmall : n < 10
    · rw [Nat.toDigits_of_lt_base hsmall] at hlength
      exact hlength rfl
    · obtain ⟨c, rest, hdigits, hc⟩ := exists_toDigits_eq_cons (Nat.le_of_not_lt hsmall)
      have hdigit : c.isDigit = true := isDigit_of_mem_toDigits (hdigits ▸ List.mem_cons_self)
      rw [hdigits, List.map_cons, List.head?_cons, Option.some.injEq] at hhead
      exact hc (eq_zero_of_digitValue hdigit hhead)

theorem numeral?_toDigits (n : Nat) :
    numeral? (Nat.toDigits 10 n) = some (plainNumeral false n) := by
  have hunsigned : ∀ rest, Nat.toDigits 10 n = '-' :: rest → False := by
    intro rest hdigits
    have hdigit : '-'.isDigit = true := isDigit_of_mem_toDigits (hdigits ▸ List.mem_cons_self)
    cases hdigit
  rw [numeral?]
  · simp only [digits_toDigits, if_neg (not_leadingZero n)]
    rfl
  · exact hunsigned

theorem numeral?_sign_toDigits (n : Nat) :
    numeral? ('-' :: Nat.toDigits 10 n) = some (plainNumeral true n) := by
  rw [numeral?]
  simp only [digits_toDigits, if_neg (not_leadingZero n)]
  rfl

theorem le_foldl_digits (n : Nat) (ds : List Nat) : n ≤ ds.foldl (fun n d => n * 10 + d) n := by
  induction ds generalizing n with
  | nil => exact Nat.le_refl n
  | cons d ds ih =>
    have hle := ih (n * 10 + d)
    rw [List.foldl_cons]
    omega

/-- Digits are all absorbed if the number that they spell is below 2⁶⁴. -/
theorem absorb_of_lt {n : Nat} {ds : List Nat}
    (h : ds.foldl (fun n d => n * 10 + d) n < UInt64.size) :
    absorb n ds = (ds.foldl (fun n d => n * 10 + d) n, 0) := by
  induction ds generalizing n with
  | nil => rfl
  | cons d ds ih =>
    rw [List.foldl_cons] at h ⊢
    have hle := le_foldl_digits (n * 10 + d) ds
    rw [absorb, if_pos (Nat.lt_of_le_of_lt hle h), ih h]

theorem absorb_toDigits {n : Nat} (h : n < UInt64.size) :
    absorb 0 ((Nat.toDigits 10 n).map Text.digitValue) = (n, 0) := by
  have hvalue := Text.decimalOf_eq_ofDigitChars fun c hc => isDigit_of_mem_toDigits (n := n) hc
  rw [Nat.ofDigitChars_ten_toDigits, Text.decimalOf, Text.numberOf] at hvalue
  rw [absorb_of_lt (by rwa [hvalue]), hvalue]

theorem ofNumeral?_plain {n : Nat} (h : n < UInt64.size) :
    ofNumeral? (plainNumeral false n) = some (.int n) := by
  simp [ofNumeral?, plainNumeral, absorb_toDigits h]

theorem ofNumeral?_plain_negative {n : Nat} (hpos : 0 < n) (h : n ≤ 0x8000000000000000) :
    ofNumeral? (plainNumeral true n) = some (.int (-n)) := by
  have hsize : n < UInt64.size := Nat.lt_of_le_of_lt h (by decide)
  have hin : ¬ (n = 0 ∨ 0x8000000000000000 < n) := by omega
  simp only [ofNumeral?, plainNumeral, absorb_toDigits hsize, Option.isNone_none, beq_self_eq_true,
    Bool.and_self, if_true, if_neg hin]

end Number

namespace Source

theorem numeralToken?_written {n : Int} (h : Number.FitsWord n) :
    numeralToken? (Number.int n).written.toList = some (.value (num (.int n))) := by
  obtain ⟨hlow, hhigh⟩ := h
  rw [Number.written, Int.toString_eq_repr, Int.repr_eq_if, numeralToken?]
  split_ifs with hsign
  · have hsize : n.toNat < UInt64.size := by omega
    rw [Nat.toList_repr, Number.numeral?_toDigits, Option.map_some,
      Number.ofNumeral?_plain hsize, Option.elim_some, Int.toNat_of_nonneg hsign]
  · have hpos : 0 < (-n).toNat := by omega
    have hsize : (-n).toNat ≤ 0x8000000000000000 := by omega
    have hvalue : -((-n).toNat : Int) = n := by omega
    have hwritten : ("-" ++ (-n).toNat.repr).toList = '-' :: Nat.toDigits 10 (-n).toNat := by
      rw [String.toList_append, Nat.toList_repr]
      rfl
    rw [hwritten, Number.numeral?_sign_toDigits, Option.map_some,
      Number.ofNumeral?_plain_negative hpos hsize, Option.elim_some, hvalue]

def lexEnd : List Token × Lexing → Option (List Token)
  | (tokens, .between) => some tokens.reverse
  | (tokens, .word letters) => (wordToken? letters.reverse).map fun t => (t :: tokens).reverse
  | (tokens, .numeral chars) => (numeralToken? chars.reverse).map fun t => (t :: tokens).reverse
  | _ => none

def lexAll (cs : List Char) (s : List Token × Lexing) : Option (List Token) :=
  (cs.foldlM (fun s c => lexStep s.1 c s.2) s).bind lexEnd

theorem tokens?_eq (cs : List Char) : tokens? cs = lexAll cs ([], .between) := by
  rw [tokens?, lexAll]
  change Option.bind _ _ = _
  congr 1
  funext s
  obtain ⟨tokens, state⟩ := s
  cases state with
  | word letters =>
    simp only [lexEnd]
    cases wordToken? letters.reverse <;> rfl
  | numeral chars =>
    simp only [lexEnd]
    cases numeralToken? chars.reverse <;> rfl
  | _ => rfl

variable {tokens : List Token} {cs r : List Char} {c : Char} {state : Lexing}
  {s : List Token × Lexing}

theorem lexAll_cons (c : Char) (cs : List Char) (tokens : List Token) (state : Lexing) :
    lexAll (c :: cs) (tokens, state) = (lexStep tokens c state).bind (lexAll cs) := by
  rw [lexAll, List.foldlM_cons]
  cases lexStep tokens c state <;> rfl

theorem lexAll_cons_of_lexStep (h : lexStep tokens c state = some s) (cs : List Char) :
    lexAll (c :: cs) (tokens, state) = lexAll cs s := by
  rw [lexAll_cons, h]
  rfl

/-- The characters that may follow a value. -/
def isStop (c : Char) : Bool := c == ',' || c == ']' || c == '\x7d' || blank c

/-- What can follow a value in a text. -/
def Stops (r : List Char) : Prop := ∀ c ∈ r.head?, isStop c = true

theorem isStop_cases (h : isStop c = true) :
    c = ',' ∨ c = ']' ∨ c = '\x7d' ∨ c = ' ' ∨ c = '\n' ∨ c = '\t' ∨ c = '\r' := by
  simpa [isStop, blank, or_assoc] using h

/-- What is under way ends where a value may end, if it makes a token there and at the end. -/
theorem lexAll_ended {t : Token} (hend : lexEnd (tokens, state) = some (t :: tokens).reverse)
    (hstep : ∀ c, isStop c = true → lexStep tokens c state = lexStep (t :: tokens) c .between)
    (hr : Stops r) : lexAll r (tokens, state) = lexAll r (t :: tokens, .between) := by
  cases r with
  | nil => exact hend
  | cons c rest => rw [lexAll_cons, hstep c (hr c rfl), lexAll_cons]

theorem lexAll_word {letters : List Char} {t : Token} (h : wordToken? letters.reverse = some t)
    (hr : Stops r) : lexAll r (tokens, .word letters) = lexAll r (t :: tokens, .between) := by
  refine lexAll_ended (by simp [lexEnd, h]) (fun c hc => ?_) hr
  have hletter : c.isLower = false := by
    rcases isStop_cases hc with rfl | rfl | rfl | rfl | rfl | rfl | rfl <;> rfl
  rw [lexStep, lexStep, hletter, h]
  rfl

theorem lexAll_numeral {chars : List Char} {t : Token} (h : numeralToken? chars.reverse = some t)
    (hr : Stops r) : lexAll r (tokens, .numeral chars) = lexAll r (t :: tokens, .between) := by
  refine lexAll_ended (by simp [lexEnd, h]) (fun c hc => ?_) hr
  have hnumeral : (c.isDigit || "+-.eE".toList.contains c) = false := by
    rcases isStop_cases hc with rfl | rfl | rfl | rfl | rfl | rfl | rfl <;> rfl
  rw [lexStep, lexStep, hnumeral, h]
  rfl

theorem lexAll_numeral_append (hcs : ∀ c ∈ cs, isNumeralChar c = true) (chars : List Char) :
    lexAll (cs ++ r) (tokens, .numeral chars) =
      lexAll r (tokens, .numeral (cs.reverse ++ chars)) := by
  induction cs generalizing chars with
  | nil => rfl
  | cons c cs ih =>
    obtain ⟨hc, hcs⟩ := List.forall_mem_cons.mp hcs
    have hstep : lexStep tokens c (.numeral chars) = some (tokens, .numeral (c :: chars)) := by
      have hin : (c.isDigit || "+-.eE".toList.contains c) = true := by
        simp only [isNumeralChar, Bool.or_eq_true, beq_iff_eq] at hc
        rcases hc with (((hdigit | rfl) | rfl) | rfl) | rfl
        · rw [hdigit, Bool.true_or]
        all_goals rfl
      rw [lexStep, hin]
      rfl
    rw [List.cons_append, lexAll_cons_of_lexStep hstep, ih hcs]
    simp

/-- How a character of a quoted text is read: most control characters are written by number. -/
def pieceOf (c : Char) : Piece :=
  if 0x20 ≤ c.toNat ∨ c.toNat ∈ [0x08, 0x09, 0x0A, 0x0C, 0x0D] then .char c else .unit c.toNat

/-- A unit below the surrogates is a character by itself, whatever follows. -/
theorem spell_unit {n : Nat} (h : n < 0xD800) (pieces : List Piece) :
    spell (.unit n :: pieces) = (spell pieces).map (Char.ofNat n :: ·) := by
  have hhigh : ¬ (0xD800 ≤ n ∧ n < 0xDC00) := by omega
  have hlow : ¬ (0xDC00 ≤ n ∧ n < 0xE000) := by omega
  have half : ¬ (0xD800 ≤ n ∧ n < 0xE000) := by omega
  cases pieces with
  | nil => simp [spell, half]
  | cons piece rest =>
    cases piece with
    | char c => simp [spell, half]
    | unit m => rw [spell, if_neg hhigh, if_neg hlow]

theorem spell_map_pieceOf (cs : List Char) : spell (cs.map pieceOf) = some cs := by
  induction cs with
  | nil => rfl
  | cons c cs ih =>
    rw [List.map_cons, pieceOf]
    split_ifs with hc
    · rw [spell, ih, Option.map_some]
    · have hsmall : c.toNat < 0xD800 := by omega
      rw [spell_unit hsmall, ih, Option.map_some, Char.ofNat_toNat]

theorem lexAll_escape (c : Char) (pieces : List Piece) :
    lexAll (Json.escape c ++ r) (tokens, .text pieces) =
      lexAll r (tokens, .text (pieceOf c :: pieces)) := by
  by_cases hc : 0x20 ≤ c.toNat
  · have hpiece : pieceOf c = .char c := if_pos (.inl hc)
    rw [Json.escape, hpiece]
    split_ifs with hquote hbackslash
    · rw [hquote]
      rfl
    · rw [hbackslash]
      rfl
    · refine lexAll_cons_of_lexStep ?_ r
      rw [lexStep, if_neg hquote, if_neg hbackslash, if_neg (by omega)]
  · have control : ∀ n < 0x20, lexAll (Json.escape (Char.ofNat n) ++ r) (tokens, .text pieces) =
        lexAll r (tokens, .text (pieceOf (Char.ofNat n) :: pieces)) := by
      intro n hn
      interval_cases n <;> rfl
    rw [← Char.ofNat_toNat c]
    exact control _ (by omega)

theorem lexAll_escapes (cs : List Char) (pieces : List Piece) :
    lexAll (cs.flatMap Json.escape ++ r) (tokens, .text pieces) =
      lexAll r (tokens, .text ((cs.map pieceOf).reverse ++ pieces)) := by
  induction cs generalizing pieces with
  | nil => rfl
  | cons c cs ih =>
    rw [List.flatMap_cons, List.append_assoc, lexAll_escape, ih, List.map_cons, List.reverse_cons,
      List.append_assoc, List.singleton_append]

/-- A quoted text is one token, whatever characters it has in it and whatever follows. -/
theorem lexAll_quoted (t : String) (tokens : List Token) (r : List Char) :
    lexAll ((Json.quoted t).toList ++ r) (tokens, .between) =
      lexAll r (.text (some t) :: tokens, .between) := by
  have hopen : lexStep tokens '"' .between = some (tokens, .text []) := rfl
  have hclose : lexStep tokens '"' (.text ((t.toList.map pieceOf).reverse ++ [])) =
      some (.text (some t) :: tokens, .between) := by
    rw [lexStep, if_pos rfl, List.append_nil, List.reverse_reverse, spell_map_pieceOf,
      Option.map_some, String.ofList_toList]
  rw [Json.toList_quoted, List.cons_append, lexAll_cons_of_lexStep hopen, List.append_assoc,
    lexAll_escapes, List.singleton_append, lexAll_cons_of_lexStep hclose]

/-- Whether a text that stands before a stop is made of the given tokens. -/
def LexesAs (text : List Char) (made : List Token) : Prop :=
  ∀ r tokens, Stops r →
    lexAll (text ++ r) (tokens, .between) = lexAll r (made.reverse ++ tokens, .between)

theorem lexesAs_quoted (t : String) : LexesAs (Json.quoted t).toList [.text (some t)] :=
  fun r tokens _ => lexAll_quoted t tokens r

theorem lexesAs_word {letters : List Char} {t : Token} (ht : wordToken? letters = some t)
    (h : ∀ r tokens, lexAll (letters ++ r) (tokens, .between) =
      lexAll r (tokens, .word letters.reverse)) : LexesAs letters [t] := by
  intro r tokens hr
  rw [h]
  exact lexAll_word (by rw [List.reverse_reverse, ht]) hr

theorem lexesAs_null : LexesAs "null".toList [.value null] :=
  lexesAs_word rfl fun _ _ => rfl

theorem lexesAs_bool (b : Bool) : LexesAs (Json.bool b).compact.toList [.value (bool b)] := by
  cases b with
  | false => exact lexesAs_word rfl fun _ _ => rfl
  | true => exact lexesAs_word rfl fun _ _ => rfl

theorem startToken_numeral (h : c = '-' ∨ c.isDigit = true) :
    startToken tokens c = some (tokens, .numeral [c]) := by
  rcases h with rfl | hdigit
  · rfl
  · have hne : ∀ d : Char, d.isDigit = false → c ≠ d := by
      rintro d hd rfl
      rw [hd] at hdigit
      cases hdigit
    simp [startToken, blank, hne ' ' rfl, hne '\n' rfl, hne '\t' rfl, hne '\r' rfl, hne '"' rfl,
      hne '\x7b' rfl, hne '\x7d' rfl, hne '[' rfl, hne ']' rfl, hne ':' rfl, hne ',' rfl, hdigit]

theorem head?_written {n : Int} (h : (Number.int n).written.toList = c :: cs) :
    c = '-' ∨ c.isDigit = true := by
  rw [Number.written, Int.toString_eq_repr, Int.repr_eq_if] at h
  split_ifs at h
  · rw [Nat.toList_repr] at h
    exact .inr (Number.isDigit_of_mem_toDigits (h ▸ List.mem_cons_self))
  · rw [String.toList_append] at h
    exact .inl (List.cons.inj h).1.symm

theorem lexesAs_number {n : Int} (h : Number.FitsWord n) :
    LexesAs (Number.int n).written.toList [.value (num (.int n))] := by
  intro r tokens hr
  obtain ⟨c, cs, hwritten⟩ := List.exists_cons_of_ne_nil (Number.int n).written_ne_nil
  have hread := numeralToken?_written h
  have hcs : ∀ d ∈ c :: cs, isNumeralChar d = true := hwritten ▸ IsNumeral.written (.int n)
  have hstart : lexStep tokens c .between = some (tokens, .numeral [c]) :=
    startToken_numeral (head?_written hwritten)
  rw [hwritten] at hread ⊢
  rw [List.cons_append, lexAll_cons_of_lexStep hstart,
    lexAll_numeral_append fun d hd => hcs d (List.mem_cons_of_mem _ hd)]
  refine lexAll_numeral ?_ hr
  simpa using hread

end Source

end DocSections
