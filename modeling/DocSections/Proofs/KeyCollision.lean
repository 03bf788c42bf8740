import DocSections.Proofs.DataKey
import Mathlib.Data.List.Basic

/-! Which names have the same data key. In the key of an ASCII name each word after the first begins
with a capital, except a word that begins with a digit, which nothing marks off from the word before
it. So the key tells the words of a name up to case and such joins, and nothing else of it. -/

namespace DocSections

namespace Text

variable {c : Char} {cs : List Char}

/-- What was checked for each number below 128 holds of every character of ASCII. -/
theorem of_ascii {P : Char → Prop} (hall : ∀ n < 128, P (Char.ofNat n)) (h : c.toNat < 128) :
    P c := by
  have hc := hall c.toNat h
  rwa [Char.ofNat_toNat] at hc

theorem lowerChar_of_lt (h : c.toNat < 128) : lowerChar c = [c.toLower] :=
  of_ascii (P := fun c => lowerChar c = [c.toLower]) lowerChar_ascii h

theorem upperChar_of_lt (h : c.toNat < 128) : upperChar c = [c.toUpper] :=
  of_ascii (P := fun c => upperChar c = [c.toUpper]) upperChar_ascii h

theorem isAlphanumeric_of_lt (h : c.toNat < 128) : isAlphanumeric c = c.isAlphanum :=
  of_ascii (P := fun c => isAlphanumeric c = c.isAlphanum) isAlphanumeric_ascii h

/-- What letters, digits and case have to do with each other in ASCII. -/
structure CaseLaws (c : Char) : Prop where
  isAlpha_of_isDigit : c.isDigit = true → c.isAlpha = false
  toUpper_eq_toLower : c.isAlpha = false → c.toUpper = c.toLower
  isUpper_toUpper : c.isAlpha = true → c.toUpper.isUpper = true
  isUpper_toLower : c.toLower.isUpper = false
  toUpper_toLower : c.toLower.toUpper = c.toUpper
  toLower_toUpper : c.toUpper.toLower = c.toLower

instance (c : Char) : Decidable (CaseLaws c) :=
  decidable_of_iff ((c.isDigit = true → c.isAlpha = false) ∧
    (c.isAlpha = false → c.toUpper = c.toLower) ∧ (c.isAlpha = true → c.toUpper.isUpper = true) ∧
    c.toLower.isUpper = false ∧ c.toLower.toUpper = c.toUpper ∧ c.toUpper.toLower = c.toLower)
    ⟨fun ⟨hdigit, hother, hletter, hlower, hup, hdown⟩ =>
        ⟨hdigit, hother, hletter, hlower, hup, hdown⟩,
      fun h => ⟨h.1, h.2, h.3, h.4, h.5, h.6⟩⟩

theorem caseLaws_ascii : ∀ n < 128, CaseLaws (Char.ofNat n) := by
  decide +kernel

theorem caseLaws_of_lt (h : c.toNat < 128) : CaseLaws c :=
  of_ascii caseLaws_ascii h

def IsAscii (cs : List Char) : Prop := ∀ c ∈ cs, c.toNat < 128

instance : Decidable (IsAscii cs) := List.decidableBAll _ cs

/-- There is no sigma in ASCII, so what stands before a character does not matter. -/
theorem IsAscii.lowerAfter_eq (h : IsAscii cs) (before : List Char) :
    lowerAfter before cs = cs.map Char.toLower := by
  induction cs generalizing before with
  | nil => rfl
  | cons c rest ih =>
    obtain ⟨hc, hrest⟩ := List.forall_mem_cons.mp h
    have hsigma : c ≠ 'Σ' := by
      rintro rfl
      exact absurd hc (by decide)
    rw [lowerAfter, if_neg hsigma, lowerChar_of_lt hc, ih hrest, List.singleton_append,
      List.map_cons]

theorem flatten_closeRun (run : List Char) (runs : List (List Char)) :
    (closeRun run runs).flatten = run ++ runs.flatten := by
  rw [closeRun]
  split
  · rename_i hrun
    rw [hrun, List.nil_append]
  · rw [List.flatten_cons]

theorem flatten_openRuns (p : Char → Bool) (cs : List Char) :
    (openRuns p cs).1 ++ (openRuns p cs).2.flatten = cs.filter p := by
  induction cs with
  | nil => rfl
  | cons c rest ih =>
    cases hc : p c with
    | true => simp [openRuns, hc, ih]
    | false => simp [openRuns, hc, flatten_closeRun, ih]

theorem flatten_runs (p : Char → Bool) (cs : List Char) : (runs p cs).flatten = cs.filter p := by
  rw [runs, flatten_closeRun, flatten_openRuns]

theorem mem_of_mem_runs {p : Char → Bool} {w : List Char} (hw : w ∈ runs p cs) (hc : c ∈ w) :
    c ∈ cs := by
  have hmem := List.mem_flatten_of_mem hw hc
  rw [flatten_runs] at hmem
  exact List.mem_of_mem_filter hmem

end Text

namespace Naming

def foldCase (w : List Char) : List Char := w.map Char.toLower

@[simp] theorem foldCase_cons (c : Char) (w : List Char) :
    foldCase (c :: w) = c.toLower :: foldCase w := rfl

@[simp] theorem foldCase_append (v w : List Char) :
    foldCase (v ++ w) = foldCase v ++ foldCase w :=
  List.map_append

structure AsciiWord (w : List Char) : Prop where
  ne_nil : w ≠ []
  ascii : Text.IsAscii w
  alphanumeric : ∀ c ∈ w, c.isAlphanum = true

def beginsWithDigit (w : List Char) : Bool := w.head?.any Char.isDigit

section

variable {c : Char} {v w : List Char}

theorem AsciiWord.append (hv : AsciiWord v) (hw : AsciiWord w) : AsciiWord (v ++ w) where
  ne_nil := by simp [hv.ne_nil]
  ascii c hc := (List.mem_append.mp hc).elim (hv.ascii c) (hw.ascii c)
  alphanumeric c hc := (List.mem_append.mp hc).elim (hv.alphanumeric c) (hw.alphanumeric c)

theorem AsciiWord.lower_eq (h : AsciiWord w) : Text.lower w = foldCase w :=
  h.ascii.lowerAfter_eq []

theorem AsciiWord.caseLaws (h : AsciiWord (c :: w)) : Text.CaseLaws c :=
  Text.caseLaws_of_lt (h.ascii c List.mem_cons_self)

theorem AsciiWord.capitalize_cons (h : AsciiWord (c :: w)) :
    capitalize (c :: w) = c.toUpper :: foldCase w := by
  obtain ⟨hc, hw⟩ := List.forall_mem_cons.mp h.ascii
  have hlower : Text.lower w = foldCase w := Text.IsAscii.lowerAfter_eq hw []
  rw [capitalize, Text.upperChar_of_lt hc, hlower, List.singleton_append]

theorem AsciiWord.capitalize_append (hv : AsciiWord v) (hw : AsciiWord w) :
    capitalize (v ++ w) = capitalize v ++ foldCase w := by
  obtain ⟨c, rest, rfl⟩ := List.exists_cons_of_ne_nil hv.ne_nil
  have happend := hv.append hw
  rw [List.cons_append] at happend ⊢
  rw [happend.capitalize_cons, hv.capitalize_cons, foldCase_append, List.cons_append]

theorem AsciiWord.capitalize_of_digit (h : AsciiWord w) (hdigit : beginsWithDigit w = true) :
    capitalize w = foldCase w := by
  obtain ⟨c, rest, rfl⟩ := List.exists_cons_of_ne_nil h.ne_nil
  have hlaws := h.caseLaws
  have hc : c.isAlpha = false := hlaws.isAlpha_of_isDigit hdigit
  rw [h.capitalize_cons, foldCase_cons, hlaws.toUpper_eq_toLower hc]

/-- The case of a word does not matter to its capitalized form. -/
theorem AsciiWord.capitalize_eq (h : AsciiWord w) :
    capitalize w = (foldCase w).modifyHead Char.toUpper := by
  obtain ⟨c, rest, rfl⟩ := List.exists_cons_of_ne_nil h.ne_nil
  rw [h.capitalize_cons, foldCase_cons, List.modifyHead_cons, h.caseLaws.toUpper_toLower]

theorem AsciiWord.isUpper_head (h : AsciiWord (c :: w))
    (hletter : beginsWithDigit (c :: w) = false) : c.toUpper.isUpper = true := by
  have hc := h.alphanumeric c List.mem_cons_self
  have hdigit : c.isDigit = false := hletter
  rw [Char.isAlphanum, hdigit, Bool.or_false] at hc
  exact h.caseLaws.isUpper_toUpper hc

end

/-! Joining words -/

/-- Puts a word before others, as one with the first of them if that begins with a digit. -/
def attach (w : List Char) : List (List Char) → List (List Char)
  | [] => [w]
  | v :: rest => if beginsWithDigit v then (w ++ v) :: rest else w :: v :: rest

/-- Joins each word that begins with a digit, other than the first, onto the word before it. -/
def joinDigits : List (List Char) → List (List Char)
  | [] => []
  | w :: rest => attach w (joinDigits rest)

/-- The words of a name, those that begin with a digit joined onto the words before them. -/
def joinedWords (name : String) : List (List Char) := joinDigits (nameWords name)

section

variable {w : List Char} {ws : List (List Char)}

theorem attach_cases (w : List Char) (ws : List (List Char)) :
    (attach w ws = w :: ws ∧ ∀ v ∈ ws.head?, beginsWithDigit v = false) ∨
      ∃ v rest, ws = v :: rest ∧ beginsWithDigit v = true ∧ attach w ws = (w ++ v) :: rest := by
  cases ws with
  | nil => exact .inl ⟨rfl, nofun⟩
  | cons v rest =>
    cases hv : beginsWithDigit v with
    | true => exact .inr ⟨v, rest, rfl, hv, by simp [attach, hv]⟩
    | false => exact .inl ⟨by simp [attach, hv], by simpa using hv⟩

theorem asciiWord_of_mem_attach (hw : AsciiWord w) (hws : ∀ v ∈ ws, AsciiWord v) :
    ∀ v ∈ attach w ws, AsciiWord v := by
  rcases attach_cases w ws with ⟨hapart, -⟩ | ⟨v, rest, rfl, -, hjoined⟩
  · rw [hapart]
    exact List.forall_mem_cons.mpr ⟨hw, hws⟩
  · obtain ⟨hv, hrest⟩ := List.forall_mem_cons.mp hws
    rw [hjoined]
    exact List.forall_mem_cons.mpr ⟨hw.append hv, hrest⟩

theorem asciiWord_of_mem_joinDigits (h : ∀ w ∈ ws, AsciiWord w) :
    ∀ w ∈ joinDigits ws, AsciiWord w := by
  induction ws with
  | nil => exact h
  | cons w rest ih =>
    obtain ⟨hw, hrest⟩ := List.forall_mem_cons.mp h
    exact asciiWord_of_mem_attach hw (ih hrest)

/-- After the first, no word begins with a digit if the others were joined already. -/
theorem beginsWithDigit_of_mem_tail_attach (h : ∀ v ∈ ws.tail, beginsWithDigit v = false) :
    ∀ v ∈ (attach w ws).tail, beginsWithDigit v = false := by
  rcases attach_cases w ws with ⟨hapart, hhead⟩ | ⟨v, rest, rfl, -, hjoined⟩
  · rw [hapart, List.tail_cons]
    cases ws with
    | nil => exact nofun
    | cons v rest => exact List.forall_mem_cons.mpr ⟨hhead v rfl, h⟩
  · rw [hjoined]
    exact h

theorem beginsWithDigit_of_mem_tail_joinDigits (ws : List (List Char)) :
    ∀ w ∈ (joinDigits ws).tail, beginsWithDigit w = false := by
  induction ws with
  | nil => simp [joinDigits]
  | cons w rest ih => exact beginsWithDigit_of_mem_tail_attach ih

theorem flatMap_capitalize_attach (hw : AsciiWord w) (hws : ∀ v ∈ ws, AsciiWord v) :
    (attach w ws).flatMap capitalize = capitalize w ++ ws.flatMap capitalize := by
  rcases attach_cases w ws with ⟨hapart, -⟩ | ⟨v, rest, rfl, hdigit, hjoined⟩
  · rw [hapart, List.flatMap_cons]
  · have hv := hws v List.mem_cons_self
    rw [hjoined, List.flatMap_cons, List.flatMap_cons, hw.capitalize_append hv,
      hv.capitalize_of_digit hdigit, List.append_assoc]

theorem flatMap_capitalize_joinDigits (h : ∀ w ∈ ws, AsciiWord w) :
    (joinDigits ws).flatMap capitalize = ws.flatMap capitalize := by
  induction ws with
  | nil => rfl
  | cons w rest ih =>
    obtain ⟨hw, hrest⟩ := List.forall_mem_cons.mp h
    rw [joinDigits, flatMap_capitalize_attach hw (asciiWord_of_mem_joinDigits hrest), ih hrest,
      List.flatMap_cons]

theorem joinWords_attach (hw : AsciiWord w) (hws : ∀ v ∈ ws, AsciiWord v) :
    joinWords (attach w ws) = foldCase w ++ ws.flatMap capitalize := by
  rcases attach_cases w ws with ⟨hapart, -⟩ | ⟨v, rest, rfl, hdigit, hjoined⟩
  · rw [hapart, joinWords, hw.lower_eq]
  · have hv := hws v List.mem_cons_self
    rw [hjoined, joinWords, (hw.append hv).lower_eq, foldCase_append, List.flatMap_cons,
      hv.capitalize_of_digit hdigit, List.append_assoc]

/-- The key does not tell whether words were joined. -/
theorem joinWords_joinDigits (h : ∀ w ∈ ws, AsciiWord w) :
    joinWords (joinDigits ws) = joinWords ws := by
  cases ws with
  | nil => rfl
  | cons w rest =>
    obtain ⟨hw, hrest⟩ := List.forall_mem_cons.mp h
    rw [joinDigits, joinWords_attach hw (asciiWord_of_mem_joinDigits hrest),
      flatMap_capitalize_joinDigits hrest, joinWords, hw.lower_eq]

theorem joinWords_cons_eq (h : ∀ v ∈ w :: ws, AsciiWord v) : joinWords (w :: ws) =
    foldCase w ++ (ws.map foldCase).flatMap (List.modifyHead Char.toUpper) := by
  obtain ⟨hw, hws⟩ := List.forall_mem_cons.mp h
  rw [joinWords, hw.lower_eq, List.flatMap_map]
  exact congrArg _ (List.flatMap_congr fun v hv => (hws v hv).capitalize_eq)

/-- The key does not tell the case of the words. -/
theorem joinWords_congr {vs : List (List Char)} (hvs : ∀ v ∈ vs, AsciiWord v)
    (hws : ∀ w ∈ ws, AsciiWord w) (h : vs.map foldCase = ws.map foldCase) :
    joinWords vs = joinWords ws := by
  cases vs with
  | nil => rw [List.map_eq_nil_iff.mp h.symm]
  | cons v vs =>
    obtain ⟨w, rest, rfl, hw, hrest⟩ := List.map_eq_cons_iff.mp h.symm
    rw [joinWords_cons_eq hvs, joinWords_cons_eq hws, hw, hrest]

end

/-! Reading the words back -/

/-- What stands before the first capital, and the pieces that the capitals begin, in lower case. -/
def cutAtCapitals : List Char → List Char × List (List Char)
  | [] => ([], [])
  | c :: rest =>
    let r := cutAtCapitals rest
    if c.isUpper then ([], (c.toLower :: r.1) :: r.2) else (c :: r.1, r.2)

/-- The words that a key tells, in lower case. -/
def keyWords (key : List Char) : List (List Char) :=
  let r := cutAtCapitals key
  Text.closeRun r.1 r.2

theorem cutAtCapitals_foldCase_append {w : List Char} (h : Text.IsAscii w) (cs : List Char) :
    cutAtCapitals (foldCase w ++ cs) =
      (foldCase w ++ (cutAtCapitals cs).1, (cutAtCapitals cs).2) := by
  induction w with
  | nil => rfl
  | cons c w ih =>
    obtain ⟨hc, hw⟩ := List.forall_mem_cons.mp h
    simp [cutAtCapitals, ih hw, (Text.caseLaws_of_lt hc).isUpper_toLower]

theorem cutAtCapitals_capitalize_append {w : List Char} (h : AsciiWord w)
    (hletter : beginsWithDigit w = false) (cs : List Char) :
    cutAtCapitals (capitalize w ++ cs) =
      ([], (foldCase w ++ (cutAtCapitals cs).1) :: (cutAtCapitals cs).2) := by
  obtain ⟨c, rest, rfl⟩ := List.exists_cons_of_ne_nil h.ne_nil
  have hrest : Text.IsAscii rest := (List.forall_mem_cons.mp h.ascii).2
  rw [h.capitalize_cons, List.cons_append, cutAtCapitals, cutAtCapitals_foldCase_append hrest]
  simp [h.isUpper_head hletter, h.caseLaws.toLower_toUpper]

theorem cutAtCapitals_flatMap_capitalize {ws : List (List Char)} (h : ∀ w ∈ ws, AsciiWord w)
    (hletter : ∀ w ∈ ws, beginsWithDigit w = false) :
    cutAtCapitals (ws.flatMap capitalize) = ([], ws.map foldCase) := by
  induction ws with
  | nil => rfl
  | cons w rest ih =>
    obtain ⟨hw, hrest⟩ := List.forall_mem_cons.mp h
    obtain ⟨hwletter, hrestletter⟩ := List.forall_mem_cons.mp hletter
    rw [List.flatMap_cons, cutAtCapitals_capitalize_append hw hwletter, ih hrest hrestletter,
      List.append_nil, List.map_cons]

/-- Words of which none but the first begins with a digit are read back from their key. -/
theorem keyWords_joinWords {ws : List (List Char)} (h : ∀ w ∈ ws, AsciiWord w)
    (hletter : ∀ w ∈ ws.tail, beginsWithDigit w = false) :
    keyWords (joinWords ws) = ws.map foldCase := by
  cases ws with
  | nil => rfl
  | cons w rest =>
    obtain ⟨hw, hrest⟩ := List.forall_mem_cons.mp h
    have hne : foldCase w ≠ [] := fun hnil => hw.ne_nil (List.map_eq_nil_iff.mp hnil)
    rw [keyWords, joinWords, hw.lower_eq, cutAtCapitals_foldCase_append hw.ascii,
      cutAtCapitals_flatMap_capitalize hrest hletter, List.append_nil, Text.closeRun, if_neg hne,
      List.map_cons]

theorem asciiWord_of_mem_nameWords {name : String} (h : Text.IsAscii name.toList) :
    ∀ w ∈ nameWords name, AsciiWord w := by
  intro w hw
  obtain ⟨hne, halphanumeric⟩ := Text.mem_runs hw
  have hascii : Text.IsAscii w := fun c hc => h c (Text.mem_of_mem_runs hw hc)
  refine ⟨hne, hascii, fun c hc => ?_⟩
  rw [← Text.isAlphanumeric_of_lt (hascii c hc)]
  exact halphanumeric c hc

/-- The data key of an ASCII name tells its joined words, and no more than those. -/
theorem keyWords_camelCase {name : String} (h : Text.IsAscii name.toList) :
    keyWords (camelCase name).toList = (joinedWords name).map foldCase := by
  have hwords := asciiWord_of_mem_nameWords h
  rw [camelCase, String.toList_ofList, ← joinWords_joinDigits hwords]
  exact keyWords_joinWords (asciiWord_of_mem_joinDigits hwords)
    (beginsWithDigit_of_mem_tail_joinDigits _)

/-- Two ASCII names have one data key exactly if, ignoring case, they have the same words once each
word that begins with a digit is joined onto the one before it. -/
theorem camelCase_eq_iff {a b : String} (ha : Text.IsAscii a.toList) (hb : Text.IsAscii b.toList) :
    camelCase a = camelCase b ↔ (joinedWords a).map foldCase = (joinedWords b).map foldCase := by
  constructor
  · intro h
    rw [← keyWords_camelCase ha, h, keyWords_camelCase hb]
  · intro h
    have hawords := asciiWord_of_mem_nameWords ha
    have hbwords := asciiWord_of_mem_nameWords hb
    rw [camelCase, camelCase, ← joinWords_joinDigits hawords, ← joinWords_joinDigits hbwords,
      joinWords_congr (asciiWord_of_mem_joinDigits hawords) (asciiWord_of_mem_joinDigits hbwords) h]

/-- `Plan 2b` has the key of `plan2B`, and not that of `Plan B 2`. -/
theorem plan_keys :
    camelCase "Plan 2b" = camelCase "plan2B" ∧ camelCase "Plan 2b" ≠ camelCase "Plan B 2" := by
  have hascii : Text.IsAscii "Plan 2b".toList := by decide +kernel
  constructor
  · exact (camelCase_eq_iff hascii (by decide +kernel)).mpr (by decide +kernel)
  · intro h
    have hwords := (camelCase_eq_iff hascii (by decide +kernel)).mp h
    exact absurd hwords (by decide +kernel)

end Naming

end DocSections
