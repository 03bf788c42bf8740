import DocSections.Json.Numeral
import DocSections.Json.Source

/-! Reading JSON texts: characters are gathered into tokens, and tokens are put together on a stack
of the arrays and objects that are still open. -/

namespace DocSections

namespace Source

/-- A part of a string as written: a character, or a UTF-16 unit given by its number. -/
inductive Piece where
  | char (c : Char)
  | unit (n : Nat)

/-- The text that the pieces spell; `none` if half of a surrogate pair stands alone. -/
def spell : List Piece → Option (List Char)
  | [] => some []
  | .char c :: rest => (spell rest).map (c :: ·)
  | .unit high :: .unit low :: rest =>
    if 0xD800 ≤ high ∧ high < 0xDC00 then
      if 0xDC00 ≤ low ∧ low < 0xE000 then
        (spell rest).map (Char.ofNat (0x10000 + (high - 0xD800) * 0x400 + (low - 0xDC00)) :: ·)
      else none
    else if 0xDC00 ≤ high ∧ high < 0xE000 then none
    else (spell (.unit low :: rest)).map (Char.ofNat high :: ·)
  | .unit n :: rest =>
    if 0xD800 ≤ n ∧ n < 0xE000 then none else (spell rest).map (Char.ofNat n :: ·)

inductive Token where
  | mark (c : Char)
  | text (spelled : Option String)
  | value (v : Source)

inductive Lexing where
  | between
  | word (letters : List Char)
  | numeral (chars : List Char)
  | text (pieces : List Piece)
  | escape (pieces : List Piece)
  | unit (pieces : List Piece) (digits : List Nat)

def blank (c : Char) : Bool := c == ' ' || c == '\n' || c == '\t' || c == '\r'

def unescape? (c : Char) : Option Char :=
  [('"', '"'), ('\\', '\\'), ('/', '/'), ('b', Char.ofNat 8), ('f', Char.ofNat 12), ('n', '\n'),
    ('r', '\r'), ('t', '\t')].lookup c

def wordToken? (letters : List Char) : Option Token :=
  if letters = "null".toList then some (.value null)
  else if letters = "true".toList then some (.value (bool true))
  else if letters = "false".toList then some (.value (bool false))
  else none

def numeralToken? (chars : List Char) : Option Token :=
  (Number.numeral? chars).map fun n => .value ((Number.ofNumeral? n).elim unreadable num)

def startToken (tokens : List Token) (c : Char) : Option (List Token × Lexing) :=
  if blank c then some (tokens, .between)
  else if "\x7b\x7d[]:,".toList.contains c then some (.mark c :: tokens, .between)
  else if c = '"' then some (tokens, .text [])
  else if c = '-' || c.isDigit then some (tokens, .numeral [c])
  else if c.isLower then some (tokens, .word [c])
  else none

def lexStep (tokens : List Token) (c : Char) : Lexing → Option (List Token × Lexing)
  | .between => startToken tokens c
  | .word letters =>
    if c.isLower then some (tokens, .word (c :: letters))
    else do startToken ((← wordToken? letters.reverse) :: tokens) c
  | .numeral chars =>
    if c.isDigit || "+-.eE".toList.contains c then some (tokens, .numeral (c :: chars))
    else do startToken ((← numeralToken? chars.reverse) :: tokens) c
  | .text pieces =>
    if c = '"' then some (.text ((spell pieces.reverse).map String.ofList) :: tokens, .between)
    else if c = '\\' then some (tokens, .escape pieces)
    else if c.toNat < 0x20 then none
    else some (tokens, .text (.char c :: pieces))
  | .escape pieces =>
    if c = 'u' then some (tokens, .unit pieces [])
    else (unescape? c).map fun d => (tokens, .text (.char d :: pieces))
  | .unit pieces digits => do
    let digits := (← Text.hexValue? c) :: digits
    if digits.length = 4 then
      some (tokens, .text (.unit (Text.numberOf 16 digits.reverse) :: pieces))
    else some (tokens, .unit pieces digits)

def tokens? (cs : List Char) : Option (List Token) := do
  let (tokens, state) ← cs.foldlM (fun s c => lexStep s.1 c s.2) ([], Lexing.between)
  match state with
  | .between => some tokens.reverse
  | .word letters => some (((← wordToken? letters.reverse) :: tokens).reverse)
  | .numeral chars => some (((← numeralToken? chars.reverse) :: tokens).reverse)
  | _ => none

/-- An array or object that is still open, with what it holds so far in reverse order. -/
inductive Frame where
  | array (items : List Source)
  | object (members : List (Option String × Source))
  | member (members : List (Option String × Source)) (key : Option String)

inductive Place where
  | value
  | valueOrEnd
  | keyOrEnd
  | key
  | colon
  | afterValue
deriving DecidableEq

structure Reading where
  frames : List Frame
  place : Place
  result : Option Source

def nestingLimit : Nat := 127

def Reading.put (v : Source) : List Frame → Reading
  | [] => ⟨[], .afterValue, some v⟩
  | .array items :: rest => ⟨.array (v :: items) :: rest, .afterValue, none⟩
  | .member members key :: rest => ⟨.object ((key, v) :: members) :: rest, .afterValue, none⟩
  | .object members :: rest => ⟨.object members :: rest, .afterValue, none⟩

/-- Closes the innermost open array or object, above which `rest` is open. -/
def Reading.close (v : Source) (rest : List Frame) : Reading :=
  .put (if nestingLimit ≤ rest.length then unreadable else v) rest

def Reading.takesValue (r : Reading) : Bool := r.place == .value || r.place == .valueOrEnd

def Reading.mark (r : Reading) (c : Char) : Option Reading :=
  if c = '[' then
    if r.takesValue then some ⟨.array [] :: r.frames, .valueOrEnd, none⟩ else none
  else if c.toNat = 0x7B then
    if r.takesValue then some ⟨.object [] :: r.frames, .keyOrEnd, none⟩ else none
  else if c = ']' then
    match r.place, r.frames with
    | .valueOrEnd, .array items :: rest => some (.close (arr items.reverse) rest)
    | .afterValue, .array items :: rest => some (.close (arr items.reverse) rest)
    | _, _ => none
  else if c.toNat = 0x7D then
    match r.place, r.frames with
    | .keyOrEnd, .object members :: rest => some (.close (obj members.reverse) rest)
    | .afterValue, .object members :: rest => some (.close (obj members.reverse) rest)
    | _, _ => none
  else if c = ',' then
    match r.place, r.frames with
    | .afterValue, .array items :: rest => some ⟨.array items :: rest, .value, none⟩
    | .afterValue, .object members :: rest => some ⟨.object members :: rest, .key, none⟩
    | _, _ => none
  else if c = ':' ∧ r.place = .colon then some { r with place := .value }
  else none

def Reading.step (r : Reading) : Token → Option Reading
  | .mark c => r.mark c
  | .value v => if r.takesValue then some (.put v r.frames) else none
  | .text s =>
    if r.takesValue then some (.put (s.elim unreadable str) r.frames)
    else
      match r.place, r.frames with
      | .keyOrEnd, .object members :: rest => some ⟨.member members s :: rest, .colon, none⟩
      | .key, .object members :: rest => some ⟨.member members s :: rest, .colon, none⟩
      | _, _ => none

def ofText? (text : String) : Option Source := do
  let tokens ← tokens? text.toList
  let r ← tokens.foldlM Reading.step ⟨[], .value, none⟩
  r.result

end Source

def Json.ofText? (text : String) : Option Json := (Source.ofText? text).bind Source.value?

example : Json.ofText? "[1, \x7b\"a\": null, \"a\": \"\\ud83d\\ude00\"\x7d]" =
    some (.arr [.nat 1, .obj [("a", .str "😀")]]) := by decide +kernel
example : Json.ofText? "[1,]" = none := by decide +kernel
example : Json.ofText? "\"\\ud83d\"" = none := by decide +kernel
example : Json.ofText? "1 2" = none := by decide +kernel

end DocSections
