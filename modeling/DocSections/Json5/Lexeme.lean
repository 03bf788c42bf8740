import DocSections.Json5.Source
import DocSections.Setting.Basic
import DocSections.Text.Digits
import DocSections.Text.Identifier

/-! Names, texts and numbers of JSON5: besides those of JSON there are names without quotes, texts
in single quotes and hexadecimal numbers. -/

namespace DocSections.Json5

/-- A part of a text or a name: a character, or a UTF-16 unit given by its number. -/
inductive Piece where
  | char (c : Char)
  | unit (n : Nat)

inductive Problem where
  | malformed (message : String)
  | surrogate
  | integer
  | hexadecimal
  | tooLarge
  | number
deriving DecidableEq, Repr

def Problem.message : Problem → String
  | malformed message => message
  | surrogate => "error parsing hex"
  | integer => "error parsing integer"
  | hexadecimal => "error parsing hex"
  | tooLarge => "error parsing number: too large"
  | number => "error parsing number"

/-- The characters that the pieces spell; `none` if half of a surrogate pair stands alone. -/
def spell? : List Piece → Option (List Char)
  | [] => some []
  | .char c :: rest => (spell? rest).map (c :: ·)
  | .unit high :: .unit low :: rest =>
    if 0xD800 ≤ high ∧ high < 0xDC00 then
      if 0xDC00 ≤ low ∧ low < 0xE000 then
        (spell? rest).map (Char.ofNat (0x10000 + (high - 0xD800) * 0x400 + (low - 0xDC00)) :: ·)
      else none
    else if 0xDC00 ≤ high ∧ high < 0xE000 then none
    else (spell? (.unit low :: rest)).map (Char.ofNat high :: ·)
  | .unit n :: rest =>
    if 0xD800 ≤ n ∧ n < 0xE000 then none else (spell? rest).map (Char.ofNat n :: ·)

def spelled (pieces : List Piece) : Except Problem String :=
  match spell? pieces with
  | some cs => .ok (String.ofList cs)
  | none => .error .surrogate

namespace Search

/-! Texts -/

def digits (p : Part) (count : Nat) (c : Cursor) : Search (Nat × Cursor) :=
  let ds := c.rest.take count
  if ds.length = count ∧ ds.all (Text.isDigitOf 16) then
    return (Text.numberOf 16 (ds.map Text.digitValue), c.skip count)
  else missing p c

def char (c : Cursor) : Search (Piece × Cursor) :=
  match c.rest with
  | d :: _ =>
    if d = '\\' ∨ Cursor.isLineEnd d then missing .char c else return (.char d, c.skip 1)
  | [] => missing .char c

def unescape (c : Char) : Char :=
  ([('b', Char.ofNat 8), ('f', Char.ofNat 12), ('n', '\n'), ('r', '\r'), ('t', '\t'),
    ('v', Char.ofNat 11)].lookup c).getD c

/-- Reads an escape after its backslash; the end of a line is left out. -/
def escape (c : Cursor) : Search (List Piece × Cursor) :=
  match c.rest with
  | d :: rest =>
    if !(d.isDigit || d == 'x' || d == 'u' || Cursor.isLineEnd d) then
      return ([.char (unescape d)], c.skip 1)
    else do
      tried .escapedChar c
      if d = '0' then return ([.char (Char.ofNat 0)], c.skip 1)
      else
        tried .escapedZero c
        if d = 'x' then
          let (n, c) ← digits .hexDigits 2 (c.skip 1)
          return ([.char (Char.ofNat n)], c)
        else if d = 'u' then
          let (n, c) ← digits .unitDigits 4 (c.skip 1)
          return ([.unit n], c)
        else if d = '\r' ∧ rest.head? = some '\n' then return ([], c.skip 2)
        else if Cursor.isLineEnd d then return ([], c.skip 1)
        else failure
  | [] => do
    tried .escapedChar c
    missing .escapedZero c

def textPart (c : Cursor) : Search (List Piece × Cursor) :=
  if c.rest.head? = some '\\' then escape (c.skip 1)
  else do
    let (piece, c) ← char c
    return ([piece], c)

def pieces (quote : Char) : Nat → Cursor → Search (List Piece × Cursor)
  | 0, _ => failure
  | n + 1, c =>
    if c.rest.head? = some quote then return ([], c.skip 1)
    else do
      let (found, c) ← textPart c
      let (others, c) ← pieces quote n c
      return (found ++ others, c)

def text (c : Cursor) : Search (List Piece × Cursor) :=
  match c.rest with
  | d :: rest =>
    if d = '"' ∨ d = '\x27' then pieces d (rest.length + 1) (c.skip 1) <|> missing .text c
    else missing .text c
  | [] => missing .text c

/-! Names -/

def startsName (c : Char) : Bool := c == '$' || c == '_' || Text.isLetter c

def continuesName (c : Char) : Bool :=
  startsName c || Text.isJoiner c || c.toNat == 0x200C || c.toNat == 0x200D

def nameChar (isMember : Char → Bool) (c : Cursor) : Search (Piece × Cursor) :=
  match c.rest with
  | '\\' :: 'u' :: _ => do
    let (n, c) ← digits .unitDigits 4 (c.skip 2)
    return (.unit n, c)
  | d :: _ => if isMember d then return (.char d, c.skip 1) else failure
  | [] => failure

def nameRest : Nat → Cursor → Search (List Piece × Cursor)
  | 0, c => return ([], c)
  | n + 1, c => (do
      let (piece, c) ← nameChar continuesName c
      let (others, c) ← nameRest n c
      return (piece :: others, c)) <|> return ([], c)

def name (c : Cursor) : Search (List Piece × Cursor) :=
  (do
    let (first, after) ← nameChar startsName c
    let (others, after) ← nameRest after.rest.length after
    return (first :: others, after)) <|> missing .name c

end Search

/-! Numbers -/

def exponentLength : List Char → Nat
  | mark :: rest =>
    let sign := if rest.head? = some '+' ∨ rest.head? = some '-' then 1 else 0
    let digits := ((rest.drop sign).takeWhile Char.isDigit).length
    if Text.isExponentMark mark ∧ 0 < digits then 1 + sign + digits else 0
  | [] => 0

def wholeLength : List Char → Nat
  | '0' :: _ => 1
  | cs => (cs.takeWhile Char.isDigit).length

/-- The length of a decimal numeral; on one side of the point there may be no digits. -/
def decimalLength? (cs : List Char) : Option Nat :=
  let whole := wholeLength cs
  match cs.drop whole with
  | '.' :: rest =>
    let fraction := (rest.takeWhile Char.isDigit).length
    if whole = 0 ∧ fraction = 0 then none
    else some (whole + 1 + fraction + exponentLength (rest.drop fraction))
  | rest => if whole = 0 then none else some (whole + exponentLength rest)

def hexLength? : List Char → Option Nat
  | '0' :: x :: rest =>
    let digits := (rest.takeWhile (Text.isDigitOf 16)).length
    if (x = 'x' ∨ x = 'X') ∧ 0 < digits then some (digits + 2) else none
  | _ => none

def wordLength? (w : String) (cs : List Char) : Option Nat :=
  if w.toList.isPrefixOf cs then some w.length else none

def numeralLength? (cs : List Char) : Option Nat :=
  let sign := if cs.head? = some '+' ∨ cs.head? = some '-' then 1 else 0
  let rest := cs.drop sign
  ((hexLength? rest).or ((decimalLength? rest).or
    ((wordLength? "Infinity" rest).or (wordLength? "NaN" rest)))).map (· + sign)

/-- A whole number. One in hexadecimal digits is less than 2³² and has no sign. -/
def wholeOf (cs : List Char) : Except Problem Setting :=
  if (hexLength? cs).isSome then
    let n := Text.numberOf 16 ((cs.drop 2).map Text.digitValue)
    if n < UInt32.size then .ok (.int n) else .error .hexadecimal
  else
    match Setting.integer? cs with
    | some n => .ok (.int n)
    | none => .error .integer

def floatOf (cs : List Char) : Except Problem Setting :=
  match Floating.ofNumeral? cs with
  | some (.finite d) => .ok (.float (.finite d))
  | some _ => .error .tooLarge
  | none => .error .number

/-- The words for floats. Positive infinity has no sign. -/
def floatWords : List (String × Floating) :=
  [("Infinity", .infinite false), ("-Infinity", .infinite true), ("NaN", .notANumber),
    ("-NaN", .notANumber)]

def numberOf (cs : List Char) : Except Problem Setting :=
  match floatWords.lookup (String.ofList cs) with
  | some f => .ok (.float f)
  | none =>
    if (hexLength? cs).isSome || !cs.any fun c => c == '.' || Text.isExponentMark c then wholeOf cs
    else floatOf cs

end DocSections.Json5
