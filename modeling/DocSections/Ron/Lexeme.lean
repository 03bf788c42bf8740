import DocSections.Decimal.Floating
import DocSections.Ron.Source
import DocSections.Setting.Basic
import DocSections.Text.Digits

/-! Names, numbers, texts and characters of RON. Texts are between quotes with escapes, or raw
between a number of hashes. -/

namespace DocSections.Ron

namespace Reader

/-! Names -/

def atName (s : String) : Reader Bool := do
  let cs ← rest
  return s.toList.isPrefixOf cs && !(cs.drop s.length).head?.any continuesName

def consumeName (s : String) : Reader Bool := do
  if ← atName s then
    skip s.length
    return true
  else return false

def plainName : Reader String := do
  let cs ← rest
  let name := cs.takeWhile continuesName
  let raw := cs.takeWhile isRawChar
  if name.length < raw.length then fail (.rawName (String.ofList raw))
  else
    skip name.length
    return String.ofList name

/-- Takes a name. One that begins with `r#` is raw and may hold other characters. -/
def name : Reader String := do
  let c ← peek
  let cs ← rest
  if !startsName c then
    if isRawChar c then fail (.rawName (String.ofList (cs.takeWhile isRawChar)))
    else fail .name
  else if c ≠ 'r' then plainName
  else
    match cs.drop 1 with
    | [] => fail .endOfText
    | '"' :: _ => fail .name
    | '#' :: raw =>
      let raw := raw.takeWhile isRawChar
      if raw = [] then fail .name
      else
        skip (raw.length + 2)
        return String.ofList raw
    | _ => plainName

/-! Numbers -/

def isFloatChar (c : Char) : Bool := c.isDigit || "eE.+-_".toList.contains c

def isWholeChar (c : Char) : Bool := Text.isDigitOf 16 c || c == '_'

def isSign (c : Char) : Bool := c == '-' || c == '+'

def baseOf : List Char → Nat
  | '0' :: 'x' :: _ => 16
  | '0' :: 'b' :: _ => 2
  | '0' :: 'o' :: _ => 8
  | _ => 10

/-- Takes what may be digits of a whole number behind the mark of their base, among which there may
be underscores but not in front, and gives the number if they are. -/
def natural? : Reader (Option Nat) := do
  let base := baseOf (← rest)
  if base ≠ 10 then skip 2
  let cs := (← rest).takeWhile isWholeChar
  if cs.head? = none ∨ cs.head? = some '_' then return none
  else
    skip cs.length
    let digits := cs.filter (· != '_')
    return if digits.all (Text.isDigitOf base) then
      some (Text.numberOf base (digits.map Text.digitValue)) else none

/-- Takes what may be a whole number: one with a sign has 64 bits, one without may be up to 2⁶⁴. -/
def integer? : Reader (Option Int) := do
  let c ← peek
  if isSign c then
    skip 1
    return ((← natural?).map (Text.signed (c == '-') ·)).filter Setting.fits64
  else return ((← natural?).filter (· < UInt64.size)).map fun (n : Nat) => (n : Int)

def floatWords : List (String × Floating) :=
  [("inf", .infinite false), ("+inf", .infinite false), ("-inf", .infinite true),
    ("NaN", .notANumber), ("+NaN", .notANumber), ("-NaN", .notANumber)]

def word? {α : Type} : List (String × α) → Reader (Option α)
  | [] => return none
  | (w, a) :: words => do
    if ← consumeName w then return some a else word? words

def float : Reader Floating := do
  match ← word? floatWords with
  | some f => return f
  | none =>
    let cs := (← rest).takeWhile isFloatChar
    if cs.contains '_' then
      skip (cs.takeWhile (· != '_')).length
      fail .floatUnderscore
    else
      match Floating.ofNumeral? cs with
      | some f =>
        skip cs.length
        return f
      | none =>
        skip cs.length
        fail .float

/-- Takes a number. It is a float if more characters of floats than of whole numbers stand at its
front, or else if it is no whole number; then places are counted from behind what was taken for a
whole number. -/
def number : Reader Setting := do
  let cs ← rest
  let body := if cs.head?.any isSign then cs.drop 1 else cs
  if (body.takeWhile isWholeChar).length < (body.takeWhile isFloatChar).length then
    return .float (← float)
  else
    match ← integer? with
    | some n => return .ofInt n
    | none =>
      modify fun c => { c with rest := cs }
      return .float (← float)

/-! Texts and characters -/

def hexDigit (value : Nat) : Reader Nat := do
  match Text.hexValue? (← take) with
  | some d => return value * 16 + d
  | none => fail (.escape "Non-hex digit found")

/-- Takes the digits of a number in braces, of which the first `n` are left. -/
def bracedDigits : Nat → Nat → Reader Nat
  | 0, value => return value
  | n + 1, value => do
    if (← peek).toNat = 0x7D then return value else bracedDigits n (← hexDigit value)

def braced : Reader Char := do
  if (← take).toNat ≠ 0x7B then fail (.escape "Missing \x7b")
  else
    let first ← peekDigits
    let value ← bracedDigits 6 0
    if first then fail (.escape "Expected 1-6 digits, got 0 digits in Unicode escape")
    else if (← take).toNat ≠ 0x7D then fail (.escape "No \x7d at the end of Unicode escape")
    else if value.isValidChar then return Char.ofNat value
    else fail (.escape "Not a valid char")
where
  /-- Whether there are no digits. -/
  peekDigits : Reader Bool := do return (← rest).head?.any (·.toNat == 0x7D)

def escapes : List (Char × Char) :=
  [('\x27', '\x27'), ('"', '"'), ('\\', '\\'), ('n', '\n'), ('r', '\r'), ('t', '\t')]

def escape : Reader Char := do
  let c ← take
  if c = 'x' then return Char.ofNat (← hexDigit (← hexDigit 0))
  else if c = 'u' then braced
  else
    match escapes.lookup c with
    | some d => return d
    | none => fail (.escape "Unknown escape character")

/-- Takes a text after its quote; `first` says that there was no escape yet. -/
def textFrom : Nat → Bool → Reader (List Char)
  | 0, _ => fail .textEnd
  | n + 1, first => do
    let cs ← rest
    let plain := cs.takeWhile fun d => d != '"' && d != '\\'
    match cs.drop plain.length with
    | [] => fail (if first then .textEnd else .endOfText)
    | '"' :: _ =>
      skip (plain.length + 1)
      return plain
    | _ =>
      skip (plain.length + 1)
      let d ← escape
      return plain ++ d :: (← textFrom n false)

/-- The characters before the first time that `ending` comes. -/
def before? (ending : List Char) : List Char → Option (List Char)
  | [] => none
  | c :: rest =>
    if ending.isPrefixOf (c :: rest) then some [] else (before? ending rest).map (c :: ·)

def rawText : Reader (List Char) := do
  let hashes := (← rest).takeWhile (· == '#')
  skip hashes.length
  if ← consume "\"" then
    match before? ('"' :: hashes) (← rest) with
    | some cs =>
      skip (cs.length + hashes.length + 1)
      return cs
    | none => fail .textEnd
  else fail .text

def text : Reader String := do
  if ← consume "\"" then return String.ofList (← textFrom ((← rest).length + 1) true)
  else if ← consume "r" then return String.ofList (← rawText)
  else fail .text

def character : Reader Char := do
  skip 1
  if (← peek) = '\\' then
    skip 1
    let c ← escape
    if (← take) = '\x27' then return c else fail .character
  else
    match ← rest with
    | c :: '\x27' :: _ =>
      if c = '\x27' then fail .character
      else
        skip 2
        return c
    | _ => fail .character

end Reader

end DocSections.Ron
