import DocSections.Setting.Basic
import DocSections.Text.Blank
import DocSections.Text.Digits

/-! Reading INI texts: keys and texts joined by `=` or `:`, under the names of sections in brackets.
Comments take whole lines. A backslash begins an escape in names, keys and texts. -/

namespace DocSections.Ini

inductive Problem where
  | comment
  | missingKey
  | endOfText (wanted : List (Option Char))
  | afterBackslash (found : Option Char)
  | unknownCharacter
deriving DecidableEq, Repr

def told (c : Option Char) : String := c.elim "None" fun d => "Some(" ++ Text.quotedAlone d ++ ")"

def Problem.message : Problem → String
  | comment => "doesn't support inline comment"
  | missingKey => "missing key"
  | endOfText wanted =>
    "expecting \"[" ++ ", ".intercalate (wanted.map told) ++ "]\" but found EOF."
  | afterBackslash found => "expecting \"\\\\n\" but found \"" ++ told found ++ "\"."
  | unknownCharacter => "unknown character in \\xHH form"

structure Fault where
  line : Nat
  column : Nat
  problem : Problem
deriving DecidableEq, Repr

def Fault.message (f : Fault) : String :=
  toString f.line ++ ":" ++ toString f.column ++ " " ++ f.problem.message

/-- The parts of a text that may hold escapes. A value goes on after a part between quotes. -/
inductive Part where
  | sectionName
  | key
  | plain (before : List Char) (first : Bool)
  | quoted (quote : Char) (before : List Char)

def Part.ends (c : Char) : Part → Bool
  | sectionName => c == ']'
  | key => c == '=' || c == ':'
  | plain _ _ => c == '\n' || c == '\r'
  | quoted q _ => c == q

def Part.wanted : Part → List (Option Char)
  | sectionName => [some ']']
  | key => [some '=', some ':']
  | plain _ _ => [some '\n', some '\r', none]
  | quoted q _ => [some q]

/-- Where the reader of a part stands: a line feed after a backslash is left out together with the
character after it. -/
inductive Escape where
  | none
  | backslash
  | lineFeed
  | number (digits : List Char)
  | numberBackslash

inductive Place where
  | between (lineStart : Bool)
  | comment
  | part (p : Part) (chars : List Char) (e : Escape)
  | valueStart
  | valueMore (value : List Char)

/-- The keys above all sections, the sections in the order in which they begin, and the key whose
value comes next. -/
structure Reading where
  top : List (String × String)
  sections : List (String × List (String × String))
  key : String
  place : Place

namespace Reading

def start : Reading := ⟨[], [], "", .between true⟩

def moveTo (r : Reading) (place : Place) : Reading := { r with place := place }

/-- Puts the value of the last key under the last section. Entries are in reverse order. -/
def put (r : Reading) (value : List Char) : Reading :=
  let entry := (r.key, String.ofList value)
  match r.sections with
  | [] => { r with top := entry :: r.top, key := "", place := .between false }
  | (name, entries) :: rest =>
    { r with sections := (name, entry :: entries) :: rest, key := "", place := .between false }

def valueOf (before : List Char) (first : Bool) (chars : List Char) : List Char :=
  before ++ if first then Text.trim chars.reverse else Text.trimEnd chars.reverse

/-- What follows when a part is complete; `c` is the character that ends it. -/
def finish (r : Reading) (p : Part) (chars : List Char) (c : Char) : Except Problem Reading :=
  match p with
  | .sectionName =>
    .ok { r with
      sections := (String.ofList (Text.trim chars.reverse), []) :: r.sections
      place := .between false }
  | .key =>
    let key := Text.trim chars.reverse
    if key = [] then .error .missingKey
    else .ok { r with key := String.ofList key, place := .valueStart }
  | .plain before first => .ok ((r.put (valueOf before first chars)).moveTo (.between (c == '\n')))
  | .quoted _ before => .ok (r.moveTo (.valueMore (before ++ chars.reverse)))

def unescape (c : Char) : Char :=
  ([('0', Char.ofNat 0), ('a', Char.ofNat 7), ('b', Char.ofNat 8), ('t', '\t'), ('r', '\r'),
    ('n', '\n')].lookup c).getD c

/-- The character whose number four digits spell; a plus may stand in the place of the first. -/
def numbered? (digits : List Char) : Option Char :=
  let ds := if digits.head? = some '+' then digits.drop 1 else digits
  let n := Text.numberOf 16 (ds.map Text.digitValue)
  if ds.all (Text.isDigitOf 16) ∧ n.isValidChar then some (Char.ofNat n) else none

def partStep (r : Reading) (p : Part) (chars : List Char) (c : Char) :
    Escape → Except Problem Reading
  | .none =>
    if p.ends c then r.finish p chars c
    else .ok (r.moveTo (.part p (if c = '\\' then chars else c :: chars)
      (if c = '\\' then .backslash else .none)))
  | .backslash =>
    if c = '\n' then .ok (r.moveTo (.part p chars .lineFeed))
    else if c = 'x' then .ok (r.moveTo (.part p chars (.number [])))
    else .ok (r.moveTo (.part p (unescape c :: chars) .none))
  | .lineFeed => .ok (r.moveTo (.part p chars .none))
  | .number digits =>
    if c = '\\' then .ok (r.moveTo (.part p chars .numberBackslash))
    else if digits.length < 3 then .ok (r.moveTo (.part p chars (.number (c :: digits))))
    else
      match numbered? (c :: digits).reverse with
      | some d => .ok (r.moveTo (.part p (d :: chars) .none))
      | none => .error .unknownCharacter
  | .numberBackslash => .error (if c = '\n' then .unknownCharacter else .afterBackslash (some c))

def betweenStep (r : Reading) (lineStart : Bool) (c : Char) : Except Problem Reading :=
  if Text.isBlank c then .ok (r.moveTo (.between (c == '\n')))
  else if c = ';' ∨ c = '#' then
    if lineStart then .ok (r.moveTo .comment) else .error .comment
  else if c = '[' then .ok (r.moveTo (.part .sectionName [] .none))
  else if c = '=' ∨ c = ':' then .error .missingKey
  else r.partStep .key [] c .none

def valueStep (r : Reading) (before : List Char) (first : Bool) (c : Char) :
    Except Problem Reading :=
  if c = '"' ∨ c = '\x27' then .ok (r.moveTo (.part (.quoted c before) [] .none))
  else r.partStep (.plain before first) [] c .none

def step (r : Reading) (c : Char) : Except Problem Reading :=
  match r.place with
  | .between lineStart => r.betweenStep lineStart c
  | .comment => .ok (if c = '\n' then r.moveTo (.between true) else r)
  | .part p chars e => r.partStep p chars c e
  | .valueStart =>
    if Text.isBlank c && c != '\n' && c != '\r' then .ok r else r.valueStep [] true c
  | .valueMore value => r.valueStep value false c

def atEnd (r : Reading) : Except Problem Reading :=
  match r.place with
  | .between _ => .ok r
  | .comment => .ok r
  | .part (.plain before first) chars .none => .ok (r.put (valueOf before first chars))
  | .part (.plain before first) chars .lineFeed => .ok (r.put (valueOf before first chars))
  | .part _ _ .numberBackslash => .error (.afterBackslash none)
  | .part p _ _ => .error (.endOfText p.wanted)
  | .valueStart => .ok (r.put [])
  | .valueMore value => .ok (r.put value)

/-- The settings in the order of the text; a section stands behind the keys above it, and one that
begins again takes the place of the first. -/
def setting (r : Reading) : Setting :=
  let pairs (entries : List (String × String)) :=
    Assoc.ofPairs (entries.reverse.map fun e => (e.1, Setting.text e.2))
  .table (Assoc.ofPairs (pairs r.top ++
    r.sections.reverse.map fun s => (s.1, Setting.table (pairs s.2))))

end Reading

/-- The place of the last of the characters, which are in reverse order. -/
def faultAfter (read : List Char) (problem : Problem) : Fault :=
  ⟨read.count '\n' + 1, (read.takeWhile (· != '\n')).length + 1, problem⟩

/-- Reads on; `read` holds the characters before, in reverse order. -/
def readFrom (read : List Char) (r : Reading) : List Char → Except Fault Reading
  | [] => r.atEnd.mapError (faultAfter read)
  | c :: rest =>
    match r.step c with
    | .ok r => readFrom (c :: read) r rest
    | .error problem => .error (faultAfter (c :: read) problem)

def ofText (text : String) : Except Fault Setting :=
  (readFrom [] .start text.toList).map Reading.setting

end DocSections.Ini
