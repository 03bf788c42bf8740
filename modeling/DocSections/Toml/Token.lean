import DocSections.Text.Digits
import DocSections.Toml.DateTime

/-! The tokens of a TOML text. -/

namespace DocSections.Toml

inductive Token where
  | blank
  | newline
  | mark (c : Char)
  | bare (chars : List Char)
  | quoted (text : String) (multiline : Bool)

/-- The two quotes: a text in double quotes has escapes, one in single quotes has none. -/
inductive Quote where
  | basic
  | literal
deriving DecidableEq

def Quote.char : Quote → Char
  | basic => '"'
  | literal => '\x27'

inductive Lexing where
  | between
  | carriageReturn
  | comment
  | commentReturn
  | bare (chars : List Char)
  | dateBlank (chars : List Char)
  | opened (q : Quote)
  | emptyText (q : Quote)
  | text (q : Quote) (chars : List Char)
  | escape (multiline : Bool) (chars : List Char)
  | unit (multiline : Bool) (chars : List Char) (left value : Nat)
  | firstLine (q : Quote)
  | firstReturn (q : Quote)
  | lines (q : Quote) (chars : List Char)
  | linesReturn (q : Quote) (chars : List Char)
  | quotes (q : Quote) (chars : List Char) (count : Nat)
  | trim (chars : List Char) (newline : Bool)
  | trimReturn (chars : List Char)

def isBlankChar (c : Char) : Bool := c == ' ' || c == '\t'

def isBareChar (c : Char) : Bool := c.isAlphanum || "_-+.:".toList.contains c

/-- Control characters other than the tab have no place in comments and texts. -/
def isPrintable (c : Char) : Bool := c == '\t' || (0x20 ≤ c.toNat && c.toNat != 0x7F)

def unescape? (c : Char) : Option Char :=
  [('b', Char.ofNat 8), ('t', '\t'), ('n', '\n'), ('f', Char.ofNat 12), ('r', '\r'), ('"', '"'),
    ('\\', '\\')].lookup c

def bareToken (chars : List Char) : Token := .bare chars.reverse

def textToken (chars : List Char) (multiline : Bool) : Token :=
  .quoted (String.ofList chars.reverse) multiline

def startToken (tokens : List Token) (c : Char) : Option (List Token × Lexing) :=
  if isBlankChar c then some (.blank :: tokens, .between)
  else if c = '\n' then some (.newline :: tokens, .between)
  else if c = '\r' then some (tokens, .carriageReturn)
  else if c = '#' then some (tokens, .comment)
  else if c = '"' then some (tokens, .opened .basic)
  else if c = '\x27' then some (tokens, .opened .literal)
  else if isBareChar c then some (tokens, .bare [c])
  else if "=[],\x7b\x7d".toList.contains c then some (.mark c :: tokens, .between)
  else none

def inside (multiline : Bool) (chars : List Char) : Lexing :=
  if multiline then .lines .basic chars else .text .basic chars

def textStep (tokens : List Token) (q : Quote) (chars : List Char) (c : Char) :
    Option (List Token × Lexing) :=
  if c = q.char then some (textToken chars false :: tokens, .between)
  else if q = .basic ∧ c = '\\' then some (tokens, .escape false chars)
  else if isPrintable c then some (tokens, .text q (c :: chars))
  else none

def linesStep (tokens : List Token) (q : Quote) (chars : List Char) (c : Char) :
    Option (List Token × Lexing) :=
  if c = q.char then some (tokens, .quotes q chars 1)
  else if q = .basic ∧ c = '\\' then some (tokens, .escape true chars)
  else if c = '\r' then some (tokens, .linesReturn q chars)
  else if c = '\n' ∨ isPrintable c then some (tokens, .lines q (c :: chars))
  else none

/-- A run of quotes in a text of several lines ends it if there are three at least; up to two more
belong to the text. -/
def quotesStep (tokens : List Token) (q : Quote) (chars : List Char) (count : Nat) (c : Char) :
    Option (List Token × Lexing) :=
  if c = q.char ∧ count < 5 then some (tokens, .quotes q chars (count + 1))
  else if count < 3 then linesStep tokens q (List.replicate count q.char ++ chars) c
  else startToken (textToken (List.replicate (count - 3) q.char ++ chars) true :: tokens) c

/-- Reads a digit of a character number, which must be the number of a character. -/
def unitStep (tokens : List Token) (multiline : Bool) (chars : List Char) (left value : Nat)
    (c : Char) : Option (List Token × Lexing) := do
  let value := value * 16 + (← Text.hexValue? c)
  if 1 < left then some (tokens, .unit multiline chars (left - 1) value)
  else if value.isValidChar then some (tokens, inside multiline (Char.ofNat value :: chars))
  else none

def escapeStep (tokens : List Token) (multiline : Bool) (chars : List Char) (c : Char) :
    Option (List Token × Lexing) :=
  if c = 'u' then some (tokens, .unit multiline chars 4 0)
  else if c = 'U' then some (tokens, .unit multiline chars 8 0)
  else if multiline && isBlankChar c then some (tokens, .trim chars false)
  else if multiline && c == '\n' then some (tokens, .trim chars true)
  else if multiline && c == '\r' then some (tokens, .trimReturn chars)
  else (unescape? c).map fun d => (tokens, inside multiline (d :: chars))

def lineFeed (c : Char) (next : List Token × Lexing) : Option (List Token × Lexing) :=
  if c = '\n' then some next else none

def lexStep (tokens : List Token) (c : Char) : Lexing → Option (List Token × Lexing)
  | .between => startToken tokens c
  | .carriageReturn => lineFeed c (.newline :: tokens, .between)
  | .comment =>
    if c = '\n' then some (.newline :: tokens, .between)
    else if c = '\r' then some (tokens, .commentReturn)
    else if isPrintable c then some (tokens, .comment)
    else none
  | .commentReturn => lineFeed c (.newline :: tokens, .between)
  | .bare chars =>
    if isBareChar c then some (tokens, .bare (c :: chars))
    else if c = ' ' ∧ isDate chars.reverse then some (tokens, .dateBlank chars)
    else startToken (bareToken chars :: tokens) c
  | .dateBlank chars =>
    if c.isDigit then some (tokens, .bare (c :: ' ' :: chars))
    else startToken (.blank :: bareToken chars :: tokens) c
  | .opened q =>
    if c = q.char then some (tokens, .emptyText q) else textStep tokens q [] c
  | .emptyText q =>
    if c = q.char then some (tokens, .firstLine q) else startToken (textToken [] false :: tokens) c
  | .text q chars => textStep tokens q chars c
  | .escape multiline chars => escapeStep tokens multiline chars c
  | .unit multiline chars left value => unitStep tokens multiline chars left value c
  | .firstLine q =>
    if c = '\n' then some (tokens, .lines q [])
    else if c = '\r' then some (tokens, .firstReturn q)
    else linesStep tokens q [] c
  | .firstReturn q => lineFeed c (tokens, .lines q [])
  | .lines q chars => linesStep tokens q chars c
  | .linesReturn q chars => lineFeed c (tokens, .lines q ('\n' :: chars))
  | .quotes q chars count => quotesStep tokens q chars count c
  | .trim chars newline =>
    if isBlankChar c then some (tokens, .trim chars newline)
    else if c = '\n' then some (tokens, .trim chars true)
    else if c = '\r' then some (tokens, .trimReturn chars)
    else if newline then linesStep tokens .basic chars c
    else none
  | .trimReturn chars => lineFeed c (tokens, .trim chars true)

def lexEnd (tokens : List Token) : Lexing → Option (List Token)
  | .between => some tokens
  | .comment => some tokens
  | .bare chars => some (bareToken chars :: tokens)
  | .dateBlank chars => some (bareToken chars :: tokens)
  | .emptyText _ => some (textToken [] false :: tokens)
  | .quotes q chars count =>
    if 3 ≤ count then some (textToken (List.replicate (count - 3) q.char ++ chars) true :: tokens)
    else none
  | _ => none

def lexFrom (cs : List Char) (state : List Token × Lexing) : Option (List Token × Lexing) :=
  cs.foldlM (fun s c => lexStep s.1 c s.2) state

def tokens? (cs : List Char) : Option (List Token) := do
  let (tokens, state) ← lexFrom cs ([], .between)
  some (← lexEnd tokens state).reverse

end DocSections.Toml
