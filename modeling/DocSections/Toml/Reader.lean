import DocSections.Toml.Document
import DocSections.Toml.Scalar
import DocSections.Toml.Token

/-! Reading TOML documents: tokens are put together line by line, with a stack of the arrays and
inline tables that are still open in the value of a line. -/

namespace DocSections.Toml

/-- A dotted key that is being read: its parts so far in reverse order, and whether a part must
follow. -/
structure KeyReading where
  parts : List String
  wantsPart : Bool

/-- Dotted keys have fewer parts than this, and arrays and inline tables are nested less deep. -/
def depthLimit : Nat := 80

namespace KeyReading

def start : KeyReading := ⟨[], true⟩

def part? (k : KeyReading) (name : String) : Option KeyReading :=
  if k.wantsPart then some ⟨name :: k.parts, false⟩ else none

def dot? (k : KeyReading) : Option KeyReading :=
  if k.wantsPart then none else some ⟨k.parts, true⟩

def isKeyChar (c : Char) : Bool := c.isAlphanum || c == '_' || c == '-'

/-- Reads the pieces between the dots of a run of bare characters; a piece may be empty where a
quoted part or a blank stands next to the dot. -/
def pieces? (k : KeyReading) : List (List Char) → Option KeyReading
  | [] => some k
  | piece :: rest => do
    let k ← if piece = [] then some k
      else if piece.all isKeyChar then k.part? (String.ofList piece)
      else none
    if rest = [] then some k else (← k.dot?).pieces? rest

def step? (k : KeyReading) : Token → Option KeyReading
  | .blank => some k
  | .bare chars => k.pieces? (Text.split '.' chars)
  | .quoted name false => k.part? name
  | _ => none

def path? (k : KeyReading) : Option (List String) :=
  if k.wantsPart || depthLimit ≤ k.parts.length then none else some k.parts.reverse

end KeyReading

/-- An array or inline table that is still open; the items of an array are in reverse order. -/
inductive Frame where
  | array (items : List Setting)
  | table (entries : Entries)
  | member (entries : Entries) (key : List String)

/-- What is being read. `key` is the key of the line, and `mayClose` says whether the innermost
array or table may end where an item or member could stand. -/
inductive Place where
  | lineStart
  | lineEnd
  | opening
  | header (repeated : Bool) (path : KeyReading)
  | closing (path : List String)
  | lineKey (path : KeyReading)
  | value (key : List String) (frames : List Frame) (mayClose : Bool)
  | memberKey (key : List String) (frames : List Frame) (path : KeyReading) (mayClose : Bool)
  | afterValue (key : List String) (frames : List Frame)

structure Reading where
  document : Document
  place : Place

namespace Reading

def moveTo (r : Reading) (place : Place) : Reading := { r with place := place }

def put? (r : Reading) (key : List String) (v : Node) : List Frame → Option Reading
  | [] => (r.document.assign? key v).map fun d => ⟨d, .lineEnd⟩
  | .array items :: rest =>
    v.setting?.map fun s => r.moveTo (.afterValue key (.array (s :: items) :: rest))
  | .member entries path :: rest =>
    (Toml.assign? v path entries).map fun es => r.moveTo (.afterValue key (.table es :: rest))
  | .table _ :: _ => none

def open? (r : Reading) (key : List String) (frames : List Frame) (c : Char) : Option Reading :=
  if depthLimit ≤ frames.length + 1 then none
  else if c = '[' then some (r.moveTo (.value key (.array [] :: frames) true))
  else if c.toNat = 0x7B then some (r.moveTo (.memberKey key (.table [] :: frames) .start true))
  else none

def close? (r : Reading) (key : List String) (frames : List Frame) (c : Char) : Option Reading :=
  match frames with
  | .array items :: rest => if c = ']' then r.put? key (.value (.list items.reverse)) rest else none
  | .table entries :: rest =>
    if c.toNat = 0x7D then do r.put? key (.value (← entries.setting?)) rest else none
  | _ => none

def bareNode? (chars : List Char) : Option Node :=
  ((scalar? chars).map .value).or ((dateTime? chars).map .date)

def inArray (frames : List Frame) : Bool :=
  match frames with
  | .array _ :: _ => true
  | _ => false

def valueStep? (r : Reading) (key : List String) (frames : List Frame) (mayClose : Bool) :
    Token → Option Reading
  | .blank => some r
  | .newline => if inArray frames then some r else none
  | .bare chars => do r.put? key (← bareNode? chars) frames
  | .quoted s _ => r.put? key (.value (.text s)) frames
  | .mark c => if mayClose && c == ']' then r.close? key frames c else r.open? key frames c

def memberKeyStep? (r : Reading) (key : List String) (frames : List Frame) (path : KeyReading)
    (mayClose : Bool) : Token → Option Reading
  | .mark c =>
    if c = '=' then
      match frames with
      | .table entries :: rest => do
        some (r.moveTo (.value key (.member entries (← path.path?) :: rest) false))
      | _ => none
    else if mayClose && path.parts.isEmpty then r.close? key frames c
    else none
  | t => do some (r.moveTo (.memberKey key frames (← path.step? t) mayClose))

def afterValueStep? (r : Reading) (key : List String) (frames : List Frame) :
    Token → Option Reading
  | .blank => some r
  | .newline => if inArray frames then some r else none
  | .mark c =>
    if c = ',' then
      if inArray frames then some (r.moveTo (.value key frames true))
      else some (r.moveTo (.memberKey key frames .start false))
    else r.close? key frames c
  | _ => none

def headerStep? (r : Reading) (repeated : Bool) (path : KeyReading) : Token → Option Reading
  | .mark c =>
    if c = ']' then do
      let path ← path.path?
      if repeated then some (r.moveTo (.closing path))
      else (r.document.under? false path).map fun d => ⟨d, .lineEnd⟩
    else none
  | t => do some (r.moveTo (.header repeated (← path.step? t)))

def lineStep? (r : Reading) : Token → Option Reading
  | .blank => some r
  | .newline => some r
  | .mark c => if c = '[' then some (r.moveTo .opening) else none
  | t => do some (r.moveTo (.lineKey (← KeyReading.start.step? t)))

def lineKeyStep? (r : Reading) (path : KeyReading) : Token → Option Reading
  | .mark c => if c = '=' then do some (r.moveTo (.value (← path.path?) [] false)) else none
  | t => do some (r.moveTo (.lineKey (← path.step? t)))

def step? (r : Reading) (t : Token) : Option Reading :=
  match r.place, t with
  | .lineStart, t => r.lineStep? t
  | .lineEnd, .blank => some r
  | .lineEnd, .newline => some (r.moveTo .lineStart)
  | .lineEnd, _ => none
  | .opening, .mark '[' => some (r.moveTo (.header true .start))
  | .opening, t => r.headerStep? false .start t
  | .header repeated path, t => r.headerStep? repeated path t
  | .closing path, .mark ']' => (r.document.under? true path).map fun d => ⟨d, .lineEnd⟩
  | .closing _, _ => none
  | .lineKey path, t => r.lineKeyStep? path t
  | .value key frames mayClose, t => r.valueStep? key frames mayClose t
  | .memberKey key frames path mayClose, t => r.memberKeyStep? key frames path mayClose t
  | .afterValue key frames, t => r.afterValueStep? key frames t

def start : Reading := ⟨.empty, .lineStart⟩

def finish? (r : Reading) : Option Setting :=
  match r.place with
  | .lineStart => r.document.entries.setting?
  | .lineEnd => r.document.entries.setting?
  | _ => none

end Reading

/-- The characters of a text without the byte order mark at its front. -/
def withoutMark (cs : List Char) : List Char :=
  match cs with
  | c :: rest => if c.toNat = 0xFEFF then rest else c :: rest
  | [] => []

def ofText? (text : String) : Option Setting := do
  let r ← (← tokens? (withoutMark text.toList)).foldlM Reading.step? Reading.start
  r.finish?

example : (ofText? "[a]\nb.c = [1, 0x_f]\n").isNone := by decide +kernel
example : (ofText? "a.b = 1\n[a]\n").isNone := by decide +kernel
example : (ofText? "[a.b]\n[a]\nc = \x7bd = 1\x7d # x\n").isSome := by decide +kernel

end DocSections.Toml
