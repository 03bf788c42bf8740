import DocSections.Yaml.Text

/-! The tokens of a YAML text. Indentation begins and ends blocks. What may turn out to be a key
when a colon follows is remembered by the place of its first token. -/

namespace DocSections.Yaml

inductive Token where
  | version
  | tagPrefix (handle text : String)
  | documentStart
  | documentEnd
  | sequenceStart
  | mappingStart
  | blockEnd
  | flowSequenceStart
  | flowSequenceEnd
  | flowMappingStart
  | flowMappingEnd
  | entry
  | flowEntry
  | key
  | value
  | alias (name : String)
  | anchor (name : String)
  | tag (handle suffix : String)
  | scalar (text : String) (plain : Bool)
  | textEnd

structure Placed where
  mark : Mark
  token : Token

/-- What may turn out to be a key, told by the place of its first token among all. A required key
stands where its block goes on. -/
structure KeyPlace where
  slot : Nat
  mark : Mark
  required : Bool

structure Indent where
  column : Int
  endsBlock : Bool

inductive Flow where
  | sequence
  | mapping
deriving DecidableEq

/-- Where the scanner stands. `flows` are the open brackets and braces, and `keys` holds what may be
a key outside of all of them and in each. A slot of tokens may be filled later. -/
structure Scanner where
  cursor : Cursor
  indent : Int
  indents : List Indent
  flows : List Flow
  keyAllowed : Bool
  key : Option KeyPlace
  outerKeys : List (Option KeyPlace)
  adjacentValue : Nat
  slots : Array (List Placed)
  finished : Bool

namespace Scanner

def start (cs : List Char) : Scanner :=
  { cursor := .start cs, indent := -1, indents := [], flows := [], keyAllowed := true, key := none,
    outerKeys := [], adjacentValue := 0, slots := #[], finished := false }

def mark (s : Scanner) : Mark := s.cursor.mark

def column (s : Scanner) : Nat := s.cursor.column

def inFlow (s : Scanner) : Bool := !s.flows.isEmpty

def fault {α : Type} (s : Scanner) (problem : String) : Except Fault α := s.cursor.fault problem

def faultAt {α : Type} (m : Mark) (problem : String) : Except Fault α := .error ⟨problem, some m⟩

def emitAt (s : Scanner) (m : Mark) (t : Token) : Scanner :=
  { s with slots := s.slots.push [⟨m, t⟩] }

def emit (s : Scanner) (t : Token) : Scanner := s.emitAt s.mark t

def fill (s : Scanner) (slot : Nat) (m : Mark) (t : Token) : Scanner :=
  { s with slots := s.slots.modify slot (⟨m, t⟩ :: ·) }

def moveTo (s : Scanner) (c : Cursor) : Scanner := { s with cursor := c }

def skip (s : Scanner) (n : Nat) : Scanner := s.moveTo (s.cursor.skip n)

def skipToLineEnd (s : Scanner) : Except Fault Scanner := s.cursor.skipToLineEnd.map s.moveTo

def allowKey (s : Scanner) (allowed : Bool) : Scanner := { s with keyAllowed := allowed }

def allowBlockKey (s : Scanner) : Scanner := s.allowKey !s.inFlow

/-! Keys -/

def dropKey (s : Scanner) : Except Fault Scanner :=
  if s.key.any (·.required) then s.fault "simple key expected" else .ok { s with key := none }

def saveKey (s : Scanner) : Except Fault Scanner :=
  if s.keyAllowed then do
    let required := !s.inFlow && s.indent == s.column && s.indents.head?.any (·.endsBlock)
    let s ← s.dropKey
    .ok { s with key := some ⟨s.slots.size, s.mark, required⟩, slots := s.slots.push [] }
  else .ok s

/-- Outside of brackets a key ends on its line and is not too long. -/
def dropOldKey (s : Scanner) : Except Fault Scanner :=
  match s.key with
  | none => .ok s
  | some k =>
    if s.inFlow || (s.mark.line ≤ k.mark.line && s.mark.index ≤ k.mark.index + 1024) then .ok s
    else if k.required then s.fault "simple key expect ':'"
    else .ok { s with key := none }

/-! Indentation -/

def unroll (column : Int) (s : Scanner) : Scanner :=
  if s.inFlow then s else go s s.indents
where
  go (s : Scanner) : List Indent → Scanner
    | [] => { s with indents := [] }
    | i :: rest =>
      if column < s.indent then
        let s := if i.endsBlock then s.emit .blockEnd else s
        go { s with indent := i.column } rest
      else { s with indents := i :: rest }

def leaveSoftIndents (s : Scanner) : Scanner := go s s.indents
where
  go (s : Scanner) : List Indent → Scanner
    | [] => { s with indents := [] }
    | i :: rest =>
      if i.endsBlock then { s with indents := i :: rest }
      else go { s with indent := i.column } rest

/-- Indents what follows by one column more, though no block begins. -/
def indentSoftly (s : Scanner) : Scanner :=
  if !s.inFlow && s.indents.head?.any (·.endsBlock) then
    { s with indents := ⟨s.indent, false⟩ :: s.indents, indent := s.indent + 1 }
  else s

/-- Begins a block at a column if it is indented deeper than the one around it. Its token fills a
slot or is the next one. -/
def beginBlock (s : Scanner) (column : Nat) (slot : Option Nat) (t : Token) (m : Mark) : Scanner :=
  if s.inFlow then s
  else
    let s := match s.indents with
      | ⟨before, false⟩ :: rest =>
        if s.indent ≤ (column : Int) then { s with indent := before, indents := rest } else s
      | _ => s
    if s.indent < (column : Int) then
      let s := { s with indents := ⟨s.indent, true⟩ :: s.indents, indent := column }
      match slot with
      | some n => s.fill n m t
      | none => s.emitAt m t
    else s

/-! Tokens -/

def skipToToken (s : Scanner) : Except Fault Scanner :=
  steps (fun (s : Scanner) =>
    let d := s.cursor.char
    if d = '\t' && !s.indents.isEmpty && s.cursor.leading && (s.column : Int) < s.indent then do
      let s ← s.skipToLineEnd
      if endsLine s.cursor.char then .ok (some s)
      else s.fault "tabs disallowed within this context (block indentation)"
    else if isBlank d then .ok (some (s.skip 1))
    else if isBreak d then
      let s := s.moveTo s.cursor.skipBreak
      .ok (some (if s.inFlow then s else s.allowKey true))
    else if d = '#' then .ok (some (s.moveTo s.cursor.skipLine))
    else .ok none) (s.cursor.rest.length + 1) s

/-- Goes over blanks, comments and line ends, of which there has to be one, but no tabs. -/
def skipBlanksAfterMark (s : Scanner) : Except Fault Scanner :=
  if s.cursor.char = ' ' ∨ isBreak s.cursor.char then
    steps (fun (s : Scanner) =>
      let d := s.cursor.char
      if d = ' ' then .ok (some (s.skip 1))
      else if isBreak d then
        let s := s.moveTo s.cursor.skipBreak
        .ok (some (if s.inFlow then s else s.allowKey true))
      else if d = '#' then .ok (some (s.moveTo s.cursor.skipLine))
      else .ok none) (s.cursor.rest.length + 1) s
  else s.fault "expected whitespace"

def scanEnd (s : Scanner) : Except Fault Scanner :=
  let m := s.mark
  let m := if m.column = 0 then m else ⟨m.index, m.line + 1, 0⟩
  let s := s.moveTo { s.cursor with mark := m }
  if (s.key :: s.outerKeys).any (·.any (·.required)) then s.fault "simple key expected"
  else .ok { ({ s with key := none }.unroll (-1)).emit .textEnd with finished := true }

def scanDocumentMark (s : Scanner) (t : Token) : Except Fault Scanner := do
  let s ← (s.unroll (-1)).dropKey
  let m := s.mark
  .ok ((s.allowKey false).skip 3 |>.emitAt m t)

def scanDocumentEnd (s : Scanner) : Except Fault Scanner := do
  let s ← (← s.scanDocumentMark .documentEnd).skipToLineEnd
  if endsLine s.cursor.char then .ok s else s.fault "invalid content after document end marker"

/-! Tags -/

def isUriChar (c : Char) : Bool := isWordChar c || "#;/?:@&=+$,_.!~*'()[]%".toList.contains c

def isTagChar (c : Char) : Bool := isUriChar c && !isFlowMark c && c != '!'

def escapedByte? (c : Cursor) : Option Nat := do
  if c.char ≠ '%' then none
  let high ← Text.hexValue? (c.charAt 1)
  let low ← Text.hexValue? (c.charAt 2)
  return high * 16 + low

def bytesAfter? (first : Nat) : Option Nat :=
  if first < 0x80 then some 0
  else if first < 0xC0 then none
  else if first < 0xE0 then some 1
  else if first < 0xF0 then some 2
  else if first < 0xF8 then some 3
  else none

def escapedRest (start : Mark) : Nat → Nat → Cursor → Except Fault (Nat × Cursor)
  | 0, code, c => .ok (code, c)
  | n + 1, code, c =>
    match escapedByte? c with
    | none => faultAt start "while parsing a tag, found an invalid escape sequence"
    | some b =>
      if b < 0x80 ∨ 0xC0 ≤ b then
        faultAt start "while parsing a tag, found an incorrect trailing UTF-8 byte"
      else escapedRest start n (code * 256 + b) (c.skip 3)

def escapedChar (start : Mark) (c : Cursor) : Except Fault (Char × Cursor) :=
  match escapedByte? c with
  | none => faultAt start "while parsing a tag, found an invalid escape sequence"
  | some first =>
    match bytesAfter? first with
    | none => faultAt start "while parsing a tag, found an incorrect leading UTF-8 byte"
    | some n => do
      let (code, c) ← escapedRest start n first (c.skip 3)
      if code.isValidChar then .ok (Char.ofNat code, c)
      else faultAt start "while parsing a tag, found an invalid UTF-8 codepoint"

def uriText (start : Mark) (isMember : Char → Bool) :
    Nat → Cursor → Except Fault (List Char × Cursor)
  | 0, c => .ok ([], c)
  | n + 1, c =>
    if !isMember c.char then .ok ([], c)
    else do
      let (d, after) ← if c.char = '%' then escapedChar start c else .ok (c.char, c.skip 1)
      let (rest, after) ← uriText start isMember n after
      .ok (d :: rest, after)

def tagParts (c : Cursor) : Except Fault (String × String × Cursor) := do
  let limit := c.rest.length
  if c.charAt 1 = '<' then
    let (uri, after) ← uriText c.mark isUriChar limit (c.skip 2)
    if after.char = '>' then .ok ("", String.ofList uri, after.skip 1)
    else c.fault "while scanning a verbatim tag, did not find the expected '>'"
  else
    let name := (c.rest.drop 1).takeWhile isWordChar
    let after := c.skip (name.length + 1)
    if after.char = '!' then
      let (suffix, after) ← uriText c.mark isTagChar limit (after.skip 1)
      if suffix = [] then c.fault "while parsing a tag, did not find expected tag URI"
      else .ok (String.ofList ('!' :: name ++ ['!']), String.ofList suffix, after)
    else
      let (rest, after) ← uriText c.mark isTagChar limit after
      let suffix := name ++ rest
      .ok (if suffix = [] then "" else "!", if suffix = [] then "!" else String.ofList suffix,
        after)

def declaredHandle (start : Mark) (c : Cursor) : Except Fault (String × Cursor) :=
  let name := (c.rest.drop 1).takeWhile isWordChar
  let after := c.skip (name.length + 1)
  if c.char ≠ '!' then faultAt start "while scanning a tag, did not find expected '!'"
  else if after.char = '!' then .ok (String.ofList ('!' :: name ++ ['!']), after.skip 1)
  else if name ≠ [] then
    faultAt start "while parsing a tag directive, did not find expected '!'"
  else .ok ("!", after)

def declaredPrefix (start : Mark) (c : Cursor) : Except Fault (String × Cursor) :=
  if c.char ≠ '!' ∧ ¬ isTagChar c.char then faultAt start "invalid global tag character"
  else do
    let (text, after) ← uriText start isUriChar c.rest.length c
    .ok (String.ofList text, after)

/-! Directives -/

def versionNumber (start : Mark) (c : Cursor) : Except Fault Cursor :=
  let n := (c.rest.takeWhile Char.isDigit).length
  if n = 0 then
    faultAt start "while scanning a YAML directive, did not find expected version number"
  else if 9 < n then
    faultAt start "while scanning a YAML directive, found extremely long version number"
  else .ok (c.skip n)

def skipBlanks (c : Cursor) : Cursor := c.skip (c.rest.takeWhile isBlank).length

def directiveBody (start : Mark) (name : String) (c : Cursor) : Except Fault (Token × Cursor) := do
  if name = "YAML" then
    let c ← versionNumber start (skipBlanks c)
    if c.char = '.' then .ok (.version, ← versionNumber start (c.skip 1))
    else
      faultAt start
        "while scanning a YAML directive, did not find expected digit or '.' character"
  else if name = "TAG" then
    let (handle, c) ← declaredHandle start (skipBlanks c)
    let (text, c) ← declaredPrefix start (skipBlanks c)
    if partsWords c.char then .ok (.tagPrefix handle text, c)
    else faultAt start "while scanning TAG, did not find expected whitespace or line break"
  else .ok (.tagPrefix "" "", c.skipLine)

def scanDirective (s : Scanner) : Except Fault Scanner := do
  let s ← (s.unroll (-1)).dropKey
  let start := s.mark
  let c := s.cursor.skip 1
  let name := c.rest.takeWhile isWordChar
  let after := c.skip name.length
  if name = [] then
    c.fault "while scanning a directive, could not find expected directive name"
  else if !partsWords after.char then
    c.fault "while scanning a directive, found unexpected non-alphabetical character"
  else
    let (t, c) ← directiveBody start (String.ofList name) after
    let c ← c.skipToLineEnd
    if endsLine c.char then .ok ((s.allowKey false).emitAt start t |>.moveTo c.skipBreak)
    else
      faultAt start "while scanning a directive, did not find expected comment or line break"

def scanFlowStart (s : Scanner) (flow : Flow) : Except Fault Scanner := do
  let s := (← s.saveKey).indentSoftly
  if 255 ≤ s.flows.length then s.fault "recursion limit exceeded"
  else
    let m := s.mark
    let t : Token := if flow = .sequence then .flowSequenceStart else .flowMappingStart
    let s := { s with flows := flow :: s.flows, outerKeys := s.key :: s.outerKeys, key := none }
    .ok ((← ((s.allowKey true).skip 1).skipToLineEnd).emitAt m t)

def scanFlowEnd (s : Scanner) (t : Token) : Except Fault Scanner := do
  let s ← s.dropKey
  let s := match s.flows, s.outerKeys with
    | _ :: flows, key :: keys => { s with flows := flows, key := key, outerKeys := keys }
    | _, _ => s
  let m := s.mark
  let s ← ((s.allowKey false).skip 1).skipToLineEnd
  let s := if s.inFlow then { s with adjacentValue := s.mark.index } else s
  .ok (s.emitAt m t)

def scanFlowEntry (s : Scanner) : Except Fault Scanner := do
  let s := (← s.dropKey).allowKey true
  .ok ((← (s.skip 1).skipToLineEnd).emitAt s.mark .flowEntry)

def lastProperty? (s : Scanner) : Option Placed :=
  match s.slots.back? with
  | some [p] =>
    match p.token with
    | .anchor _ => some p
    | .tag _ _ => some p
    | _ => none
  | _ => none

def scanEntry (s : Scanner) : Except Fault Scanner := do
  if s.inFlow then s.fault "\"-\" is only valid inside a block"
  else if !s.keyAllowed then
    s.fault "block sequence entries are not allowed in this context"
  else
    match s.lastProperty?.filter fun p => s.column == 0 && p.mark.column == 0 && -1 < s.indent with
    | some p => faultAt p.mark "invalid indentation for anchor"
    | none =>
      let m := s.mark
      let s := (s.skip 1).beginBlock m.column none .sequenceStart m
      let gap ← s.cursor.skipGap true
      let c := gap.cursor
      if gap.tab && c.char == '-' && partsWords (c.charAt 1) then
        c.fault "'-' must be followed by a valid YAML whitespace"
      else
        let s := s.moveTo c
        let s := if isBreak c.char || isFlowMark c.char then s.indentSoftly else s
        .ok (((← s.dropKey).allowKey true).emit .entry)

def scanKeyMark (s : Scanner) : Except Fault Scanner := do
  let m := s.mark
  if !s.inFlow && !s.keyAllowed then
    s.fault "mapping keys are not allowed in this context"
  else
    let s ← (s.beginBlock m.column none .mappingStart m).dropKey
    let s ← (s.allowBlockKey.skip 1).skipBlanksAfterMark
    if s.cursor.char = '\t' then s.fault "tabs disallowed in this context"
    else .ok (s.emitAt m .key)

def scanValue (s : Scanner) : Except Fault Scanner := do
  let m := s.mark
  let key := s.key
  let s := s.skip 1
  let gap ← if s.cursor.char = '\t' then s.cursor.skipGap true else .ok ⟨s.cursor, false, true⟩
  if !gap.blank && isWordChar gap.cursor.char then
    gap.cursor.fault "':' must be followed by a valid YAML whitespace"
  else
    let s := s.moveTo gap.cursor
    match key with
    | some k =>
      if s.flows.head? = some .sequence ∧ k.mark.line < m.line then
        faultAt m "illegal placement of ':' indicator"
      else
        let s := (s.fill k.slot k.mark .key).beginBlock k.mark.column (some k.slot) .mappingStart
          k.mark
        .ok (({ s.indentSoftly with key := none }.allowKey false).emitAt m .value)
    | none =>
      if !s.inFlow && !s.keyAllowed then
        faultAt m "mapping values are not allowed in this context"
      else
        let s := (s.beginBlock m.column none .mappingStart m).indentSoftly
        .ok (s.allowBlockKey.emitAt m .value)

def isAnchorChar (c : Char) : Bool :=
  !partsWords c && !isFlowMark c && c.toNat != 0xFEFF

def scanAnchor (s : Scanner) (token : String → Token) : Except Fault Scanner := do
  let s := (← s.saveKey).allowKey false
  let m := s.mark
  let name := (s.cursor.rest.drop 1).takeWhile isAnchorChar
  if name = [] then
    faultAt m ("while scanning an anchor or alias, did not find expected alphabetic or numeric " ++
      "character")
  else .ok ((s.skip (name.length + 1)).emitAt m (token (String.ofList name)))

def scanTag (s : Scanner) : Except Fault Scanner := do
  let s := (← s.saveKey).allowKey false
  let m := s.mark
  let (handle, suffix, c) ← tagParts s.cursor
  if partsWords c.char || (s.inFlow && isFlowMark c.char) then
    .ok ((s.moveTo c).emitAt m (.tag handle suffix))
  else faultAt m "while scanning a tag, did not find expected whitespace or line break"

def scanBlock (s : Scanner) : Except Fault Scanner := do
  let s := ((← s.saveKey).allowKey true).leaveSoftIndents
  let (c, text) ← s.cursor.block s.indent
  .ok ((s.moveTo c).emitAt s.mark (.scalar text false))

def scanQuoted (s : Scanner) : Except Fault Scanner := do
  let s := (← s.saveKey).allowKey false
  let (c, text) ← s.cursor.quoted s.indent s.inFlow
  let after ← (s.moveTo c).skipToToken
  .ok ({ after with adjacentValue := after.mark.index }.emitAt s.mark (.scalar text false))

def scanPlain (s : Scanner) : Except Fault Scanner := do
  let s := ((← s.saveKey).allowKey false).leaveSoftIndents
  let indent := s.indent + 1
  if s.inFlow && (s.column : Int) < indent then
    s.fault "invalid indentation in flow construct"
  else
    let (c, text, broken) ← s.cursor.plain indent s.inFlow
    .ok ((s.moveTo c).allowKey broken |>.emitAt s.mark (.scalar text true))

def atValue (s : Scanner) : Bool :=
  let next := s.cursor.charAt 1
  partsWords next || (s.inFlow && (isFlowMark next || s.mark.index == s.adjacentValue))

def scan (s : Scanner) : Except Fault Scanner := do
  let s := (← (← s.skipToToken).dropOldKey)
  let s := s.unroll s.column
  let d := s.cursor.char
  let next := s.cursor.charAt 1
  if isEnd d then s.scanEnd
  else if s.column = 0 ∧ d = '%' then s.scanDirective
  else if s.cursor.atIndicator '-' then s.scanDocumentMark .documentStart
  else if s.cursor.atIndicator '.' then s.scanDocumentEnd
  else if (s.column : Int) < s.indent then s.fault "invalid indentation"
  else if d = '[' then s.scanFlowStart .sequence
  else if d.toNat = 0x7B then s.scanFlowStart .mapping
  else if d = ']' then s.scanFlowEnd .flowSequenceEnd
  else if d.toNat = 0x7D then s.scanFlowEnd .flowMappingEnd
  else if d = ',' then s.scanFlowEntry
  else if d = '-' ∧ partsWords next then s.scanEntry
  else if d = '?' ∧ partsWords next then s.scanKeyMark
  else if d = ':' ∧ s.atValue then s.scanValue
  else if d = '*' then s.scanAnchor .alias
  else if d = '&' then s.scanAnchor .anchor
  else if d = '!' then s.scanTag
  else if (d = '|' ∨ d = '>') ∧ !s.inFlow then s.scanBlock
  else if d = '"' ∨ d = '\x27' then s.scanQuoted
  else if d = '%' ∨ d = '@' ∨ d = '\x60' then
    s.fault ("unexpected character: \x60" ++ String.ofList [d] ++ "'")
  else s.scanPlain

end Scanner

/-- The tokens that can no longer turn out to be keys. -/
def Scanner.settled (s : Scanner) : List Placed :=
  let pending := (s.key :: s.outerKeys).filterMap (·.map KeyPlace.slot)
  (s.slots.toList.take (pending.foldl min s.slots.size)).flatten

def scanAll : Nat → Scanner → List Placed × Option Fault
  | 0, s => (s.settled, none)
  | n + 1, s =>
    if s.finished then (s.slots.toList.flatten, none)
    else
      match s.dropOldKey with
      | .error fault => (s.settled, some fault)
      | .ok s =>
        match s.scan with
        | .error fault => (s.settled, some fault)
        | .ok s => scanAll n s

/-- The tokens of a text, and what is wrong behind them. -/
def tokens (text : String) : List Placed × Option Fault :=
  let cs := text.toList.takeWhile fun d => !isEnd d
  scanAll (cs.length + 2) (.start cs)

end DocSections.Yaml
