import DocSections.Yaml.Node
import DocSections.Yaml.Token

/-! Reading YAML texts: tokens are put together to the nodes of one document. What an anchor names
stands again wherever its name is used. -/

namespace DocSections.Yaml

/-- The tokens that are left and the fault behind them, the beginnings of tags by their handles, the
number of each anchor, the nodes that the numbers stand for once they are read, the place of the
last node, and the first fault of a mapping. -/
structure Reading where
  tokens : List Placed
  fault : Option Fault
  tagPrefixes : List (String × String)
  anchors : List (String × Nat)
  nodes : List (Nat × Node)
  last : Mark
  flaw : Option Fault

abbrev Reader := StateT Reading (Except Fault)

namespace Reader

def fault {α : Type} (m : Mark) (problem : String) : Reader α :=
  fun _ => .error ⟨problem, some m⟩

def peek : Reader Placed := fun r =>
  match r.tokens, r.fault with
  | p :: _, _ => .ok (p, r)
  | [], some fault => .error fault
  | [], none => .ok (⟨r.last, .textEnd⟩, r)

def place (m : Mark) : Reader Unit := modify fun r => { r with last := m }

def skip : Reader Unit := fun r =>
  match r.tokens with
  | [] => .ok ((), r)
  | p :: rest => .ok ((), { r with tokens := rest, last := p.mark })

def missing (m : Mark) : Reader Node := do
  place m
  return .absent

def missingHere : Reader Node := do missing (← peek).mark

def newAnchor (name : String) : Reader Nat := fun r =>
  let n := r.anchors.length
  .ok (n, { r with anchors := (name, n) :: r.anchors })

/-- The node that a name stands for; inside of that node it is absent. -/
def named (m : Mark) (name : String) : Reader Node := fun r =>
  match r.anchors.lookup name with
  | none => .error ⟨"while parsing node, found unknown anchor", some m⟩
  | some n => .ok ((r.nodes.lookup n).getD .absent, r)

def isHandle (handle : String) : Bool :=
  handle.length ≥ 2 && handle.startsWith "!" && handle.endsWith "!"

def tagPrefix (m : Mark) (handle suffix : String) : Reader String := fun r =>
  match r.tagPrefixes.lookup (if handle = "" ∧ suffix = "!" then "" else handle) with
  | some text => .ok (text, r)
  | none =>
    if handle = "!!" then .ok (Node.coreTags, r)
    else if isHandle handle then .error ⟨"the handle wasn't declared", some m⟩
    else .ok (handle, r)

structure Properties where
  anchor : Option Nat
  tag : Option (String × String)

def readAnchor : Reader (Option Nat) := do
  match (← peek).token with
  | .anchor name =>
    skip
    return some (← newAnchor name)
  | _ => return none

def readTag (m : Mark) : Reader (Option (String × String)) := do
  match (← peek).token with
  | .tag handle suffix =>
    skip
    return some (← tagPrefix m handle suffix, suffix)
  | _ => return none

def readProperties : Reader Properties := do
  let m := (← peek).mark
  match ← readAnchor with
  | some n => return ⟨some n, ← readTag m⟩
  | none =>
    match ← readTag m with
    | some tag => return ⟨← readAnchor, some tag⟩
    | none => return ⟨none, none⟩

def scalar (p : Properties) (text : String) (isPlain : Bool) : Node :=
  if isPlain then
    match p.tag with
    | some (start, suffix) => .ofTagged start suffix text
    | none => .ofPlain text
  else .text text

/-- Adds an entry to those before, which are in reverse order. No key should stand twice. -/
def addEntry (entries : List (Node × Node)) (key value : Node) :
    Reader (List (Node × Node)) := do
  let told := key.told
  if entries.any fun e => e.1.told == told then
    modify fun r =>
      { r with flaw := r.flaw.or (some ⟨told ++ ": duplicated key in mapping", some r.last⟩) }
  return (key, value) :: entries

def mappingOf (entries : List (Node × Node)) : Node := .mapping entries.reverse

def sequenceOf (items : List Node) : Node := .sequence items.reverse

def endsEntry : Token → Bool
  | .key => true
  | .value => true
  | .blockEnd => true
  | _ => false

def endsFlowEntry : Flow → Token → Bool
  | _, .flowEntry => true
  | .sequence, .flowSequenceEnd => true
  | .mapping, .flowMappingEnd => true
  | _, _ => false

def isValue : Token → Bool
  | .value => true
  | _ => false

mutual

/-- Reads a node. The first number bounds how far the reader goes; in `block` a block may begin, and
in a mapping a sequence may stand without indentation. -/
def readNode : Nat → Bool → Bool → Reader Node
  | 0, _, _ => do fault (← peek).mark "recursion limit exceeded"
  | n + 1, block, inMapping => do
    let p ← peek
    match p.token with
    | .alias name =>
      skip
      named p.mark name
    | _ =>
      let properties ← readProperties
      let value ← readContent n properties block inMapping
      match properties.anchor with
      | some a =>
        modify fun r => { r with nodes := (a, value) :: r.nodes }
        return value
      | none => return value

def readContent : Nat → Properties → Bool → Bool → Reader Node
  | 0, _, _, _ => do fault (← peek).mark "recursion limit exceeded"
  | n + 1, properties, block, inMapping => do
    let p ← peek
    match p.token, block, inMapping with
    | .entry, _, true => readEntries n false []
    | .scalar text isPlain, _, _ =>
      skip
      return scalar properties text isPlain
    | .flowSequenceStart, _, _ =>
      skip
      readFlowItems n true []
    | .flowMappingStart, _, _ =>
      skip
      readFlowEntries n true []
    | .sequenceStart, true, _ =>
      skip
      readEntries n true []
    | .mappingStart, true, _ =>
      skip
      readMapping n []
    | _, _, _ =>
      if properties.tag.isSome || properties.anchor.isSome then
        place p.mark
        return scalar properties "" true
      else fault p.mark "while parsing a node, did not find expected node content"

def readEntries : Nat → Bool → List Node → Reader Node
  | 0, _, _ => do fault (← peek).mark "recursion limit exceeded"
  | n + 1, indented, items => do
    let p ← peek
    match p.token, indented with
    | .entry, _ =>
      skip
      let nothing := match (← peek).token with
        | .entry => true
        | .blockEnd => true
        | t => !indented && endsEntry t
      let item ← if nothing then missingHere else readNode n true false
      readEntries n indented (item :: items)
    | .blockEnd, true =>
      skip
      return sequenceOf items
    | _, true =>
      fault p.mark "while parsing a block collection, did not find expected '-' indicator"
    | _, false =>
      place p.mark
      return sequenceOf items

def readMapping : Nat → List (Node × Node) → Reader Node
  | 0, _ => do fault (← peek).mark "recursion limit exceeded"
  | n + 1, entries => do
    let p ← peek
    match p.token with
    | .key =>
      skip
      let key ← if endsEntry (← peek).token then missingHere else readNode n true true
      let value ← readBlockValue n
      readMapping n (← addEntry entries key value)
    | .value =>
      let value ← readBlockValue n
      readMapping n (← addEntry entries .absent value)
    | .blockEnd =>
      skip
      return mappingOf entries
    | _ => fault p.mark "while parsing a block mapping, did not find expected key"

def readBlockValue : Nat → Reader Node
  | 0 => do fault (← peek).mark "recursion limit exceeded"
  | n + 1 => do
    let p ← peek
    if isValue p.token then
      skip
      if endsEntry (← peek).token then missing p.mark else readNode n true true
    else missing p.mark

def readFlowItems : Nat → Bool → List Node → Reader Node
  | 0, _, _ => do fault (← peek).mark "recursion limit exceeded"
  | n + 1, first, items => do
    let p ← peek
    match p.token, first with
    | .flowSequenceEnd, _ =>
      skip
      return sequenceOf items
    | .flowEntry, false => skip
    | _, false => fault p.mark "while parsing a flow sequence, expected ',' or ']'"
    | _, true => pure ()
    match (← peek).token with
    | .flowSequenceEnd =>
      skip
      return sequenceOf items
    | .key =>
      skip
      let key ← readFlowKey n .sequence
      let value ← readFlowValue n .sequence
      readFlowItems n false (mappingOf [(key, value)] :: items)
    | .value =>
      let value ← readFlowValue n .sequence
      readFlowItems n false (mappingOf [(.absent, value)] :: items)
    | _ =>
      let item ← readNode n false false
      readFlowItems n false (item :: items)

def readFlowEntries : Nat → Bool → List (Node × Node) → Reader Node
  | 0, _, _ => do fault (← peek).mark "recursion limit exceeded"
  | n + 1, first, entries => do
    let p ← peek
    match p.token, first with
    | .flowMappingEnd, _ =>
      skip
      return mappingOf entries
    | .flowEntry, false => skip
    | _, false => fault p.mark "while parsing a flow mapping, did not find expected ',' or '\x7d'"
    | _, true => pure ()
    match (← peek).token with
    | .flowMappingEnd =>
      skip
      return mappingOf entries
    | .key =>
      skip
      let key ← readFlowKey n .mapping
      let value ← readFlowValue n .mapping
      readFlowEntries n false (← addEntry entries key value)
    | .value =>
      let value ← readFlowValue n .mapping
      readFlowEntries n false (← addEntry entries .absent value)
    | _ =>
      let key ← readNode n false false
      let value ← missingHere
      readFlowEntries n false (← addEntry entries key value)

def readFlowKey : Nat → Flow → Reader Node
  | 0, _ => do fault (← peek).mark "recursion limit exceeded"
  | n + 1, flow => do
    let t := (← peek).token
    if isValue t || endsFlowEntry flow t then missingHere else readNode n false false

def readFlowValue : Nat → Flow → Reader Node
  | 0, _ => do fault (← peek).mark "recursion limit exceeded"
  | n + 1, flow => do
    let p ← peek
    if isValue p.token then
      skip
      if endsFlowEntry flow (← peek).token then missing p.mark else readNode n false false
    else missing p.mark

end

/-! Documents -/

/-- Reads the directives before a document, of which the last counts for the tags; the flag says
that a version was told. -/
def readDirectives : Nat → Bool → Reader Unit
  | 0, _ => return ()
  | n + 1, versioned => do
    let p ← peek
    match p.token with
    | .version =>
      if versioned then fault p.mark "duplicate version directive"
      else
        modify fun r => { r with tagPrefixes := [] }
        skip
        readDirectives n true
    | .tagPrefix handle text =>
      modify fun r => { r with tagPrefixes := [(handle, text)] }
      skip
      readDirectives n versioned
    | _ => return ()

/-- Reads a document that begins with a mark or, if it may be `implied`, without. -/
def readDocument (n : Nat) (implied : Bool) : Reader Node := do
  modify fun r => { r with anchors := [], nodes := [] }
  readDirectives n false
  let p ← peek
  match p.token with
  | .documentStart =>
    skip
    match (← peek).token with
    | .version => missingHere
    | .tagPrefix _ _ => missingHere
    | .documentStart => missingHere
    | .documentEnd => missingHere
    | .textEnd => missingHere
    | _ => readNode n true false
  | _ =>
    if implied then readNode n true false
    else fault p.mark "did not find expected <document start>"

def isDirective : Token → Bool
  | .version => true
  | .tagPrefix _ _ => true
  | _ => false

def readDocuments : Nat → Bool → List Node → Reader (List Node)
  | 0, _, documents => return documents
  | n + 1, implied, documents => do
    let p ← peek
    match p.token with
    | .documentEnd =>
      skip
      readDocuments n implied documents
    | .textEnd => return documents
    | t =>
      let document ← readDocument n (implied && !isDirective t)
      modify fun r => { r with tagPrefixes := [] }
      let p ← peek
      match p.token with
      | .documentEnd =>
        skip
        readDocuments n true (document :: documents)
      | t =>
        if isDirective t then
          fault p.mark "missing explicit document end marker before directive"
        else readDocuments n false (document :: documents)

end Reader

/-- The setting that the only document of a YAML text spells; an empty text is an empty table. -/
def ofText (text : String) : Except Fault Setting := do
  let (tokens, fault) := Yaml.tokens text
  let start : Reading := ⟨tokens, fault, [], [], [], ⟨0, 1, 0⟩, none⟩
  let (documents, r) ← (Reader.readDocuments (4 * tokens.length + 16) true []).run start
  match r.flaw, documents with
  | some flaw, _ => .error flaw
  | none, [] => .ok (.table [])
  | none, [document] => document.setting
  | none, _ =>
    .error ⟨"Got " ++ toString documents.length ++ " YAML documents, expected 1", none⟩

end DocSections.Yaml
