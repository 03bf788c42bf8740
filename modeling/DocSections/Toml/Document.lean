import DocSections.Setting.Basic
import DocSections.Toml.DateTime

/-! TOML documents while they are read. A table may be written in several places; how it came about
says whether it may be written to again. -/

namespace DocSections.Toml

/-- How a table came about: on the way to a table below it, by a dotted key, or by its header. -/
inductive Origin where
  | implied
  | dotted
  | declared
deriving DecidableEq, Repr

/-- Dates and times are told apart from texts until the document is read. -/
inductive Node where
  | value (v : Setting)
  | date (text : String)
  | table (origin : Origin) (entries : List (String × Node))
  | tables (elements : List (List (String × Node)))

instance : Inhabited Node := ⟨.value .unset⟩

abbrev Entries := List (String × Node)

/-- Writes a node at a key; a key that is there keeps its place. -/
def Entries.put (key : String) (node : Node) : Entries → Entries
  | [] => [(key, node)]
  | (k, n) :: rest => if k = key then (k, node) :: rest else (k, n) :: Entries.put key node rest

/-- A table whose first key is this one stands for the date or time that the text there gives. -/
def dateKey : String := "$__toml_private_datetime"

/-- The setting that a table stands for, given its entries as nodes and as settings. -/
def tableSetting? (entries : Entries) (settings : List (String × Setting)) : Option Setting :=
  match entries with
  | [] => some (.table [])
  | (key, node) :: _ =>
    if key = dateKey then
      match node with
      | .value (.scalar (.text s) _) => (dateTimeOfText? s).map .text
      | _ => none
    else some (.table (Assoc.ofPairs settings))

mutual

def Node.setting? : Node → Option Setting
  | .value v => some v
  | .date text => some (.text text)
  | .table _ entries => do tableSetting? entries (← settings? entries)
  | .tables elements => (tableSettings? elements).map .list

def settings? : List (String × Node) → Option (List (String × Setting))
  | [] => some []
  | (key, node) :: rest => do
    let s ← node.setting?
    some ((key, s) :: (← settings? rest))

def tableSettings? : List (List (String × Node)) → Option (List Setting)
  | [] => some []
  | entries :: rest => do
    let s ← tableSetting? entries (← settings? entries)
    some (s :: (← tableSettings? rest))

end

def Entries.setting? (entries : Entries) : Option Setting := do
  tableSetting? entries (← settings? entries)

def changeLast? {α : Type} (change : α → Option α) : List α → Option (List α)
  | [] => none
  | [a] => (change a).map fun b => [b]
  | a :: rest => (changeLast? change rest).map (a :: ·)

/-- Changes the entries of the table that `path` leads to from the headers above; the tables on the
way are implied where there are none. Of an array of tables the last one is meant. -/
def below? (change : Entries → Option Entries) : List String → Entries → Option Entries
  | [], entries => change entries
  | key :: path, entries => do
    let node ← match Assoc.find? key entries with
      | none => (below? change path []).map (.table .implied)
      | some (.value _) => none
      | some (.date _) => none
      | some (.table origin inner) => (below? change path inner).map (.table origin)
      | some (.tables elements) => (changeLast? (below? change path) elements).map .tables
    some (Entries.put key node entries)

/-- Writes the table that a header names, which must not have been written. -/
def declare? (key : String) (entries : Entries) : Option Entries :=
  match Assoc.find? key entries with
  | none => some (Entries.put key (.table .declared []) entries)
  | some (.table .implied inner) => some (Entries.put key (.table .declared inner) entries)
  | _ => none

def append? (key : String) (entries : Entries) : Option Entries :=
  match Assoc.find? key entries with
  | none => some (Entries.put key (.tables [[]]) entries)
  | some (.tables elements) => some (Entries.put key (.tables (elements ++ [[]])) entries)
  | _ => none

/-- Writes a value at a dotted key; no key is written twice. The table that takes the key has to be
new or written by dotted keys before. On the way to it stand no declared tables. -/
def assign? (v : Node) : List String → Entries → Option Entries
  | [], _ => none
  | [key], entries =>
    match Assoc.find? key entries with
    | none => some (Entries.put key v entries)
    | some _ => none
  | key :: next :: path, entries => do
    let node ← match Assoc.find? key entries with
      | none => (assign? v (next :: path) []).map (.table .dotted)
      | some (.table .dotted inner) => (assign? v (next :: path) inner).map (.table .dotted)
      | some (.table .implied inner) =>
        if path = [] then none else (assign? v (next :: path) inner).map (.table .implied)
      | some (.tables elements) =>
        if path = [] then none
        else (changeLast? (assign? v (next :: path)) elements).map .tables
      | _ => none
    some (Entries.put key node entries)

structure Document where
  entries : Entries
  header : List String

namespace Document

def empty : Document := ⟨[], []⟩

def under? (doc : Document) (repeated : Bool) (path : List String) : Option Document :=
  match path.getLast? with
  | none => none
  | some key => do
    let change := if repeated then append? key else declare? key
    some ⟨← below? change path.dropLast doc.entries, path⟩

def assign? (doc : Document) (key : List String) (v : Node) : Option Document := do
  some { doc with entries := ← below? (Toml.assign? v key) doc.header doc.entries }

end Document

end DocSections.Toml
