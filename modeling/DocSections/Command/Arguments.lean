import DocSections.Catalog.Family
import DocSections.Setting.Environment

/-! The command line: options of the whole program, then a command with options of its own. -/

namespace DocSections

inductive Command where
  | verify
  | validate (family : UInt32) (documentType : DocumentType) (sectionId : Option String)
      (file : String)
  | describe (family : UInt32) (documentType : DocumentType)
deriving DecidableEq, Repr

structure Invocation where
  configFile : Option String
  catalogPath : Option String
  command : Command
deriving DecidableEq, Repr

/-- Why arguments make no invocation: help is asked for, or they are used wrongly. -/
inductive Refusal where
  | help (text : String)
  | wrongUsage
deriving DecidableEq, Repr

namespace Arguments

structure OptionRule where
  short : Option Char
  long : String
  accepts : String → Bool

structure Grammar where
  options : List OptionRule
  /-- At the first free argument the rest is left to another grammar. -/
  endsAtFree : Bool
  takesFile : Bool
  help : String

/-- What was gathered: option values by the long names of the options, and the free argument. After
`escaped` all arguments are free. -/
structure Gathered where
  values : List (String × String) := []
  file : Option String := none
  escaped : Bool := false
  waiting : Option OptionRule := none

def familyOf? (value : String) : Option UInt32 :=
  match Setting.integer? value.toList with
  | some (.ofNat n) => if n < UInt32.size then some (.ofNat n) else none
  | _ => none

def isFamily (value : String) : Bool := (familyOf? value).isSome

def isDocumentType (value : String) : Bool :=
  (Vocabulary.ofWord? value : Option DocumentType).isSome

def isText (_ : String) : Bool := true

def isPath (value : String) : Bool := value != ""

/-- Whether an argument is no value. A hyphen alone is one. -/
def isFlag (a : String) : Bool := a.toList.head? == some '-' && a != "-"

def Gathered.take (s : Gathered) (o : OptionRule) (value : String) : Except Refusal Gathered :=
  if s.values.any (·.1 == o.long) || !o.accepts value then .error .wrongUsage
  else .ok { s with values := s.values ++ [(o.long, value)], waiting := none }

def longOption (g : Grammar) (s : Gathered) (cs : List Char) : Except Refusal Gathered :=
  let name := String.ofList (cs.takeWhile (· != '='))
  match g.options.find? (·.long == name), cs.dropWhile (· != '=') with
  | some o, _ :: value => s.take o (String.ofList value)
  | some o, [] => .ok { s with waiting := some o }
  | none, [] => .error (if name = "help" then .help g.help else .wrongUsage)
  | none, _ => .error .wrongUsage

def shortOption (g : Grammar) (s : Gathered) (name : Char) (rest : List Char) :
    Except Refusal Gathered :=
  match g.options.find? (·.short == some name), rest with
  | some o, [] => .ok { s with waiting := some o }
  | some o, '=' :: value => s.take o (String.ofList value)
  | some o, value => s.take o (String.ofList value)
  | none, _ => .error (if name = 'h' then .help g.help else .wrongUsage)

def flag (g : Grammar) (s : Gathered) (a : String) : Except Refusal Gathered :=
  match a.toList with
  | '-' :: '-' :: [] => .ok { s with escaped := true }
  | '-' :: '-' :: cs => longOption g s cs
  | '-' :: c :: rest => shortOption g s c rest
  | _ => .error .wrongUsage

def free (g : Grammar) (s : Gathered) (a : String) : Except Refusal Gathered :=
  if g.takesFile && s.file.isNone && isPath a then .ok { s with file := some a }
  else .error .wrongUsage

/-- Reads arguments from left to right, and gives those that are left to another grammar. -/
def gather (g : Grammar) (s : Gathered) : List String → Except Refusal (Gathered × List String)
  | [] => if s.waiting.isSome then .error .wrongUsage else .ok (s, [])
  | a :: rest =>
    match s.waiting with
    | some o =>
      if isFlag a then .error .wrongUsage
      else do gather g (← s.take o a) rest
    | none =>
      if !s.escaped && isFlag a then do gather g (← flag g s a) rest
      else if g.endsAtFree && !s.escaped then .ok (s, a :: rest)
      else do gather g (← free g s a) rest

def familyRule : OptionRule := ⟨some 'f', "family", isFamily⟩

def documentTypeRule : OptionRule := ⟨some 'd', "doc-type", isDocumentType⟩

def programHelp : String :=
  "Verify the section catalog and validate section content\n\n" ++
  "Usage: schema-check [OPTIONS] <COMMAND>\n\n" ++
  "Commands:\n" ++
  "  verify    Check every section has a factory and compose all families\n" ++
  "  validate  Validate a JSON content file against a family or one section\n" ++
  "  describe  Print the JSON Schema of a family\n" ++
  "  help      Print this message or the help of the given subcommand(s)\n\n" ++
  "Options:\n" ++
  "  -c, --config <CONFIG>    Config file layered over the default locations\n" ++
  "      --catalog <CATALOG>  Catalog directory (overrides config; embedded catalog when " ++
  "unset)\n" ++
  "  -h, --help               Print help\n"

def verifyHelp : String :=
  "Check every section has a factory and compose all families\n\n" ++
  "Usage: schema-check verify\n\n" ++
  "Options:\n" ++
  "  -h, --help  Print help\n"

def validateHelp : String :=
  "Validate a JSON content file against a family or one section\n\n" ++
  "Usage: schema-check validate [OPTIONS] --family <FAMILY> --doc-type <DOC_TYPE> <FILE>\n\n" ++
  "Arguments:\n" ++
  "  <FILE>  JSON content file\n\n" ++
  "Options:\n" ++
  "  -f, --family <FAMILY>      Family id\n" ++
  "  -d, --doc-type <DOC_TYPE>  Document type (plan or task)\n" ++
  "  -s, --section <SECTION>    Validate a single section by dotted id\n" ++
  "  -h, --help                 Print help\n"

def describeHelp : String :=
  "Print the JSON Schema of a family\n\n" ++
  "Usage: schema-check describe --family <FAMILY> --doc-type <DOC_TYPE>\n\n" ++
  "Options:\n" ++
  "  -f, --family <FAMILY>      Family id\n" ++
  "  -d, --doc-type <DOC_TYPE>  Document type (plan or task)\n" ++
  "  -h, --help                 Print help\n"

def helpHelp : String :=
  "Print this message or the help of the given subcommand(s)\n\n" ++
  "Usage: schema-check help [COMMAND]...\n\n" ++
  "Arguments:\n" ++
  "  [COMMAND]...  Print help for the subcommand(s)\n"

def programGrammar : Grammar :=
  ⟨[⟨some 'c', "config", isText⟩, ⟨none, "catalog", isPath⟩], true, false, programHelp⟩

def verifyGrammar : Grammar := ⟨[], false, false, verifyHelp⟩

def validateGrammar : Grammar :=
  ⟨[familyRule, documentTypeRule, ⟨some 's', "section", isText⟩], false, true, validateHelp⟩

def describeGrammar : Grammar := ⟨[familyRule, documentTypeRule], false, false, describeHelp⟩

def helpFor : List String → Refusal
  | [] => .help programHelp
  | ["verify"] => .help verifyHelp
  | ["validate"] => .help validateHelp
  | ["describe"] => .help describeHelp
  | ["help"] => .help helpHelp
  | _ => .wrongUsage

def Gathered.value? (s : Gathered) (long : String) : Option String := s.values.lookup long

def Gathered.family? (s : Gathered) : Option UInt32 := (s.value? "family").bind familyOf?

def Gathered.documentType? (s : Gathered) : Option DocumentType :=
  (s.value? "doc-type").bind Vocabulary.ofWord?

def orWrong {α : Type} (o : Option α) : Except Refusal α :=
  match o with
  | some a => .ok a
  | none => .error .wrongUsage

def command (name : String) (args : List String) : Except Refusal Command :=
  if name = "verify" then do
    let _ ← gather verifyGrammar {} args
    .ok .verify
  else if name = "validate" then do
    let (s, _) ← gather validateGrammar {} args
    .ok (.validate (← orWrong s.family?) (← orWrong s.documentType?) (s.value? "section")
      (← orWrong s.file))
  else if name = "describe" then do
    let (s, _) ← gather describeGrammar {} args
    .ok (.describe (← orWrong s.family?) (← orWrong s.documentType?))
  else .error (if name = "help" then helpFor args else .wrongUsage)

end Arguments

def Invocation.ofArguments (args : List String) : Except Refusal Invocation := do
  match ← Arguments.gather Arguments.programGrammar {} args with
  | (s, name :: rest) =>
    .ok ⟨s.value? "config", s.value? "catalog", ← Arguments.command name rest⟩
  | (_, []) => .error .wrongUsage

end DocSections
