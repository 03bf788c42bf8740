import DocSections.Command.Arguments
import DocSections.Compose.Lookup
import DocSections.Config.Load

/-! Running a command: what it prints, and the code it ends with. -/

namespace DocSections

/-- What a program run leaves: its exit code and the texts on the two output streams. -/
structure RunResult where
  code : UInt32
  output : String
  errors : String
deriving DecidableEq, Repr

inductive CommandFault where
  | config (fault : ConfigFault)
  | catalog (fault : CatalogFault)
  | schema (fault : SchemaFault)
  | unreadable (path : String) (fault : PathFault)
  | malformed (path : String) (line : Nat)
  | omitted (id : String) (documentType : DocumentType)
deriving DecidableEq, Repr

def CommandFault.message : CommandFault → String
  | config fault => "loading configuration: " ++ fault.message
  | catalog fault => fault.message
  | schema fault => fault.message
  | unreadable path fault => "reading " ++ path ++ ": " ++ fault.message
  | malformed path line =>
    "parsing " ++ path ++ ": no JSON value in the text that begins at line " ++ toString line
  | omitted id d => "Section " ++ id ++ " is omitted for " ++ d.name ++ " documents"

namespace RunResult

def success (output : String) : RunResult := ⟨0, output, ""⟩

/-- A fault ends the run; what was printed before stays. -/
def failure (output : String) (fault : CommandFault) : RunResult :=
  ⟨1, output, "Error: " ++ fault.message ++ "\n"⟩

def ofExcept : Except CommandFault RunResult → RunResult
  | .ok r => r
  | .error fault => failure "" fault

end RunResult

namespace Command

structure Setup where
  files : Files
  config : Config
  catalog : Catalog

/-! Verifying -/

def verifyHeading (c : Catalog) : String :=
  "🔍 Verifying catalog (" ++ toString c.size ++ " families, " ++
    String.ofList (c.fingerprint.toList.take 12) ++ ")\n"

/-- The line on a family and a document type; the family is composed if it applies. -/
def familyLine (f : Family) (d : DocumentType) : Composition String :=
  let name := toString f.id.toNat ++ " " ++ d.name
  if f.appliesTo d then do
    let s ← Registry.builtin.composeFamily f d
    .ok ("  ✅ " ++ name ++ " (" ++ f.name ++ ") - " ++ toString s.keys.length ++ " keys, " ++
      toString s.byId.size ++ " sections\n")
  else .ok ("  ⏭️  " ++ name ++ " - omitted\n")

def familyLines : List (Family × DocumentType) → String × Option CompositionFault
  | [] => ("", none)
  | (f, d) :: rest =>
    match familyLine f d with
    | .error fault => ("", some fault)
    | .ok line =>
      let others := familyLines rest
      (line ++ others.1, others.2)

def pairs (c : Catalog) : List (Family × DocumentType) :=
  c.families.flatMap fun f => (Vocabulary.values : List DocumentType).map fun d => (f, d)

/-- Verifies the catalog unless that was done when it was loaded, and composes all families. -/
def runVerify (s : Setup) : RunResult :=
  let heading := verifyHeading s.catalog
  match (if s.config.verify then .ok () else Registry.builtin.verify s.catalog) with
  | .error fault => .failure heading (.schema (.composition fault))
  | .ok () =>
    match familyLines (pairs s.catalog) with
    | (lines, some fault) => .failure (heading ++ lines) (.schema (.composition fault))
    | (lines, none) => .success (heading ++ lines ++ "\n✅ Catalog and factories agree\n")

/-! Validating -/

def readContent (files : Files) (path : String) : Except CommandFault Json := do
  match files.readText path with
  | .error fault => .error (.unreadable path fault)
  | .ok text =>
    match Json.ofText? text with
    | none => .error (.malformed path (firstLine text))
    | some value => .ok value

def schemaOf (s : Setup) (family : UInt32) (d : DocumentType) :
    Except CommandFault FamilySchema :=
  (Registry.builtin.schemaOf s.catalog family d).mapError .schema

def check (s : Setup) (schema : FamilySchema) (sectionId : Option String) (content : Json) :
    Except CommandFault (Except (List Issue) Json) :=
  match sectionId with
  | none => .ok (schema.validate content)
  | some id =>
    match s.catalog.knownSection schema.family id with
    | .error fault => .error (.schema fault)
    | .ok _ =>
      match schema.validateSection? id content with
      | some r => .ok r
      | none => .error (.omitted id schema.documentType)

def issueReport (format : OutputFormat) (target : String) (d : DocumentType)
    (issues : List Issue) : String :=
  match format with
  | .pretty =>
    "❌ " ++ target ++ " (" ++ d.name ++ ") - " ++ toString issues.length ++ " issue(s)\n" ++
      String.join (issues.map fun i => "   └─ " ++ i.display ++ "\n")
  | .compact => (Json.arr (issues.map Issue.toJson)).compact ++ "\n"

def target (family : UInt32) (sectionId : Option String) : String :=
  sectionId.getD ("family " ++ toString family.toNat)

def report (s : Setup) (family : UInt32) (d : DocumentType) (sectionId : Option String) :
    Except (List Issue) Json → RunResult
  | .ok data =>
    .success ("✅ " ++ target family sectionId ++ " (" ++ d.name ++ ") - valid\n" ++
      s.config.outputFormat.render data ++ "\n")
  | .error issues =>
    ⟨1, issueReport s.config.outputFormat (target family sectionId) d issues, ""⟩

def runValidate (s : Setup) (family : UInt32) (d : DocumentType) (sectionId : Option String)
    (file : String) : Except CommandFault RunResult := do
  let content ← readContent s.files file
  let schema ← schemaOf s family d
  .ok (report s family d sectionId (← check s schema sectionId content))

/-! Describing -/

def runDescribe (s : Setup) (family : UInt32) (d : DocumentType) :
    Except CommandFault RunResult := do
  let schema ← schemaOf s family d
  .ok (.success (s.config.outputFormat.render schema.toJsonSchema ++ "\n"))

def run (s : Setup) : Command → RunResult
  | verify => runVerify s
  | validate family d sectionId file => .ofExcept (runValidate s family d sectionId file)
  | describe family d => .ofExcept (runDescribe s family d)

end Command

namespace Invocation

/-- The catalog of the command line takes the place of the configured one. -/
def configured (i : Invocation) (loaded : Config) : Config :=
  { loaded with catalogPath := i.catalogPath.or loaded.catalogPath }

def setup (i : Invocation) (files : Files) (e : Environment) :
    Except CommandFault Command.Setup := do
  let config := i.configured (← (Config.load files e i.configFile).mapError .config)
  let catalog ← (config.loadCatalog files).mapError .catalog
  .ok ⟨files, config, catalog⟩

def run (i : Invocation) (files : Files) (e : Environment) : RunResult :=
  match i.setup files e with
  | .error fault => .failure "" fault
  | .ok s => i.command.run s

end Invocation

/-- What the program does with its arguments. Wrong usage ends with a code of its own. -/
def runProgram (args : List String) (files : Files) (e : Environment) : RunResult :=
  match Invocation.ofArguments args with
  | .ok i => i.run files e
  | .error (.help text) => .success text
  | .error .wrongUsage => ⟨2, "", Arguments.programHelp⟩

end DocSections
