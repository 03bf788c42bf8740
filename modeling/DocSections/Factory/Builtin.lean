import DocSections.Factory.Basic

/-! The factories of the built-in families. -/

namespace DocSections

namespace Registry

open Shape

def fixed (shape : Shape) : Factory := .leaf fun _ => shape

def priority : Shape := wordOf Priority

def businessTable : List (String × Factory) :=
  [("1.1", .container),
   ("1.1.1", fixed text),
   ("1.1.2", fixed text),
   ("1.1.3", fixed textList),
   ("1.2", fixed textList),
   ("1.3", fixed (table [.required "name" text, .optional "persona" text,
      .required "steps" textList])),
   ("1.4", fixed (table [.required "name" text, .required "description" text,
      .optional "goals" textList])),
   ("1.5", fixed textList),
   ("1.6", fixed (table [.required "id" text, .required "title" text, .required "userStory" text,
      .required "acceptanceCriteria" textList, .optional "priority" priority])),
   ("1.7", fixed textList),
   ("1.8", fixed (table [.required "id" text, .required "criterion" text])),
   ("1.9", fixed textList),
   ("1.10", fixed textList),
   ("1.11", fixed (diagram .graph))]

/-- Tasks track the status of a dependency; plans may leave it out. -/
def dependencyStatus : DocumentType → Field
  | .task => .required "status" (wordOf DependencyStatus)
  | .plan => .optional "status" (wordOf DependencyStatus)

def planningTable : List (String × Factory) :=
  [("2.1", fixed (diagram .graph)),
   ("2.2", fixed (table [.required "id" text, .required "title" text, .optional "description" text,
      .required "priority" priority])),
   ("2.3", .leaf fun d => table [.required "id" text, .required "description" text,
      .required "type" (wordOf DependencyType), dependencyStatus d]),
   ("2.4", fixed (record [Field.required "level" priority, Field.optional "rationale" text])),
   ("2.5", fixed textList),
   ("2.6", fixed (table [.required "name" text, .optional "targetDate" text,
      .required "deliverables" textList]))]

def qualityTable : List (String × Factory) :=
  [("3.1", fixed (table [.required "risk" text, .required "impact" priority,
      .required "likelihood" priority, .required "mitigation" text])),
   ("3.2", fixed textList),
   ("3.3", fixed textList),
   ("3.4", .composite),
   ("3.4.1", fixed textList),
   ("3.4.2", fixed textList),
   ("3.4.3", fixed textList),
   ("3.5", fixed textList)]

def designTable : List (String × Factory) :=
  [("4.1", fixed textList),
   ("4.2", .composite),
   ("4.2.1", fixed (diagram .graph)),
   ("4.2.2", fixed (diagram .erDiagram)),
   ("4.2.3", fixed (diagram .classDiagram)),
   ("4.2.4", fixed (diagram .graph)),
   ("4.2.5", .composite),
   ("4.2.5.1", fixed (diagram .sequenceDiagram)),
   ("4.2.5.2", fixed (table [.required "system" text, .optional "protocol" text,
      .required "description" text])),
   ("4.3", fixed (table [.required "technology" text, .required "purpose" text,
      .required "rationale" text])),
   ("4.4", fixed (table [.required "option" text, .required "rejectionReason" text])),
   ("4.5", fixed textList)]

def builtin : Registry :=
  (((empty.withTable 1 (.ofPairs businessTable)).withTable 2 (.ofPairs planningTable)).withTable 3
    (.ofPairs qualityTable)).withTable 4 (.ofPairs designTable)

def builtinFactory? (id : String) : Option Factory :=
  (businessTable ++ planningTable ++ qualityTable ++ designTable).lookup id

end Registry

end DocSections
