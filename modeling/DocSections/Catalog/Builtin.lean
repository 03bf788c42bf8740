import DocSections.Catalog.Basic

/-! The built-in catalog. -/

namespace DocSections

namespace BuiltinCatalog

def overview : Section where
  id := "1.1"
  name := "Overview"
  level := 2
  applicability := .of .required .required
  format := .container
  description :=
    "Short framing of the document. Sub-sections are free-form and validated individually."
  examples := [
    { content := .of (
        .obj [
          ("problemStatement", .str (
            "Finance staff spend two days each month assembling invoice archives by hand.")),
          ("summary", .str "Introduce a self-service export of monthly invoices.")]) }]

def summary : Section where
  id := "1.1.1"
  name := "Summary"
  level := 3
  applicability := .of .required .required
  format := .text
  description := "One or two sentences describing the outcome."
  examples := [
    { content := .of (.str "Introduce a self-service export of monthly invoices.") }]

def problemStatement : Section where
  id := "1.1.2"
  name := "Problem Statement"
  level := 3
  applicability := .of .required .optional
  format := .text
  description := "The pain being addressed, stated without reference to a solution."
  examples := [
    { content := .of (
        .str "Finance staff spend two days each month assembling invoice archives by hand.") }]

def goals : Section where
  id := "1.1.3"
  name := "Goals"
  level := 3
  applicability := .of .required .omitted
  format := .list
  description := "Measurable goals of the initiative."
  examples := [
    { content := .of (
        .arr [
          .str "Reduce month-end archive preparation to under one hour",
          .str "Remove manual spreadsheet handling of invoice data"]) }]

def businessContext : Section where
  id := "1.2"
  name := "Business Context"
  level := 2
  applicability := .of .required .omitted
  format := .list
  description := "Market, organisational or regulatory background."
  examples := [
    { content := .of (
        .arr [
          .str "Auditors request invoice archives within five business days of month end",
          .str "The billing team is growing faster than finance headcount"]) }]

def userJourneys : Section where
  id := "1.3"
  name := "User Journeys"
  level := 2
  applicability := .of .required .omitted
  format := .table
  description := "End-to-end paths a user takes through the feature."
  fields := [
    { name := "name", required := true },
    { name := "persona" },
    { name := "steps", required := true }]
  examples := [
    { content := .of (
        .arr [
          .obj [
            ("name", .str "Month-end archive"),
            ("persona", .str "Finance Analyst"),
            ("steps", .arr [
              .str "Open the invoices page",
              .str "Choose the billing month",
              .str "Download the generated archive"])]]) }]

def userPersonas : Section where
  id := "1.4"
  name := "User Personas"
  level := 2
  applicability := .of .required .omitted
  format := .table
  fields := [
    { name := "name", required := true },
    { name := "description", required := true },
    { name := "goals" }]
  examples := [
    { content := .of (
        .arr [
          .obj [
            ("description", .str "Prepares month-end reports and answers auditor requests."),
            ("goals", .arr [.str "Close the month on time"]),
            ("name", .str "Finance Analyst")]]) }]

def coreBusinessRules : Section where
  id := "1.5"
  name := "Core Business Rules"
  level := 2
  applicability := .of .required .required
  format := .list
  description := "Invariants the business relies on, independent of implementation."
  examples := [
    { content := .of (
        .arr [
          .str "An invoice belongs to exactly one billing month",
          .str "Voided invoices are included in archives and marked as void"]) }]

def userStories : Section where
  id := "1.6"
  name := "User Stories"
  level := 2
  applicability := .of .required .omitted
  format := .table
  fields := [
    { name := "id", required := true },
    { name := "title", required := true },
    { name := "userStory", required := true },
    { name := "acceptanceCriteria", required := true },
    { name := "priority" }]
  examples := [
    { content := .of (
        .arr [
          .obj [
            ("acceptanceCriteria", .arr [
              .str "The archive contains every invoice issued in the month",
              .str "The download starts within ten seconds"]),
            ("id", .str "US-1"),
            ("priority", .str "High"),
            ("title", .str "Download monthly archive"),
            ("userStory", .str (
              "As a finance analyst, I want to download all invoices for a month, so that I " ++
              "can hand them to auditors."))]]) }]

def successCriteria : Section where
  id := "1.7"
  name := "Success Criteria"
  level := 2
  applicability := .of .required .omitted
  format := .list
  examples := [
    { content := .of (
        .arr [
          .str "Ninety percent of month-end archives are self-served within one quarter"]) }]

def definitionOfDone : Section where
  id := "1.8"
  name := "Definition of Done"
  level := 2
  applicability := .of .omitted .required
  format := .table
  fields := [
    { name := "id", required := true },
    { name := "criterion", required := true }]
  examples := [
    { content := .of (
        .arr [
          .obj [
            ("criterion", .str "Archive endpoint is covered by integration tests"),
            ("id", .str "DoD-1")],
          .obj [
            ("criterion", .str "Runbook updated with archive troubleshooting steps"),
            ("id", .str "DoD-2")]]) }]

def inScope : Section where
  id := "1.9"
  name := "In Scope"
  level := 2
  applicability := .of .required .optional
  format := .list
  examples := [
    { content := .of (.arr [.str "PDF invoices", .str "Monthly archives"]) }]

def outOfScope : Section where
  id := "1.10"
  name := "Out of Scope"
  level := 2
  applicability := .of .required .optional
  format := .list
  examples := [
    { content := .of (.arr [.str "Credit notes", .str "Custom date ranges"]) }]

def coreBusinessProcesses : Section where
  id := "1.11"
  name := "Core Business Processes"
  level := 2
  applicability := .of .optional .omitted
  format := .diagram
  description := "Flow of the business process, as a Mermaid flow graph or prose."
  examples := [
    { content := .of (
        .obj [
          ("diagram", .str (
            "graph TD\n  Issue[Issue invoice] --> Close[Close month]\n  Close --> " ++
            "Archive[Build archive]"))]) },
    { description := some "Prose only",
      content := .of (
        .obj [
          ("text", .arr [
            .str "Invoices are issued daily and archived after the month is closed."])]) }]

def businessScope : Family where
  id := 1
  name := "Business & Scope"
  anchor := "business-scope"
  rationale := some (
      "Establishes why the work exists, who it serves and where its boundaries lie before " ++
      "any design is discussed.")
  applicability := .of .required .required
  sections := [
    overview, summary, problemStatement, goals, businessContext, userJourneys, userPersonas,
    coreBusinessRules, userStories, successCriteria, definitionOfDone, inScope, outOfScope,
    coreBusinessProcesses]

def decompositionGraph : Section where
  id := "2.1"
  name := "Decomposition Graph"
  level := 2
  applicability := .of .required .optional
  format := .diagram
  description := "How the work splits into tasks, as a Mermaid flow graph."
  examples := [
    { content := .of (
        .obj [
          ("diagram", .str (
            "graph LR\n  Plan[Invoice export] --> T1[Archive builder]\n  Plan --> " ++
            "T2[Download endpoint]")),
          ("text", .arr [
            .str "The archive builder must land before the endpoint is exposed."])]) }]

def workBreakdown : Section where
  id := "2.2"
  name := "Work Breakdown"
  level := 2
  applicability := .of .required .omitted
  format := .table
  fields := [
    { name := "id", required := true },
    { name := "title", required := true },
    { name := "description" },
    { name := "priority", required := true }]
  examples := [
    { content := .of (
        .arr [
          .obj [
            ("description", .str "Collect and zip invoices for a month."),
            ("id", .str "T1"),
            ("priority", .str "High"),
            ("title", .str "Archive builder")],
          .obj [
            ("id", .str "T2"),
            ("priority", .str "Medium"),
            ("title", .str "Download endpoint")]]) }]

def dependencies : Section where
  id := "2.3"
  name := "Dependencies"
  level := 2
  applicability := .of .optional .optional
  format := .table
  description := "Work this depends on. Tasks track the status of each dependency."
  fields := [
    { name := "id", required := true },
    { name := "description", required := true },
    { name := "type", required := true },
    { name := "status" }]
  examples := [
    { content := .of (
        .arr [
          .obj [
            ("description", .str "Object storage bucket for archives"),
            ("id", .str "D1"),
            ("status", .str "In Progress"),
            ("type", .str "External")],
          .obj [
            ("description", .str "Invoice query API"),
            ("id", .str "D2"),
            ("status", .str "Complete"),
            ("type", .str "Internal")]]) }]

def priority : Section where
  id := "2.4"
  name := "Priority"
  level := 2
  applicability := .of .omitted .required
  format := .composite
  fields := [
    { name := "level", required := true },
    { name := "rationale" }]
  examples := [
    { content := .of (
        .obj [("level", .str "High"), ("rationale", .str "Blocks the next audit cycle.")]) }]

def implementationSteps : Section where
  id := "2.5"
  name := "Implementation Steps"
  level := 2
  applicability := .of .omitted .required
  format := .list
  examples := [
    { content := .of (
        .arr [
          .str "Add an archive job that streams invoices into a zip file",
          .str "Upload the archive to object storage",
          .str "Return a signed download link"]) }]

def milestones : Section where
  id := "2.6"
  name := "Milestones"
  level := 2
  applicability := .of .optional .omitted
  format := .table
  fields := [
    { name := "name", required := true },
    { name := "targetDate" },
    { name := "deliverables", required := true }]
  examples := [
    { content := .of (
        .arr [
          .obj [
            ("deliverables", .arr [.str "Archive builder", .str "Download endpoint"]),
            ("name", .str "Internal beta"),
            ("targetDate", .str "2025-03-01")]]) }]

def planningDecomposition : Family where
  id := 2
  name := "Planning & Decomposition"
  anchor := "planning-decomposition"
  rationale := some (
      "Breaks the work into tracked pieces with explicit ordering and dependencies.")
  applicability := .of .required .required
  sections := [
    decompositionGraph, workBreakdown, dependencies, priority, implementationSteps, milestones]

def risks : Section where
  id := "3.1"
  name := "Risks"
  level := 2
  applicability := .of .required .optional
  format := .table
  fields := [
    { name := "risk", required := true },
    { name := "impact", required := true },
    { name := "likelihood", required := true },
    { name := "mitigation", required := true }]
  examples := [
    { content := .of (
        .arr [
          .obj [
            ("impact", .str "High"),
            ("likelihood", .str "Medium"),
            ("mitigation", .str "Build archives asynchronously and notify when ready"),
            ("risk", .str "Archives for large customers exceed request timeouts")]]) }]

def assumptions : Section where
  id := "3.2"
  name := "Assumptions"
  level := 2
  applicability := .of .optional .optional
  format := .list
  examples := [
    { content := .of (.arr [.str "Invoices are immutable once issued"]) }]

def constraints : Section where
  id := "3.3"
  name := "Constraints"
  level := 2
  applicability := .of .optional .optional
  format := .list
  examples := [
    { content := .of (.arr [.str "Archives must be retained for seven years"]) }]

def testingStrategy : Section where
  id := "3.4"
  name := "Testing Strategy"
  level := 2
  applicability := .of .required .required
  format := .composite
  description := "How the change is verified, split by test level."
  examples := [
    { content := .of (
        .obj [
          ("integrationTests", .arr [
            .str "Endpoint returns a signed link for an existing archive"]),
          ("unitTests", .arr [.str "Archive builder groups invoices by billing month"])]) },
    { documentType := some .plan,
      description := some "Plans may also describe acceptance testing",
      content := .of (
        .obj [
          ("acceptanceTests", .arr [
            .str "Finance analyst downloads the March archive in staging"]),
          ("unitTests", .arr [.str "Archive builder groups invoices by billing month"])]) }]

def unitTests : Section where
  id := "3.4.1"
  name := "Unit Tests"
  level := 3
  applicability := .of .required .required
  format := .list
  examples := [
    { content := .of (.arr [.str "Archive builder groups invoices by billing month"]) }]

def integrationTests : Section where
  id := "3.4.2"
  name := "Integration Tests"
  level := 3
  applicability := .of .optional .optional
  format := .list
  examples := [
    { content := .of (.arr [.str "Endpoint returns a signed link for an existing archive"]) }]

def acceptanceTests : Section where
  id := "3.4.3"
  name := "Acceptance Tests"
  level := 3
  applicability := .of .optional .omitted
  format := .list
  examples := [
    { content := .of (.arr [.str "Finance analyst downloads the March archive in staging"]) }]

def openQuestions : Section where
  id := "3.5"
  name := "Open Questions"
  level := 2
  applicability := .of .optional .optional
  format := .list
  examples := [
    { content := .of (.arr [.str "Should archives include attachments uploaded by customers?"]) }]

def qualityRisk : Family where
  id := 3
  name := "Quality & Risk"
  anchor := "quality-risk"
  rationale := some "Makes risks, assumptions and the verification approach explicit."
  applicability := .of .required .required
  sections := [
    risks, assumptions, constraints, testingStrategy, unitTests, integrationTests, acceptanceTests,
    openQuestions]

def guidingPrinciples : Section where
  id := "4.1"
  name := "Guiding Principles"
  level := 2
  applicability := .of .required .omitted
  format := .list
  examples := [
    { content := .of (
        .arr [.str "Prefer asynchronous jobs for anything proportional to customer size"]) }]

def targetArchitecture : Section where
  id := "4.2"
  name := "Target Architecture"
  level := 2
  applicability := .of .required .optional
  format := .composite
  examples := [
    { content := .of (
        .obj [
          ("architectureOverview", .obj [
            ("diagram", .str "graph TD\n  UI --> API\n  API --> Jobs\n  Jobs --> Storage")]),
          ("dataModels", .obj [
            ("diagram", .str (
              "erDiagram\n  INVOICE ||--o\x7b ARCHIVE_ENTRY : \"included in\""))])]) },
    { documentType := some .plan,
      description := some "Plans describe data flow and interactions as well",
      content := .of (
        .obj [
          ("architectureOverview", .obj [
            ("text", .arr [.str "A job service builds archives behind the existing API."])]),
          ("dataFlow", .obj [
            ("diagram", .str "graph LR\n  Invoices --> Builder --> Storage")]),
          ("interactions", .obj [
            ("controlFlow", .obj [
              ("diagram", .str (
                "sequenceDiagram\n  UI->>API: request archive\n  API->>Jobs: enqueue"))])])]) }]

def architectureOverview : Section where
  id := "4.2.1"
  name := "Architecture Overview"
  level := 3
  applicability := .of .required .optional
  format := .diagram
  examples := [
    { content := .of (
        .obj [
          ("diagram", .str "graph TD\n  UI --> API\n  API --> Jobs\n  Jobs --> Storage")]) }]

def dataModels : Section where
  id := "4.2.2"
  name := "Data Models"
  level := 3
  applicability := .of .optional .optional
  format := .diagram
  examples := [
    { content := .of (
        .obj [
          ("diagram", .str (
            "erDiagram\n  INVOICE ||--o\x7b ARCHIVE_ENTRY : \"included in\"\n  ARCHIVE " ++
            "||--|\x7b ARCHIVE_ENTRY : contains"))]) }]

def components : Section where
  id := "4.2.3"
  name := "Components"
  level := 3
  applicability := .of .optional .optional
  format := .diagram
  examples := [
    { content := .of (
        .obj [
          ("diagram", .str (
            "classDiagram\n  class ArchiveBuilder \x7b\n    +build(month)\n  \x7d\n  " ++
            "ArchiveBuilder --> InvoiceStore"))]) }]

def dataFlow : Section where
  id := "4.2.4"
  name := "Data Flow"
  level := 3
  applicability := .of .optional .omitted
  format := .diagram
  examples := [
    { content := .of (.obj [("diagram", .str "graph LR\n  Invoices --> Builder --> Storage")]) }]

def interactions : Section where
  id := "4.2.5"
  name := "Interactions"
  level := 3
  applicability := .of .optional .optional
  format := .composite
  examples := [
    { content := .of (
        .obj [
          ("controlFlow", .obj [
            ("diagram", .str (
              "sequenceDiagram\n  UI->>API: request archive\n  API->>Jobs: enqueue"))]),
          ("integrationPoints", .arr [
            .obj [
              ("description", .str "Stores generated archives"),
              ("protocol", .str "S3"),
              ("system", .str "Object storage")]])]) }]

def controlFlow : Section where
  id := "4.2.5.1"
  name := "Control Flow"
  level := 4
  applicability := .of .required .required
  format := .diagram
  examples := [
    { content := .of (
        .obj [
          ("diagram", .str (
            "sequenceDiagram\n  UI->>API: request archive\n  API->>Jobs: enqueue\n  " ++
            "Jobs-->>UI: notify"))]) }]

def integrationPoints : Section where
  id := "4.2.5.2"
  name := "Integration Points"
  level := 4
  applicability := .of .optional .optional
  format := .table
  fields := [
    { name := "system", required := true },
    { name := "protocol" },
    { name := "description", required := true }]
  examples := [
    { content := .of (
        .arr [
          .obj [
            ("description", .str "Stores generated archives"),
            ("protocol", .str "S3"),
            ("system", .str "Object storage")],
          .obj [
            ("description", .str "Sends archive-ready notifications"),
            ("system", .str "Mailer")]]) }]

def technologyChoices : Section where
  id := "4.3"
  name := "Technology Choices"
  level := 2
  applicability := .of .required .omitted
  format := .table
  fields := [
    { name := "technology", required := true },
    { name := "purpose", required := true },
    { name := "rationale", required := true }]
  examples := [
    { content := .of (
        .arr [
          .obj [
            ("purpose", .str "Invoice queries"),
            ("rationale", .str "Already the system of record"),
            ("technology", .str "PostgreSQL")]]) }]

def alternativesConsidered : Section where
  id := "4.4"
  name := "Alternatives Considered"
  level := 2
  applicability := .of .optional .omitted
  format := .table
  fields := [
    { name := "option", required := true },
    { name := "rejectionReason", required := true }]
  examples := [
    { content := .of (
        .arr [
          .obj [
            ("option", .str "Synchronous archive generation"),
            ("rejectionReason", .str "Times out for large customers")]]) }]

def implementationApproach : Section where
  id := "4.5"
  name := "Implementation Approach"
  level := 2
  applicability := .of .omitted .required
  format := .list
  examples := [
    { content := .of (
        .arr [
          .str "Ship the job service behind a feature flag",
          .str "Enable per customer after verification"]) }]

def highLevelDesign : Family where
  id := 4
  name := "High-Level Design"
  anchor := "high-level-design"
  rationale := some (
      "Describes the target architecture at a level a reviewer can reason about.")
  notes := some (
      "Diagram sections accept the Mermaid kind that fits their content; prose may " ++
      "accompany or replace a diagram.")
  applicability := .of .required .optional
  sections := [
    guidingPrinciples, targetArchitecture, architectureOverview, dataModels, components, dataFlow,
    interactions, controlFlow, integrationPoints, technologyChoices, alternativesConsidered,
    implementationApproach]

def families : List Family := [businessScope, planningDecomposition, qualityRisk, highLevelDesign]

end BuiltinCatalog

def Catalog.builtin : Catalog := ⟨.ofPairs (BuiltinCatalog.families.map fun f => (f.id, f))⟩

end DocSections
