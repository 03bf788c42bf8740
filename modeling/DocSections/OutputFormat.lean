import DocSections.Json.Printer
import DocSections.Vocabulary

/-! The two ways of printing results. -/

namespace DocSections

inductive OutputFormat where
  | pretty
  | compact
deriving DecidableEq, Repr

instance : Vocabulary OutputFormat where
  values := [.pretty, .compact]
  word
    | .pretty => "pretty"
    | .compact => "compact"
  find?_word a := by cases a <;> decide

def OutputFormat.render : OutputFormat → Json → String
  | pretty => Json.pretty
  | compact => Json.compact

end DocSections
