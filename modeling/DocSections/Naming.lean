import DocSections.Text.Alphanumeric
import DocSections.Text.LetterCase

/-! Data keys made from display names: the words of a name are joined without blanks, the first in
lower case and each later one with a capital first letter. -/

namespace DocSections

namespace Naming

def nameWords (name : String) : List (List Char) := Text.runs Text.isAlphanumeric name.toList

def capitalize : List Char → List Char
  | [] => []
  | c :: rest => Text.upperChar c ++ Text.lower rest

def joinWords : List (List Char) → List Char
  | [] => []
  | first :: rest => Text.lower first ++ rest.flatMap capitalize

end Naming

def camelCase (name : String) : String := String.ofList (Naming.joinWords (Naming.nameWords name))

example : camelCase "Core Business Rules" = "coreBusinessRules" := by decide +kernel
example : camelCase "High-Level Design" = "highLevelDesign" := by decide +kernel
example : camelCase "API Endpoints" = "apiEndpoints" := by decide +kernel
example : camelCase "ΑΣ ΒΣ Σ" = "αςΒσΣ" := by decide +kernel

end DocSections
