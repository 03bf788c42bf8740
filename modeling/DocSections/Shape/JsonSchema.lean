import DocSections.Shape.Basic

/-! Shapes as JSON Schema documents of draft 07, for tools that check content outside. A diagram is
described by a pattern on its first word; the taking apart of flow graphs is not described. -/

namespace DocSections

namespace Shape

def nonEmptyString : Json := .ofMembers [("type", .str "string"), ("minLength", .nat 1)]

def nonEmptyArray (item : Json) : Json :=
  .ofMembers [("type", .str "array"), ("minItems", .nat 1), ("items", item)]

/-- A text that begins, after white space, with one of the keywords as a whole word. -/
def keywordPattern (kinds : List DiagramKind) : String :=
  "^\\s*(" ++ "|".intercalate (kinds.map DiagramKind.keyword) ++ ")(\\s|$)"

def diagramOrTextSchema (kinds : List DiagramKind) : Json :=
  .ofMembers [
    ("type", .str "object"),
    ("properties", .ofMembers [
      ("diagram", .ofMembers [("type", .str "string"), ("minLength", .nat 1),
        ("pattern", .str (keywordPattern kinds))]),
      ("text", nonEmptyArray nonEmptyString)]),
    ("minProperties", .nat 1),
    ("additionalProperties", .bool false)]

def requiredKeys (fields : List Field) : List String :=
  (fields.filter fun f => !f.isOptional).map Prod.fst

mutual

def toJsonSchema : Shape → Json
  | text => nonEmptyString
  | oneOf words => .ofMembers [("type", .str "string"), ("enum", .arr (words.map .str))]
  | list item => nonEmptyArray item.toJsonSchema
  | record fields =>
    .ofMembers [
      ("type", .str "object"),
      ("properties", .ofMembers (fieldSchemas fields)),
      ("required", .arr ((requiredKeys fields).map .str)),
      ("additionalProperties", .bool false)]
  | anyObject => .ofMembers [("type", .str "object")]
  | diagramOrText kinds => diagramOrTextSchema kinds
  | optional inner => inner.toJsonSchema

def fieldSchemas : List (String × Shape) → List (String × Json)
  | [] => []
  | (key, shape) :: rest => (key, shape.toJsonSchema) :: fieldSchemas rest

end

end Shape

end DocSections
