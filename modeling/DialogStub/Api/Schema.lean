import DialogStub.Json.Shape

/-!
# Schemas of records

How the description of the API shows a shape.

* `Shape.schema` — the schema of a value in the place of a field;
* `Shape.definitions` — the schemas that a shape and all shapes inside it have by name.

Records and choices are shown by reference. A field is required if nothing stands for it when it
is missing.
-/

namespace DialogStub.Json

/-- The member that names a type, or the type and `null`. -/
def typeMember (nullable : Bool) (type : String) : String × Json :=
  ("type", if nullable then .arr [.str type, .str "null"] else .str type)

/-- The member with a word of explanation. -/
def docMember : Option String → List (String × Json)
  | some doc => [("description", .str doc)]
  | none => []

/-- The type of a scalar. -/
def Scalar.type : {α : Type} → Scalar α → String
  | _, .text => "string"
  | _, .flag => "boolean"
  | _, .word => "integer"
  | _, .count => "integer"
  | _, .integer => "integer"
  | _, .real => "number"
  | _, .time => "string"

/-- The format of a scalar. -/
def Scalar.format : {α : Type} → Scalar α → List (String × Json)
  | _, .word => [("format", .str "int64")]
  | _, .integer => [("format", .str "int64")]
  | _, .real => [("format", .str "double")]
  | _, .time => [("format", .str "date-time")]
  | _, _ => []

/-- The least value of a scalar. -/
def Scalar.minimum : {α : Type} → Scalar α → List (String × Json)
  | _, .word => [("minimum", .int 0)]
  | _, .count => [("minimum", .int 0)]
  | _, _ => []

/-- A reference to a schema by its name. -/
def reference (nullable : Bool) (name : String) : Json :=
  let target : Json := .obj [("$ref", .str ("#/components/schemas/" ++ name))]
  if nullable then .obj [("oneOf", .arr [.obj [("type", .str "null")], target])] else target

/-- The schema of a value in the place of a field with a word of explanation. -/
def Shape.schema (nullable : Bool) (doc : Option String) : {α : Type} → Shape α → Json
  | _, .scalar kind =>
    .obj (typeMember nullable kind.type :: kind.format ++ docMember doc ++ kind.minimum)
  | _, .any => .obj (typeMember nullable "object" :: docMember doc)
  | _, .option item => item.schema true doc
  | _, .list item =>
    .obj (typeMember nullable "array" :: ("items", item.schema false none) :: docMember doc)
  | _, .choice name .. => reference nullable name
  | _, .record name .. => reference nullable name

/-- The schema of a choice. -/
def choiceDefinition (doc : Option String) (names : List String) : Json :=
  .obj (("type", .str "string") :: docMember doc ++ [("enum", .arr (names.map .str))])

/-- The schema of a record. -/
def recordDefinition (doc : Option String) (required : List String)
    (properties : List (String × Json)) : Json :=
  .obj (("type", .str "object") :: docMember doc ++
    (if required = [] then [] else [("required", .arr (required.map .str))]) ++
    [("properties", object properties)])

/-- The schemas of the fields of a record. -/
def Fields.properties : {σ ρ : Type} → Fields σ ρ → List (String × Json)
  | _, _, .nil => []
  | _, _, .cons note shape rest => (note.key, shape.schema false note.doc) :: rest.properties

/-- The keys of the fields that have to be there. -/
def Fields.required : {σ ρ : Type} → Fields σ ρ → List String
  | _, _, .nil => []
  | _, _, .cons note shape rest =>
    if (note.settle shape none).isNone then note.key :: rest.required else rest.required

mutual

/-- The schemas that a shape and the shapes inside it have by name. -/
def Shape.definitions : {α : Type} → Shape α → List (String × Json)
  | _, .scalar _ => []
  | _, .any => []
  | _, .option item => item.definitions
  | _, .list item => item.definitions
  | _, .choice name doc variants _ _ => [(name, choiceDefinition doc (variants.map Prod.fst))]
  | _, .record name doc fields _ _ _ =>
    (name, recordDefinition doc fields.required fields.properties) :: fields.definitions

/-- The schemas that the shapes of fields have by name. -/
def Fields.definitions : {σ ρ : Type} → Fields σ ρ → List (String × Json)
  | _, _, .nil => []
  | _, _, .cons _ shape rest => shape.definitions ++ rest.definitions

end

end DialogStub.Json
