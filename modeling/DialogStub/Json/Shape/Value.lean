import DialogStub.Json.Shape

/-!
# Records from parsed values

* `Shape.ofJson` — the value of a shape that a JSON value spells.

A record may be given as an object, where unknown members do not count, or as an array of its
fields in order. Nothing here has a place in a text, so a failure is a cause alone.
-/

namespace DialogStub.Json

/-- Fills places from the members of an object, one after the other. -/
def fill {σ : Type} (member : String → Json → σ → Except Cause σ) :
    List (String × Json) → σ → Except Cause σ
  | [], slots => .ok slots
  | (key, value) :: rest, slots => match member key value slots with
    | .error cause => .error cause
    | .ok slots => fill member rest slots

/-- The values of a list, each read in the same way. -/
def each {α : Type} (item : Json → Except Cause α) : List Json → Except Cause (List α)
  | [] => .ok []
  | j :: rest => match item j with
    | .error cause => .error cause
    | .ok a => match each item rest with
      | .error cause => .error cause
      | .ok as => .ok (a :: as)

/-- The variant of a name. -/
def variantOf {α : Type} (variants : List (String × α)) (name : String) : Except Cause α :=
  match variants.lookup name with
  | some a => .ok a
  | none => .error (.unknownVariant name (variants.map Prod.fst))

mutual

/-- The value of a shape that a JSON value spells. -/
def Shape.ofJson : {α : Type} → Shape α → Json → Except Cause α
  | _, .scalar kind, j => kind.ofJson j
  | _, .any, j => .ok j
  | _, .option item, j => match j with
    | .null => .ok none
    | _ => match item.ofJson j with
      | .error cause => .error cause
      | .ok a => .ok (some a)
  | _, .list item, j => match j with
    | .arr items => each item.ofJson items
    | _ => .error (.wrongType (found j) "a sequence")
  | _, .choice _ _ variants _ _, j => match j with
    | .str name => variantOf variants name
    | .obj [(name, value)] => match variantOf variants name, value with
      | .error cause, _ => .error cause
      | .ok a, .null => .ok a
      | .ok _, _ => .error (.wrongType (found value) "unit")
    | .obj _ => .error (.wrongValue .map "map with a single key")
    | _ => .error (.wrongType (found j) "string or map")
  | _, .record name _ fields build _ _, j => match j with
    | .arr items => match fields.ofItems name fields.size 0 items with
      | .error cause => .error cause
      | .ok (parts, []) => .ok (build parts)
      | .ok (_, _ :: _) =>
        .error (.wrongLength items.length "fewer elements in array")
    | .obj members => match fill fields.ofMember members fields.empty with
      | .error cause => .error cause
      | .ok slots => match fields.finish slots with
        | .error key => .error (.missing key)
        | .ok parts => .ok (build parts)
    | _ => .error (.wrongType (found j) (recordName name))

/-- Fills the place of the field that a member belongs to, if there is one. -/
def Fields.ofMember : {σ ρ : Type} → Fields σ ρ → String → Json → σ → Except Cause σ
  | _, _, .nil, _, _, slots => .ok slots
  | _, _, .cons note shape rest, key, value, (slot, slots) =>
    if note.key = key then
      match shape.ofJson value with
      | .error cause => .error cause
      | .ok a => .ok (some a, slots)
    else match rest.ofMember key value slots with
      | .error cause => .error cause
      | .ok slots => .ok (slot, slots)

/-- The values of the fields, taken from an array in order, and the items left over; the record
    is called `name` and has `size` fields, `index` of them before these. -/
def Fields.ofItems : {σ ρ : Type} → Fields σ ρ → (name : String) → (size index : Nat) →
    List Json → Except Cause (ρ × List Json)
  | _, _, .nil, _, _, _, items => .ok ((), items)
  | _, _, .cons note shape rest, name, size, index, items => match items with
    | [] => match note.default with
      | none => .error (.wrongLength index (arrayName name size))
      | some a => match rest.ofItems name size (index + 1) [] with
        | .error cause => .error cause
        | .ok (parts, items) => .ok ((a, parts), items)
    | item :: items => match shape.ofJson item with
      | .error cause => .error cause
      | .ok a => match rest.ofItems name size (index + 1) items with
        | .error cause => .error cause
        | .ok (parts, items) => .ok ((a, parts), items)

end

end DialogStub.Json
