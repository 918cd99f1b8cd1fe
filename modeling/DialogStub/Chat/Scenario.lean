import DialogStub.Json.Shape

/-!
# Scenarios

* `Scenario` — a conversation template of the catalog. The catalog is a list of them that never
  changes.
-/

namespace DialogStub

open Json

/-- A conversation template. -/
structure Scenario where
  id : String
  name : String
  description : String
  category : String
  tags : List String
  isActive : Bool
  createdAt : Timestamp
  updatedAt : Timestamp
  deriving DecidableEq

/-- The fields of a scenario in JSON. -/
def Scenario.fields :
    Fields (Option String × Option String × Option String × Option String ×
        Option (List String) × Option Bool × Option Timestamp × Option Timestamp × Unit)
      (String × String × String × String × List String × Bool × Timestamp × Timestamp × Unit) :=
  .cons (.plain "id") .text <|
  .cons (.plain "name") .text <|
  .cons (.plain "description") .text <|
  .cons (.plain "category") .text <|
  .cons (.plain "tags") (.list .text) <|
  .cons (.plain "is_active") .flag <|
  .cons (.plain "created_at") .time <|
  .cons (.plain "updated_at") .time <|
  .nil

/-- A scenario in JSON. -/
def Scenario.shape : Shape Scenario :=
  .record "Scenario" (some "A predefined conversation template. Immutable once loaded.")
    Scenario.fields
    (fun (id, name, description, category, tags, isActive, created, updated, ()) =>
      ⟨id, name, description, category, tags, isActive, created, updated⟩)
    (fun s => (s.id, s.name, s.description, s.category, s.tags, s.isActive, s.createdAt,
      s.updatedAt, ()))
    (fun _ => rfl)

end DialogStub
