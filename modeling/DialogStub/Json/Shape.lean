import DialogStub.Json.Failure

/-!
# Shapes of JSON records

A shape says how the values of a type are spelt in JSON. One shape serves every direction:

* `Json.Scalar` — a type whose values are strings, booleans or numbers;
* `Json.Shape`, `Json.Fields` — lists, options, named choices and records built from those;
* `Shape.toJson` — the JSON of a value, members in the order of the fields;
* `Shape.absent` — the value that a missing member stands for.

`Shape.ofJson` and `Shape.read` in the modules below read what `Shape.toJson` writes. A record
is described by its fields alone: a tuple of the parts, and the two ways between the tuple and
the record.
-/

namespace DialogStub.Json

/-! ### Scalars -/

/-- A type whose values are strings, booleans or numbers. -/
inductive Scalar : Type → Type where
  /-- A string. -/
  | text : Scalar String
  /-- A boolean. -/
  | flag : Scalar Bool
  /-- A natural number of 64 bits. -/
  | word : Scalar Nat
  /-- The length of a list. -/
  | count : Scalar Nat
  /-- An integer of 64 bits. -/
  | integer : Scalar Int
  /-- A floating point number. -/
  | real : Scalar Binary64
  /-- A point in time. -/
  | time : Scalar Timestamp

/-- What a message calls the values of a scalar. -/
def Scalar.expected : {α : Type} → Scalar α → String
  | _, .text => "a string"
  | _, .flag => "a boolean"
  | _, .word => "u64"
  | _, .count => "usize"
  | _, .integer => "i64"
  | _, .real => "f64"
  | _, .time => "an RFC 3339 formatted date and time string"

/-- The JSON of a scalar. -/
def Scalar.toJson : {α : Type} → Scalar α → α → Json
  | _, .text, s => .str s
  | _, .flag, b => .bool b
  | _, .word, n => .int n
  | _, .count, n => .int n
  | _, .integer, n => .int n
  | _, .real, x => .real x
  | _, .time, t => .str (String.ofList (Rfc3339.write t))

/-- A natural number of 64 bits. -/
def natural (expected : String) (j : Json) : Except Cause Nat :=
  match j with
  | .int n =>
    if 0 ≤ n ∧ n < 0x10000000000000000 then .ok n.toNat
    else .error (.wrongValue (.int n) expected)
  | _ => .error (.wrongType (found j) expected)

/-- The scalar that a value spells. -/
def Scalar.ofJson : {α : Type} → Scalar α → Json → Except Cause α
  | _, .text, .str s => .ok s
  | _, .flag, .bool b => .ok b
  | _, .word, j => natural "u64" j
  | _, .count, j => natural "usize" j
  | _, .integer, .int n =>
    if -0x8000000000000000 ≤ n ∧ n < 0x8000000000000000 then .ok n
    else .error (.wrongValue (.int n) "i64")
  | _, .real, .int n => .ok (Binary64.ofInt n)
  | _, .real, .real x => .ok x
  | _, .time, .str s => match Rfc3339.read s.toList with
    | .ok t => .ok t
    | .error fault => .error (.timestamp fault)
  | _, scalar, j => .error (.wrongType (found j) scalar.expected)

/-! ### Shapes -/

/-- What is said of a field beside its shape: its key, the value that stands for it when it is
    missing, whether a `null` is left out in writing, and a word of explanation. -/
structure Note (α : Type) where
  key : String
  default : Option α
  omitsNull : Bool
  doc : Option String

mutual

/-- How the values of a type are spelt in JSON. -/
inductive Shape : Type → Type 1 where
  | scalar {α : Type} (kind : Scalar α) : Shape α
  /-- Any value at all. -/
  | any : Shape Json
  | option {α : Type} (item : Shape α) : Shape (Option α)
  | list {α : Type} (item : Shape α) : Shape (List α)
  /-- One of a few names. -/
  | choice {α : Type} (name : String) (doc : Option String) (variants : List (String × α))
      (label : α → String) (law : ∀ a, variants.lookup (label a) = some a) : Shape α
  /-- An object with the given members. -/
  | record {σ ρ α : Type} (name : String) (doc : Option String) (fields : Fields σ ρ)
      (build : ρ → α) (parts : α → ρ) (law : ∀ a, build (parts a) = a) : Shape α

/-- The fields of a record: `ρ` is the tuple of their values, and `σ` has a place for each that
    may still be empty. -/
inductive Fields : Type → Type → Type 1 where
  | nil : Fields Unit Unit
  | cons {α σ ρ : Type} (note : Note α) (shape : Shape α) (rest : Fields σ ρ) :
      Fields (Option α × σ) (α × ρ)

end

namespace Shape

/-- The shape of a string. -/
abbrev text : Shape String := .scalar .text

/-- The shape of a boolean. -/
abbrev flag : Shape Bool := .scalar .flag

/-- The shape of a natural number of 64 bits. -/
abbrev word : Shape Nat := .scalar .word

/-- The shape of the length of a list. -/
abbrev count : Shape Nat := .scalar .count

/-- The shape of an integer of 64 bits. -/
abbrev integer : Shape Int := .scalar .integer

/-- The shape of a floating point number. -/
abbrev real : Shape Binary64 := .scalar .real

/-- The shape of a point in time. -/
abbrev time : Shape Timestamp := .scalar .time

/-- The value that a missing member stands for: none, for an option. -/
def absent : {α : Type} → Shape α → Option α
  | _, .option _ => some none
  | _, _ => none

end Shape

/-- A field that has to be there. -/
def Note.plain {α : Type} (key : String) : Note α := ⟨key, none, false, none⟩

/-- A field with a word of explanation. -/
def Note.explained {α : Type} (key doc : String) : Note α := ⟨key, none, false, some doc⟩

/-- A field that has a value when it is missing. -/
def Note.defaulting {α : Type} (key : String) (default : α) : Note α :=
  ⟨key, some default, false, none⟩

/-- A field that is left out when it is `null`. -/
def Note.omitted {α : Type} (key : String) : Note α := ⟨key, none, true, none⟩

/-! ### Writing -/

/-- Puts the member of a field in front of others, unless it is to be left out. -/
def Note.write {α : Type} (note : Note α) (value : Json) (rest : List (String × Json)) :
    List (String × Json) :=
  match note.omitsNull, value with
  | true, .null => rest
  | _, _ => (note.key, value) :: rest

mutual

/-- The JSON of a value. -/
def Shape.toJson : {α : Type} → Shape α → α → Json
  | _, .scalar kind, a => kind.toJson a
  | _, .any, j => j
  | _, .option _, none => .null
  | _, .option item, some a => item.toJson a
  | _, .list item, as => .arr (as.map item.toJson)
  | _, .choice _ _ _ label _, a => .str (label a)
  | _, .record _ _ fields _ parts _, a => .obj (fields.toMembers (parts a))

/-- The members of a record. -/
def Fields.toMembers : {σ ρ : Type} → Fields σ ρ → ρ → List (String × Json)
  | _, _, .nil, _ => []
  | _, _, .cons note shape rest, (a, parts) =>
    note.write (shape.toJson a) (rest.toMembers parts)

end

/-! ### Collecting members -/

/-- Places for all fields, none of them filled. -/
def Fields.empty : {σ ρ : Type} → Fields σ ρ → σ
  | _, _, .nil => ()
  | _, _, .cons _ _ rest => (none, rest.empty)

/-- The number of fields. -/
def Fields.size : {σ ρ : Type} → Fields σ ρ → Nat
  | _, _, .nil => 0
  | _, _, .cons _ _ rest => rest.size + 1

/-- The value of a field whose place is `slot`: what it was filled with, or what stands for it
    when it is missing. -/
def Note.settle {α : Type} (note : Note α) (shape : Shape α) (slot : Option α) : Option α :=
  match slot, note.default with
  | some a, _ => some a
  | none, some a => some a
  | none, none => shape.absent

/-- The values of all fields, or the key of the first that is missing. -/
def Fields.finish : {σ ρ : Type} → Fields σ ρ → σ → Except String ρ
  | _, _, .nil, _ => .ok ()
  | _, _, .cons note shape rest, (slot, slots) => match note.settle shape slot with
    | none => .error note.key
    | some a => match rest.finish slots with
      | .error key => .error key
      | .ok parts => .ok (a, parts)

/-- What a message calls a record. -/
def recordName (name : String) : String := "struct " ++ name

/-- What a message calls a record of `size` fields that is given as an array. -/
def arrayName (name : String) (size : Nat) : String :=
  recordName name ++ " with " ++ toString size ++ (if size = 1 then " element" else " elements")

end DialogStub.Json
