import DialogStub.Json.Reader
import DialogStub.Json.Shape.Value

/-!
# Records from text

* `Shape.read` — reads a value of a shape from text;
* `Shape.ofBytes` — the value that a whole text spells.

The record is read straight from the text, so that each failure has its place, and of several
faults the first in the text counts. Unknown members are passed over.
-/

namespace DialogStub.Json

/-- Reads a scalar. -/
def Scalar.read {α : Type} (kind : Scalar α) (bs : Bytes) : Read α :=
  match readStart bs with
  | .error failure => .error failure
  | .ok (.scalar value, rest) => match kind.ofJson value with
    | .error cause => .error (.before cause rest)
    | .ok a => .ok (a, rest)
  | .ok (start, rest) => .error (.before (.wrongType start.found kind.expected) rest)

/-- The failure of a value of another kind. -/
def otherKind (expected : String) (bs : Bytes) : Failure :=
  match readStart bs with
  | .error failure => failure
  | .ok (start, rest) => .before (.wrongType start.found expected) rest

/-! ### Ends of brackets -/

/-- The bytes behind a closing byte that comes next, and else those behind white space. -/
def settled (close : UInt8) (bs : Bytes) : Bytes :=
  match skipBlank bs with
  | [] => []
  | b :: rest => if b = close then rest else b :: rest

/-- The bytes behind the end of an array that is due. -/
def closeList (bs : Bytes) : Except Failure Bytes :=
  match skipBlank bs with
  | [] => .error (.at .endInList [])
  | b :: rest =>
    if b = 0x5D then .ok rest
    else if b = 0x2C then
      match skipBlank rest with
      | [] => .error (.at .trailing [])
      | c :: rest =>
        .error (.at (if c = 0x5D then .trailingComma else .trailing) (c :: rest))
    else .error (.at .trailing (b :: rest))

/-! ### Choices -/

/-- Reads the name of a variant, after its opening quote. -/
def readVariant {α : Type} (variants : List (String × α)) (bs : Bytes) : Read (String × α) :=
  match readString bs with
  | .error failure => .error failure
  | .ok (name, rest) => match variantOf variants name with
    | .error cause => .error (.before cause rest)
    | .ok a => .ok ((name, a), rest)

/-- Reads the value of the only member of an object that stands for a variant. -/
def readNothing (name : String) (bs : Bytes) : Except Failure Bytes :=
  match readStart bs with
  | .error failure => .error (failure.inside (.variant name))
  | .ok (.scalar .null, rest) => .ok rest
  | .ok (start, rest) =>
    .error ((Failure.before (.wrongType start.found "unit") rest).inside (.variant name))

/-- The bytes behind the end of an object that stands for a variant. -/
def closeVariant (bs : Bytes) : Except Failure Bytes :=
  match skipBlank bs with
  | [] => .error (.before .endInObject [])
  | b :: rest => if b = 0x7D then .ok rest else .error (.before .noValue (b :: rest))

/-- Reads an object that stands for a variant, after its bracket. -/
def readVariantObject {α : Type} (variants : List (String × α)) (bs : Bytes) : Read α :=
  match skipBlank bs with
  | 0x22 :: rest => match readVariant variants rest with
    | .error failure => .error failure
    | .ok ((name, a), rest) => match skipColon rest with
      | .error failure => .error failure
      | .ok rest => match readNothing name rest with
        | .error failure => .error failure
        | .ok rest => match closeVariant rest with
          | .error failure => .error failure
          | .ok rest => .ok (a, rest)
  | bs => .error (otherKind "variant identifier" bs)

/-- Reads one of a few names: a string, or an object with the name as key and `null` as value. -/
def readChoice {α : Type} (variants : List (String × α)) (depth : Nat) (bs : Bytes) : Read α :=
  match skipBlank bs with
  | [] => .error (.at .endInValue [])
  | b :: rest =>
    if b = 0x22 then
      match readVariant variants rest with
      | .error failure => .error failure
      | .ok ((_, a), rest) => .ok (a, rest)
    else if b = 0x7B then
      match depth with
      | 0 => .error (.at .tooDeep (b :: rest))
      -- The object takes one level, but nothing inside it takes another.
      | _ + 1 => readVariantObject variants rest
    else .error (.at .noValue (b :: rest))

/-! ### Shapes -/

/-- Passes over an unknown member. -/
def skipMember (fuel : Nat) (key : String) (bs : Bytes) : Except Failure Bytes :=
  match skipColon bs with
  | .error failure => .error (failure.inside (.key key))
  | .ok rest => match skipValue fuel rest with
    | .error failure => .error (failure.inside (.key key))
    | .ok rest => .ok rest

mutual

/-- Reads a value of a shape, in which arrays and objects may be nested `depth` deep. -/
def Shape.read : {α : Type} → Shape α → (fuel depth : Nat) → Bytes → Read α
  | _, .scalar kind, _, _, bs => kind.read bs
  | _, .any, fuel, depth, bs => Json.read fuel depth bs
  | _, .option item, fuel, depth, bs => match skipBlank bs with
    | 0x6E :: rest => match literal (Utf8.bytes "ull") rest with
      | .error failure => .error failure
      | .ok rest => .ok (none, rest)
    | bs => match item.read fuel depth bs with
      | .error failure => .error failure
      | .ok (a, rest) => .ok (some a, rest)
  | _, .list item, fuel, depth, bs => match skipBlank bs with
    | 0x5B :: rest => match depth with
      | 0 => .error (.at .tooDeep (0x5B :: rest))
      | depth + 1 => readItems (item.read fuel depth) fuel 0 [] rest
    | bs => .error (otherKind "a sequence" bs)
  | _, .choice _ _ variants _ _, _, depth, bs => readChoice variants depth bs
  | _, .record name _ fields build _ _, fuel, depth, bs => match skipBlank bs with
    | 0x5B :: rest => match depth with
      | 0 => .error (.at .tooDeep (0x5B :: rest))
      | depth + 1 => match fields.readItems name fields.size 0 fuel depth rest with
        | .error failure => .error failure
        | .ok (parts, rest) => match closeList rest with
          | .error failure => .error failure
          | .ok rest => .ok (build parts, rest)
    | 0x7B :: rest => match depth with
      | 0 => .error (.at .tooDeep (0x7B :: rest))
      | depth + 1 =>
        match readMembers (fun key slots bs => fields.readMember key fuel depth slots bs) fuel true
            fields.empty rest with
        | .error failure => .error failure
        | .ok (slots, rest) => match fields.finish slots with
          | .error key => .error (.before (.missing key) rest)
          | .ok parts => .ok (build parts, rest)
    | bs => .error (otherKind (recordName name) bs)

/-- Reads a member, after its key, into the place of its field. -/
def Fields.readMember : {σ ρ : Type} → Fields σ ρ → (key : String) → (fuel depth : Nat) →
    σ → Bytes → Read σ
  | _, _, .nil, key, fuel, _, slots, bs => match skipMember fuel key bs with
    | .error failure => .error failure
    | .ok rest => .ok (slots, rest)
  | _, _, .cons note shape rest, key, fuel, depth, (slot, slots), bs =>
    if note.key = key then
      match slot with
      -- The place is full, so the key comes a second time; its value is not looked at.
      | some _ => .error (.before (.duplicate key) (settled 0x7D bs))
      | none => match Json.readMember key (shape.read fuel depth) bs with
        | .error failure => .error failure
        | .ok (a, bs) => .ok ((some a, slots), bs)
    else match rest.readMember key fuel depth slots bs with
      | .error failure => .error failure
      | .ok (slots, bs) => .ok ((slot, slots), bs)

/-- Reads the fields from an array in order, up to its end or the last of them; the record is
    called `name` and has `size` fields, `index` of them before these. -/
def Fields.readItems : {σ ρ : Type} → Fields σ ρ → (name : String) → (size index : Nat) →
    (fuel depth : Nat) → Bytes → Read ρ
  | _, _, .nil, _, _, _, _, _, bs => .ok ((), bs)
  | _, _, .cons note shape rest, name, size, index, fuel, depth, bs =>
    match nextItem (index = 0) bs with
    | .error failure => .error (failure.inside (.index index))
    -- The array has ended: the value that stands for the field is taken, if it has one.
    | .ok none => match note.default with
      | none => .error (.before (.wrongLength index (arrayName name size)) (skipBlank bs).tail)
      | some a => match rest.readItems name size (index + 1) fuel depth bs with
        | .error failure => .error failure
        | .ok (parts, bs) => .ok ((a, parts), bs)
    | .ok (some bs) => match shape.read fuel depth bs with
      | .error failure => .error (failure.inside (.index index))
      | .ok (a, bs) => match rest.readItems name size (index + 1) fuel depth bs with
        | .error failure => .error failure
        | .ok (parts, bs) => .ok ((a, parts), bs)

end

/-- The value of a shape that a whole text spells. -/
def Shape.ofBytes {α : Type} (shape : Shape α) (bs : Bytes) : Except Failure α :=
  readDocument shape.read bs

end DialogStub.Json
