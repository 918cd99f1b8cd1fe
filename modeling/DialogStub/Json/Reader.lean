import DialogStub.Json.Skip

/-!
# Reading JSON

* `Json.readStart` — a value that is no array and no object, or the bracket that opens one;
* `Json.readItems`, `Json.readMembers` — what stands between brackets, for any reader of the
  values inside;
* `Json.read` — any value;
* `Json.readDocument` — one value and nothing behind it;
* `Json.ofBytes` — the value of a whole text.

Arrays and objects may be nested `Json.maxDepth` deep. The loops run on fuel that the length of
the whole text bounds, as `Json.fuelFor` says.
-/

namespace DialogStub.Json

/-- How many arrays and objects may stand inside one another. -/
def maxDepth : Nat := 127

/-- Fuel that is enough to read `bs`. -/
def fuelFor (bs : Bytes) : Nat :=
  2 * bs.length + 2

/-! ### Starts of values -/

/-- How a value starts. -/
inductive Start where
  | scalar (value : Json)
  | bracket (kind : Bracket)
  deriving Repr

/-- A number as a value. -/
def ofNumber : Number → Json
  | .int n => .int n
  | .real x => .real x

/-- Reads a fixed word for the value it stands for, after its first letter. -/
def readWord (word : String) (value : Json) (rest : Bytes) : Read Start :=
  match literal (Utf8.bytes word) rest with
  | .error failure => .error failure
  | .ok rest => .ok (.scalar value, rest)

/-- Reads a value that is no array and no object; the bracket of the others is left in place. -/
def readStart (bs : Bytes) : Read Start :=
  match skipBlank bs with
  | [] => .error (.at .endInValue [])
  | b :: rest =>
    if b = 0x6E then readWord "ull" .null rest
    else if b = 0x74 then readWord "rue" (.bool true) rest
    else if b = 0x66 then readWord "alse" (.bool false) rest
    else if b = 0x22 then
      match readString rest with
      | .error failure => .error failure
      | .ok (s, rest) => .ok (.scalar (.str s), rest)
    else if b = 0x5B then .ok (.bracket .list, b :: rest)
    else if b = 0x7B then .ok (.bracket .object, b :: rest)
    else if b = 0x2D ∨ (digit? b).isSome then
      match readNumber (b :: rest) with
      | .error failure => .error failure
      | .ok (n, rest) => .ok (.scalar (ofNumber n), rest)
    else .error (.at .noValue (b :: rest))

/-- How a message names a value that starts so. -/
def Start.found : Start → Found
  | .scalar value => Json.found value
  | .bracket .list => .seq
  | .bracket .object => .map

/-! ### Brackets -/

/-- Whether an array has another element: `none` at its end, which is left in place. -/
def nextItem (first : Bool) (bs : Bytes) : Except Failure (Option Bytes) :=
  match skipBlank bs with
  | [] => .error (.at .endInList [])
  | b :: rest =>
    if b = 0x5D then .ok none
    else if first then .ok (some (b :: rest))
    else if b = 0x2C then
      match skipBlank rest with
      | [] => .error (.at .endInValue [])
      | c :: rest =>
        if c = 0x5D then .error (.at .trailingComma (c :: rest)) else .ok (some (c :: rest))
    else .error (.at .noListNext (b :: rest))

/-- Whether an object has another member: `none` at its end, which is left in place, or the
    bytes behind the opening quote of its key. -/
def nextMember (first : Bool) (bs : Bytes) : Except Failure (Option Bytes) :=
  match skipBlank bs with
  | [] => .error (.at .endInObject [])
  | b :: rest =>
    if b = 0x7D then .ok none
    else if first then
      if b = 0x22 then .ok (some rest) else .error (.at .noKey (b :: rest))
    else if b = 0x2C then
      match skipBlank rest with
      | [] => .error (.at .endInValue [])
      | c :: rest =>
        if c = 0x22 then .ok (some rest)
        else if c = 0x7D then .error (.at .trailingComma (c :: rest))
        else .error (.at .noKey (c :: rest))
    else .error (.at .noObjectNext (b :: rest))

/-- Reads the elements of an array from element `index` on, and its end; `done` holds those
    before, last first. -/
def readItems {α : Type} (item : Bytes → Read α) :
    (fuel : Nat) → (index : Nat) → (done : List α) → Bytes → Read (List α)
  | 0, _, _, bs => .error (.at .endInList bs)
  | fuel + 1, index, done, bs => match nextItem (index = 0) bs with
    | .error failure => .error (failure.inside (.index index))
    -- The bracket was left in place and is passed over here.
    | .ok none => .ok (done.reverse, (skipBlank bs).tail)
    | .ok (some bs) => match item bs with
      | .error failure => .error (failure.inside (.index index))
      | .ok (a, rest) => readItems item fuel (index + 1) (a :: done) rest

/-- Reads the members of an object and its end. The state passes from member to member:
    `member` gets the key and the bytes behind it, and gives the next state. -/
def readMembers {σ : Type} (member : String → σ → Bytes → Read σ) :
    (fuel : Nat) → (first : Bool) → σ → Bytes → Read σ
  | 0, _, _, bs => .error (.at .endInObject bs)
  | fuel + 1, first, state, bs => match nextMember first bs with
    | .error failure => .error failure
    -- The bracket was left in place and is passed over here.
    | .ok none => .ok (state, (skipBlank bs).tail)
    | .ok (some bs) => match readString bs with
      | .error failure => .error failure
      | .ok (key, rest) => match member key state rest with
        | .error failure => .error failure
        | .ok (state, rest) => readMembers member fuel false state rest

/-- Reads the colon and the value of a member. -/
def readMember {α : Type} (key : String) (value : Bytes → Read α) (bs : Bytes) : Read α :=
  match skipColon bs with
  | .error failure => .error (failure.inside (.key key))
  | .ok rest => match value rest with
    | .error failure => .error (failure.inside (.key key))
    | .ok result => .ok result

/-! ### Values -/

/-- One more member, behind those before, last first. -/
def addMember (value : Bytes → Read Json) (key : String) (done : List (String × Json))
    (bs : Bytes) : Read (List (String × Json)) :=
  match readMember key value bs with
  | .error failure => .error failure
  | .ok (j, rest) => .ok ((key, j) :: done, rest)

/-- Reads a value in which arrays and objects may be nested `depth` deep. -/
def read (fuel : Nat) : (depth : Nat) → Bytes → Read Json
  | depth, bs => match readStart bs with
    | .error failure => .error failure
    | .ok (.scalar value, rest) => .ok (value, rest)
    -- The bracket is still the first byte of `rest`.
    | .ok (.bracket kind, rest) => match depth with
      | 0 => .error (.at .tooDeep rest)
      | depth + 1 => match kind with
        | .list => match readItems (read fuel depth) fuel 0 [] rest.tail with
          | .error failure => .error failure
          | .ok (items, rest) => .ok (.arr items, rest)
        | .object => match readMembers (addMember (read fuel depth)) fuel true [] rest.tail with
          | .error failure => .error failure
          | .ok (members, rest) => .ok (object members.reverse, rest)

/-- Reads one value, with nothing but white space behind it. -/
def readDocument {α : Type} (value : (fuel : Nat) → (depth : Nat) → Bytes → Read α)
    (bs : Bytes) : Except Failure α :=
  match value (fuelFor bs) maxDepth bs with
  | .error failure => .error failure
  | .ok (a, rest) => match skipBlank rest with
    | [] => .ok a
    | rest => .error (.at .trailing rest)

/-- The value that a text spells. -/
def ofBytes (bs : Bytes) : Except Failure Json :=
  readDocument read bs

end DialogStub.Json
