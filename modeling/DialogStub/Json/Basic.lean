import DialogStub.Number.Shortest
import DialogStub.Text.Utf8

/-!
# JSON values

* `Json` — a value; the members of an object are a list, in the order in which they are written;
* `Json.insert` — a member put at its place among members in order;
* `Json.get?` — a member looked up.

A value that was read has its members in strictly increasing order of their keys, which is the
order of the keys' bytes; a record that is written has them in the order of its fields.
-/

namespace DialogStub

/-- A JSON value. Integers are kept apart from numbers with a fraction or an exponent. -/
inductive Json where
  | null
  | bool (b : Bool)
  | int (n : Int)
  | real (x : Binary64)
  | str (s : String)
  | arr (items : List Json)
  | obj (members : List (String × Json))
  deriving Repr

instance : Inhabited Json := ⟨.null⟩

namespace Json

/-- Puts a member among members in increasing order of their keys; it replaces one of the same
    key. -/
def insert (key : String) (value : Json) : List (String × Json) → List (String × Json)
  | [] => [(key, value)]
  | (k, v) :: rest =>
    if key < k then (key, value) :: (k, v) :: rest
    else if key = k then (key, value) :: rest
    else (k, v) :: insert key value rest

/-- The object with the given members, of which the last of each key counts. -/
def object (members : List (String × Json)) : Json :=
  .obj (members.foldl (fun ms m => insert m.1 m.2 ms) [])

/-- The value of the first member with a key. -/
def lookup (key : String) : List (String × Json) → Option Json
  | [] => none
  | (k, v) :: rest => if k = key then some v else lookup key rest

/-- The value of a member of an object. -/
def get? (j : Json) (key : String) : Option Json :=
  match j with
  | .obj members => lookup key members
  | _ => none

@[simp] theorem insert_nil (key : String) (value : Json) :
    insert key value [] = [(key, value)] := rfl

@[simp] theorem lookup_nil (key : String) : lookup key [] = none := rfl

end Json

end DialogStub
