import DialogStub.Text.Utf8

/-!
# Request targets

* `Target` — what a request is about: the path of it is all that counts here;
* `Target.parse` — the target that a text spells: a path with an optional query, an absolute
  address, or an authority alone;
* `Target.Fault` — why a text spells none.

A fragment is dropped. The path stays as it is written.
-/

namespace DialogStub.Http

/-- What a request is about. The path is empty if there is only an authority. -/
structure Target where
  path : String
  deriving DecidableEq, Repr

namespace Target

/-- Why a text is no target. -/
inductive Fault where
  | empty
  | character
  | authority
  | format
  | tooLong
  | schemeTooLong
  deriving DecidableEq, Repr

/-- The wording of a fault. -/
def Fault.message : Fault → String
  | .empty => "empty string"
  | .character => "invalid uri character"
  | .authority => "invalid authority"
  | .format => "invalid format"
  | .tooLong => "uri too long"
  | .schemeTooLong => "scheme too long"

/-- The greatest length of a target, in bytes. -/
def maxLength : Nat := 65534

/-- The greatest length of a scheme. -/
def maxScheme : Nat := 64

/-! ### Paths and queries -/

/-- A character of a path; those outside ASCII are allowed. -/
def isPathChar (c : Char) : Bool :=
  let n := c.toNat
  n = 0x21 || (0x24 ≤ n && n ≤ 0x3B) || n = 0x3D || (0x40 ≤ n && n ≤ 0x5F) ||
    (0x61 ≤ n && n ≤ 0x7A) || 0x7C = n || 0x7E ≤ n || c = '"' || n = 0x7B || n = 0x7D

/-- A character of a query. -/
def isQueryChar (c : Char) : Bool :=
  let n := c.toNat
  n = 0x21 || (0x24 ≤ n && n ≤ 0x3B) || n = 0x3D || 0x3F ≤ n

/-- Whether the characters behind a question mark are a query, up to a fragment. -/
def isQuery : List Char → Bool
  | [] => true
  | c :: cs => if c = '#' then true else isQueryChar c && isQuery cs

/-- The path at the start of `cs`, up to a query or a fragment. -/
def pathOf (done : List Char) : List Char → Except Fault (List Char)
  | [] => .ok done.reverse
  | c :: cs =>
    if c = '?' then if isQuery cs then .ok done.reverse else .error .character
    else if c = '#' then .ok done.reverse
    else if isPathChar c then pathOf (c :: done) cs
    else .error .character

/-! ### Schemes and authorities -/

/-- A character of a scheme. -/
def isSchemeChar (c : Char) : Bool :=
  c.isAlphanum || c = '+' || c = '-' || c = '.' || c = '~'

/-- The characters behind a scheme and its two slashes, if there is a scheme. -/
def afterScheme (count : Nat) : List Char → Except Fault (Option (List Char))
  | ':' :: '/' :: '/' :: rest =>
    if maxScheme < count then .error .schemeTooLong else .ok (some rest)
  | c :: cs => if isSchemeChar c then afterScheme (count + 1) cs else .ok none
  | [] => .ok none

/-- A character of an authority that has no meaning of its own there. -/
def isAuthorityChar (c : Char) : Bool :=
  c.isAlphanum || "!$&'()*+,-.;=_~".toList.contains c

/-- What is known of an authority that has been read so far. -/
structure Authority where
  colons : Nat
  opened : Bool
  closed : Bool
  percent : Bool
  endsWithAt : Bool
  deriving DecidableEq, Repr

/-- The most colons that are looked at. -/
def maxColons : Nat := 8

/-- Reads an authority up to a path, a query or a fragment. -/
def readAuthority (a : Authority) : List Char → Except Fault (Authority × List Char)
  | [] => .ok (a, [])
  | c :: cs =>
    if c = '/' ∨ c = '?' ∨ c = '#' then .ok (a, c :: cs)
    else if c = ':' then
      if maxColons ≤ a.colons then .error .authority
      else readAuthority { a with colons := a.colons + 1, endsWithAt := false } cs
    else if c = '[' then
      if a.percent ∨ a.opened then .error .authority
      else readAuthority { a with opened := true, endsWithAt := false } cs
    else if c = ']' then
      if a.opened = false ∨ a.closed then .error .authority
      else readAuthority ⟨0, a.opened, true, false, false⟩ cs
    else if c = '@' then readAuthority ⟨0, a.opened, a.closed, false, true⟩ cs
    else if c = '%' then readAuthority { a with percent := true, endsWithAt := false } cs
    else if isAuthorityChar c then readAuthority { a with endsWithAt := false } cs
    else .error .character

/-- Whether an authority is complete: brackets closed, one colon at most and no percent sign
    behind the user, and something behind the user. -/
def Authority.isComplete (a : Authority) : Bool :=
  a.opened = a.closed && a.colons ≤ 1 && !a.endsWithAt && !a.percent

/-- The characters behind the authority at the start of `cs`. -/
def afterAuthority (cs : List Char) : Except Fault (List Char) :=
  match readAuthority ⟨0, false, false, false, false⟩ cs with
  | .error fault => .error fault
  | .ok (a, rest) => if a.isComplete then .ok rest else .error .authority

/-! ### Targets -/

/-- The target with the path at the start of `cs`; an empty path is the root. -/
def ofPath (cs : List Char) : Except Fault Target :=
  match pathOf [] cs with
  | .error fault => .error fault
  | .ok [] => .ok ⟨"/"⟩
  | .ok path => .ok ⟨String.ofList path⟩

/-- The target that is an authority alone; `fault` is the failure of more than that. -/
def ofAuthority (fault : Fault) (cs : List Char) : Except Fault Target :=
  match afterAuthority cs with
  | .error fault => .error fault
  | .ok [] => .ok ⟨""⟩
  | .ok (_ :: _) => .error fault

/-- The target of an absolute address, behind its scheme. -/
def ofAddress (cs : List Char) : Except Fault Target :=
  match afterAuthority cs with
  | .error fault => .error fault
  | .ok rest => if rest.length = cs.length then .error .format else ofPath rest

/-- The target that a text spells. -/
def parse (s : String) : Except Fault Target :=
  let length := (Utf8.bytes s).length
  if maxLength < length then .error .tooLong
  else match s.toList with
    | [] => .error .empty
    | ['*'] => .ok ⟨"*"⟩
    | '/' :: cs => ofPath ('/' :: cs)
    | cs =>
      if length = 1 then ofAuthority .character cs
      else match if 3 < length then afterScheme 0 cs else .ok none with
        | .error fault => .error fault
        | .ok none => ofAuthority .format cs
        | .ok (some rest) => ofAddress rest

end Target

end DialogStub.Http
