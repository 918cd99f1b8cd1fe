import DialogStub.Url.Host

/-!
# Addresses

* `Url` — an address in its parts;
* `Url.parse` — the address that a text spells;
* `Url.text` — the text of an address, in which equal addresses are written alike.

White space around the text and line breaks inside it do not count. A user name and password are
read and left out. Schemes of the web have a host and a path with at least one slash; in the path
the segments `.` and `..` are resolved.
-/

namespace DialogStub

/-- An address. The host is missing where the scheme is followed by no two slashes. -/
structure Url where
  scheme : String
  host : Option String
  /-- The number behind the host, unless it is the usual one. -/
  number : Option Nat
  path : String
  query : Option String
  fragment : Option String
  deriving DecidableEq, Repr

namespace Url

/-- Schemes that are followed by a host and its number, with the numbers that are usual. -/
def specialSchemes : List (String × Nat) :=
  [("http", 80), ("https", 443), ("ws", 80), ("wss", 443), ("ftp", 21)]

/-- The scheme of the files of a computer. -/
def fileScheme : String := "file"

/-- Whether a scheme is one of those that browsers know. -/
def isSpecial (scheme : String) : Bool :=
  scheme = fileScheme || (specialSchemes.lookup scheme).isSome

/-! ### Spelling -/

/-- Spells the bytes that are controls, not ASCII, or among `others`. -/
def spell (others : String) (cs : List Char) : String :=
  (Utf8.text? (Percent.encode
    (fun b => Host.isPlain b && !(Utf8.bytes others).contains b) (Utf8.encode cs))).getD ""

/-- The signs that are spelled out in a path. -/
def pathSigns : String := " \"<>`#?\x7b\x7d"

/-- The signs that are spelled out in a query. -/
def querySigns (special : Bool) : String :=
  if special then " \"#<>'" else " \"#<>"

/-- The signs that are spelled out in a fragment. -/
def fragmentSigns : String := " \"<>`"

/-! ### Paths -/

/-- A segment with `%2e` for each point, in lower case. -/
def isSingleDot (s : String) : Bool :=
  s = "." || s.toLower = "%2e"

/-- Whether a segment leads to the one above. -/
def isDoubleDot (s : String) : Bool :=
  ["..", ".%2e", "%2e.", "%2e%2e"].contains s.toLower

/-- Resolves the segments that lead nowhere and those that lead to the one above; `done` holds
    the segments before, last first. -/
def resolve (done : List String) : List String → List String
  | [] => done.reverse
  | s :: rest =>
    let done := if isDoubleDot s then done.tail else if isSingleDot s then done else s :: done
    -- A resolved segment at the end leaves the slash before it.
    let done := if (isDoubleDot s || isSingleDot s) && rest.isEmpty then "" :: done else done
    resolve done rest

/-- The parts of a path between slashes; in a special address a backslash is one. -/
def segments (special : Bool) (cs : List Char) : List (List Char) :=
  Host.splitOn '/' (if special then cs.map (fun c => if c = '\\' then '/' else c) else cs)

/-- The text of a path behind its first slash. -/
def pathText (special : Bool) (cs : List Char) : String :=
  "/" ++ "/".intercalate (resolve [] ((segments special cs).map (spell pathSigns)))

/-- Whether a character is a slash. -/
def isSlash (special : Bool) (c : Char) : Bool :=
  c = '/' || (special && c = '\\')

/-- The path of an address behind its host. -/
def pathAfterHost (special : Bool) (cs : List Char) : String :=
  match cs with
  | [] => if special then "/" else ""
  | c :: rest => pathText special (if isSlash special c then rest else c :: rest)

/-! ### Hosts and their numbers -/

/-- The number that digits spell; none if there are no digits. -/
def number? : List Char → Option (Option Nat)
  | [] => some none
  | cs => match Host.number? 10 0 cs with
    | some n => if n < 65536 then some (some n) else none
    | none => none

/-- The characters up to a colon outside brackets, and those from it on. -/
def splitNumber (inside : Bool) (host : List Char) : List Char → List Char × List Char
  | [] => (host.reverse, [])
  | c :: cs =>
    if c = ':' ∧ inside = false then (host.reverse, c :: cs)
    else splitNumber (if c = '[' then true else if c = ']' then false else inside) (c :: host) cs

/-- The characters behind the last at sign, and whether there is one with something before it. -/
def dropUser (cs : List Char) : Bool × List Char :=
  if cs.contains '@' then
    let rest := (cs.reverse.takeWhile (· ≠ '@')).reverse
    (rest.length + 1 < cs.length, rest)
  else (false, cs)

/-- The host that characters spell. -/
def host? (special : Bool) (cs : List Char) : Option String :=
  match cs with
  | '[' :: rest =>
    if rest.getLast? = some ']' then Host.ofIpv6 rest.dropLast else none
  | _ => if special then Host.ofDomain cs else Host.ofOpaque cs

/-- Host and number of the characters between the two slashes and the path. -/
def authority? (scheme : String) (cs : List Char) : Option (String × Option Nat) :=
  let special := isSpecial scheme
  let (hasUser, rest) := dropUser cs
  let (hostText, numberText) := splitNumber false [] rest
  if hostText = [] ∧ (special ∨ hasUser ∨ numberText ≠ [] ∨ rest.length < cs.length) then none
  else match host? special hostText, number? numberText.tail with
    | some host, some number =>
      some (host, if number = specialSchemes.lookup scheme then none else number)
    | _, _ => none

/-! ### Addresses -/

/-- The parts before and behind the first mark. -/
def splitFirst (mark : Char) (cs : List Char) : List Char × Option (List Char) :=
  let before := cs.takeWhile (· ≠ mark)
  match cs.drop before.length with
  | [] => (before, none)
  | _ :: behind => (before, some behind)

/-- A text without white space and controls at its ends, and without line breaks and tabs. -/
def clean (cs : List Char) : List Char :=
  let cs := cs.dropWhile (·.toNat ≤ 0x20)
  let cs := (cs.reverse.dropWhile (·.toNat ≤ 0x20)).reverse
  cs.filter (fun c => c ≠ '\t' ∧ c ≠ '\n' ∧ c ≠ '\x0d')

/-- The scheme at the start of a text, in lower case, and what follows its colon. -/
def scheme? (cs : List Char) : Option (String × List Char) :=
  let name := cs.takeWhile (fun c => c.isAlphanum || c = '+' || c = '-' || c = '.')
  match name, cs.drop name.length with
  | first :: _, ':' :: rest =>
    if first.isAlpha then some (String.ofList (name.map Char.toLower), rest) else none
  | _, _ => none

/-- Host, number and path of an address, behind the two slashes. -/
def withHost (scheme : String) (cs : List Char) : Option (Option String × Option Nat × String) :=
  let special := isSpecial scheme
  let authority := cs.takeWhile (fun c => !isSlash special c)
  let path := cs.drop authority.length
  match authority? scheme authority with
  | some (host, number) => some (some host, number, pathAfterHost special path)
  | none => none

/-- The host of a file; the computer at hand has no name. -/
def fileHost? (cs : List Char) : Option String :=
  if cs = [] then some ""
  else (host? true cs).map fun host => if host = "localhost" then "" else host

/-- Host and path of a file, behind the colon of its scheme. -/
def filePlace? (cs : List Char) : Option (Option String × Option Nat × String) :=
  match (cs.takeWhile (isSlash true)).length with
  | 0 => some (some "", none, pathText true cs)
  | 1 => some (some "", none, pathText true (cs.drop 1))
  | _ =>
    let behind := cs.drop 2
    let name := behind.takeWhile (fun c => !isSlash true c)
    (fileHost? name).map fun host =>
      (some host, none, pathAfterHost true (behind.drop name.length))

/-- Host, number and path of an address, behind the colon of its scheme. -/
def hierarchy? (scheme : String) (cs : List Char) :
    Option (Option String × Option Nat × String) :=
  if scheme = fileScheme then filePlace? cs
  -- Any number of slashes will do, and none as well.
  else if isSpecial scheme then withHost scheme (cs.dropWhile (isSlash true))
  else match cs with
    | '/' :: '/' :: rest => withHost scheme rest
    | '/' :: rest => some (none, none, pathText false rest)
    | _ => some (none, none, spell "" cs)

/-- The address that a text spells. -/
def parse (s : String) : Option Url :=
  match scheme? (clean s.toList) with
  | none => none
  | some (scheme, rest) =>
    let (rest, fragment) := splitFirst '#' rest
    let (rest, query) := splitFirst '?' rest
    match hierarchy? scheme rest with
    | none => none
    | some (host, number, path) =>
      some ⟨scheme, host, number, path, query.map (spell (querySigns (isSpecial scheme))),
        fragment.map (spell fragmentSigns)⟩

/-- A part of an address behind its mark. -/
def marked (mark : String) : Option String → String
  | none => ""
  | some s => mark ++ s

/-- The text of an address. -/
def text (u : Url) : String :=
  u.scheme ++ ":" ++ marked "//" u.host ++ marked ":" (u.number.map toString) ++ u.path ++
    marked "?" u.query ++ marked "#" u.fragment

/-- Whether an address belongs to a server that can be asked. -/
def isWeb (u : Url) : Bool :=
  (u.scheme = "http" || u.scheme = "https") && u.host.isSome

end Url

end DialogStub
