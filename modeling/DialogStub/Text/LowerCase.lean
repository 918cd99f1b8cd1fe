import DialogStub.Text.CaseTable

/-!
# The lower-case form of a text

Every capital goes to its lower-case form. Two capitals are special: U+0130 has two
characters for its form, and a sigma that ends a word has a form of its own.

* `lowerChar` — the form of a character wherever it stands;
* `endsWord` — whether a sigma between two stretches of text ends a word;
* `lowerCase` — the form of a text.
-/

namespace DialogStub.Text

/-! ### Single characters -/

/-- The form of the character with code point `n` by a table of runs in order. -/
def shiftBy (n : Nat) : List Case.Run → Nat
  | [] => n
  | run :: rest =>
    if n < run.first then n
    else if n ≤ run.last then
      if (n - run.first) % run.step = 0 then (n + run.shift).toNat else n
    else shiftBy n rest

/-- The lower-case form of one character, its place in the text left out of account. -/
def lowerChar (c : Char) : List Char :=
  if c = 'İ' then ['i', '\u0307'] else [Char.ofNat (shiftBy c.toNat Case.lowered)]

/-! ### Words -/

/-- Whether `n` lies in one of the ranges, which stand in order. -/
def inRanges (n : Nat) : List (Nat × Nat) → Bool
  | [] => false
  | (first, last) :: rest =>
    if n < first then false else if n ≤ last then true else inRanges n rest

/-- Whether the first character that Case_Ignorable does not pass over is Cased. -/
def meetsCased : List Char → Bool
  | [] => false
  | c :: rest =>
    if inRanges c.toNat Case.ignorable then meetsCased rest else inRanges c.toNat Case.cased

/-- Whether a capital sigma ends a word: a cased letter stands before it and none behind it.
    `before` is the text before it, last character first. -/
def endsWord (before after : List Char) : Bool :=
  meetsCased before && !meetsCased after

/-! ### Texts -/

/-- The lower-case form of the rest of a text; `before` holds what precedes it and `done` the
    form of that, both last character first. -/
def lowerFrom (before done : List Char) : List Char → List Char
  | [] => done.reverse
  | c :: rest =>
    let form :=
      if c = 'Σ' then [if endsWord before rest then 'ς' else 'σ'] else lowerChar c
    lowerFrom (c :: before) (form.reverse ++ done) rest

/-- The lower-case form of a text. -/
def lowerCase (cs : List Char) : List Char :=
  lowerFrom [] [] cs

@[simp] theorem lowerCase_nil : lowerCase [] = [] := rfl

end DialogStub.Text
