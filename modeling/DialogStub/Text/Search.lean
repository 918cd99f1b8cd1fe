/-!
# Searching text

* `Text.contains` — whether a word stands somewhere in a text.
-/

namespace DialogStub.Text

/-- Whether `word` stands somewhere in a text. -/
def contains (word : List Char) : List Char → Bool
  | [] => word.isEmpty
  | c :: cs => word.isPrefixOf (c :: cs) || contains word cs

end DialogStub.Text
