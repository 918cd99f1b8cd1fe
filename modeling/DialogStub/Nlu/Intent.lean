import DialogStub.Json.Shape
import DialogStub.Text.LowerCase
import DialogStub.Text.Search

/-!
# Intents

What a message wants, told by keywords alone. The text is put into lower case and searched for a
few words; a greeting wins over a question about the balance.

* `Intent` — what a message wants;
* `classify` — the intent of a text and how sure it is;
* `BotReplies`, `botReply` — the fixed answer for each intent.
-/

namespace DialogStub

open Json

/-- What a message wants. -/
inductive Intent where
  | greeting
  | checkBalance
  | unknown
  deriving DecidableEq, Repr

/-- The name of an intent. -/
def Intent.name : Intent → String
  | .greeting => "greeting"
  | .checkBalance => "check_balance"
  | .unknown => "unknown"

/-- An intent in JSON. -/
def Intent.shape : Shape Intent :=
  .choice "Intent" none
    [("greeting", .greeting), ("check_balance", .checkBalance), ("unknown", .unknown)]
    Intent.name (by intro a; cases a <;> decide)

/-- The scenario that suits an intent. -/
def Intent.suggestedScenario : Intent → String
  | .greeting => "greeting-001"
  | _ => "help-001"

/-! ### Keywords -/

/-- The words of a greeting. -/
def greetingWords : List String := ["привет", "здравствуй"]

/-- The words of a question about the balance. -/
def balanceWords : List String := ["баланс"]

/-- Whether one of some words stands in a text. -/
def containsAny (words : List String) (cs : List Char) : Bool :=
  words.any (fun word => Text.contains word.toList cs)

/-- The intent of a text. -/
def intentOf (text : String) : Intent :=
  let lower := Text.lowerCase text.toList
  if containsAny greetingWords lower then .greeting
  else if containsAny balanceWords lower then .checkBalance
  else .unknown

/-- How sure an intent is, as a decimal fraction: hundredths. -/
def Intent.hundredths : Intent → Nat
  | .greeting => 95
  | .checkBalance => 89
  | .unknown => 50

/-- How sure an intent is. -/
def Intent.confidence (intent : Intent) : Binary64 :=
  (Binary64.ofRatio false intent.hundredths 100).getD (Binary64.zero false)

/-- An intent, and how sure it is. -/
structure Classification where
  intent : Intent
  confidence : Binary64
  deriving DecidableEq, Repr

/-- What a text wants. -/
def classify (text : String) : Classification :=
  ⟨intentOf text, (intentOf text).confidence⟩

/-! ### Replies -/

/-- The fixed answers, one for each intent. -/
structure BotReplies where
  greeting : String
  checkBalance : String
  fallback : String
  deriving DecidableEq, Repr

/-- The fixed answers in JSON. -/
def BotReplies.shape : Shape BotReplies :=
  .record "BotReplies" none
    (.cons (.plain "greeting") .text <| .cons (.plain "check_balance") .text <|
      .cons (.plain "fallback") .text .nil)
    (fun (greeting, checkBalance, fallback, ()) => ⟨greeting, checkBalance, fallback⟩)
    (fun r => (r.greeting, r.checkBalance, r.fallback, ()))
    (fun _ => rfl)

/-- The answer for an intent. -/
def BotReplies.forIntent (replies : BotReplies) : Intent → String
  | .greeting => replies.greeting
  | .checkBalance => replies.checkBalance
  | .unknown => replies.fallback

/-- The answer to a message. -/
def botReply (message : String) (replies : BotReplies) : String :=
  replies.forIntent (classify message).intent

end DialogStub
