import DialogStub.Json.Shape

/-!
# Messages

* `MessageType` — who wrote a message;
* `Message` — one entry of the history of a session.
-/

namespace DialogStub

open Json

/-- Who wrote a message. -/
inductive MessageType where
  | user
  | bot
  deriving DecidableEq, Repr

/-- The name of an author. -/
def MessageType.name : MessageType → String
  | .user => "user"
  | .bot => "bot"

/-- An author in JSON. -/
def MessageType.shape : Shape MessageType :=
  .choice "MessageType" (some "Author of a chat message.") [("user", .user), ("bot", .bot)]
    MessageType.name (by intro a; cases a <;> decide)

/-- One entry of the history of a session. -/
structure Message where
  id : String
  sessionId : String
  type : MessageType
  content : String
  intent : Option String
  timestamp : Timestamp
  deriving DecidableEq

/-- The fields of a message in JSON. -/
def Message.fields :
    Fields (Option String × Option String × Option MessageType × Option String ×
        Option (Option String) × Option Timestamp × Unit)
      (String × String × MessageType × String × Option String × Timestamp × Unit) :=
  .cons (.plain "id") .text <|
  .cons (.plain "session_id") .text <|
  .cons (.plain "type") MessageType.shape <|
  .cons (.plain "content") .text <|
  .cons (.plain "intent") (.option .text) <|
  .cons (.plain "timestamp") .time <|
  .nil

/-- A message in JSON. -/
def Message.shape : Shape Message :=
  .record "Message" (some "A single message appended to a session's history.") Message.fields
    (fun (id, sessionId, type, content, intent, timestamp, ()) =>
      ⟨id, sessionId, type, content, intent, timestamp⟩)
    (fun m => (m.id, m.sessionId, m.type, m.content, m.intent, m.timestamp, ()))
    (fun _ => rfl)

end DialogStub
