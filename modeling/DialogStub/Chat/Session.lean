import DialogStub.Json.Shape

/-!
# Chat sessions

* `SessionStatus` — whether a conversation goes on;
* `Session` — a conversation as the store holds it and as the API lists it;
* `Session.fresh` — one that has just begun.
-/

namespace DialogStub

open Json

/-- Whether a conversation goes on. It is set once and never changes. -/
inductive SessionStatus where
  | active
  | completed
  deriving DecidableEq, Repr

/-- The name of a status. -/
def SessionStatus.name : SessionStatus → String
  | .active => "active"
  | .completed => "completed"

/-- A status in JSON. -/
def SessionStatus.shape : Shape SessionStatus :=
  .choice "SessionStatus"
    (some "Lifecycle state of a chat session. Set once, never transitioned by the mock.")
    [("active", .active), ("completed", .completed)] SessionStatus.name
    (by intro a; cases a <;> decide)

/-- A conversation: who talks, how many messages there were, and the last of them. -/
structure Session where
  id : String
  status : SessionStatus
  startTime : Timestamp
  messageCount : Nat
  lastMessage : String
  userId : Option String
  scenarioId : Option String
  deriving DecidableEq

/-- A session that has just begun. -/
def Session.fresh (id : String) (startTime : Timestamp) : Session :=
  ⟨id, .active, startTime, 0, "", none, none⟩

/-- Whether a session goes on. -/
def Session.isActive (s : Session) : Bool :=
  s.status = .active

/-- The session after one more message. The count is a number without bound: what 64 bits would make
    of the message after number `2 ^ 64 - 1` is left out. -/
def Session.addMessage (s : Session) (content : String) : Session :=
  { s with messageCount := s.messageCount + 1, lastMessage := content }

/-- The fields of a session in JSON. -/
def Session.fields :
    Fields (Option String × Option SessionStatus × Option Timestamp × Option Nat ×
        Option String × Option (Option String) × Option (Option String) × Unit)
      (String × SessionStatus × Timestamp × Nat × String × Option String × Option String × Unit) :=
  .cons (.plain "session_id") .text <|
  .cons (.plain "status") SessionStatus.shape <|
  .cons (.plain "start_time") .time <|
  .cons (.plain "message_count") .word <|
  .cons ⟨"last_message", some "", false,
    some "Content of the most recent message; empty until the first one."⟩ .text <|
  .cons (.defaulting "user_id" none) (.option .text) <|
  .cons (.defaulting "scenario_id" none) (.option .text) <|
  .nil

/-- A session in JSON. -/
def Session.shape : Shape Session :=
  .record "Session" (some "A tracked conversation, as held by the store and listed by the API.")
    Session.fields
    (fun (id, status, start, count, last, user, scenario, ()) =>
      ⟨id, status, start, count, last, user, scenario⟩)
    (fun s => (s.id, s.status, s.startTime, s.messageCount, s.lastMessage, s.userId,
      s.scenarioId, ()))
    (fun _ => rfl)

@[simp] theorem Session.addMessage_id (s : Session) (content : String) :
    (s.addMessage content).id = s.id := rfl

@[simp] theorem Session.addMessage_status (s : Session) (content : String) :
    (s.addMessage content).status = s.status := rfl

end DialogStub
