import DialogStub.Api.ChatBodies
import DialogStub.Platform.Client
import DialogStub.Proofs.Json.Record

/-!
# What client and server read of each other

* `Wire.addMessage_ofBytes` — the record of a message that a client sends;
* `Wire.sessionStarted_ofBytes`, `Wire.botTurn_ofBytes` — what a client reads of the answers to a
  new session and to a message.

The records of the two sides differ: a client leaves out what has a default, and passes over what
it does not know.
-/

namespace DialogStub.Wire

open Json

/-- What a client sends for a message. -/
def messageBody (id content : String) : Json :=
  object [("session_id", .str id), ("content", .str content)]

/-- The members of a message stand in the order of their keys. -/
theorem messageBody_eq (id content : String) :
    messageBody id content = .obj [("content", .str content), ("session_id", .str id)] := by
  have hlt : "content" < "session_id" := by decide
  simp [messageBody, object, Json.insert, hlt]

/-- **Messages.** A server reads a message of a client with its session and its content, from a
    user and without an intent. -/
theorem addMessage_ofBytes (id content : String) :
    AddMessage.shape.ofBytes (messageBody id content).print
      = .ok ⟨some id, some content, .user, none⟩ := by
  rw [messageBody_eq]
  refine Shape.ofBytes_print (some (some id), some (some content), none, none, ())
    (some id, some content, MessageType.user, none, ()) ?_ rfl
  refine .cons (.there (by decide) (.here (Shape.reads_option_text content))) ?_
  refine .cons (.here (Shape.reads_option_text id)) ?_
  exact .nil _

/-- **New sessions.** A client reads the id of a new session from the answer of a server. -/
theorem sessionStarted_ofBytes (created : SessionCreated) :
    SessionStarted.shape.ofBytes (SessionCreated.shape.toJson created).print
      = .ok ⟨some created.sessionId, none, none⟩ := by
  refine Shape.ofBytes_print (some (some created.sessionId), none, none, ())
    (some created.sessionId, none, none, ()) ?_ rfl
  refine .cons (.here (Shape.reads_option_text created.sessionId)) ?_
  refine .cons (.there (by decide) (.there (by decide) (.there (by decide) (.unknown_str _)))) ?_
  refine .cons (.there (by decide) (.there (by decide) (.there (by decide) (.unknown_int _)))) ?_
  exact .nil _

/-- **Turns.** A client reads neither an answer of a bot nor an end from what a server says of a
    message. -/
theorem botTurn_ofBytes (saved : MessageSaved) :
    BotTurn.shape.ofBytes (MessageSaved.shape.toJson saved).print = .ok ⟨none, none⟩ := by
  refine Shape.ofBytes_print (none, none, ()) (none, none, ()) ?_ rfl
  refine .cons (.there (by decide) (.there (by decide) (.unknown_str _))) ?_
  refine .cons (.there (by decide) (.there (by decide) (.unknown_bool _))) ?_
  refine .cons (.there (by decide) (.there (by decide) (.unknown_int _))) ?_
  exact .nil _

end DialogStub.Wire
