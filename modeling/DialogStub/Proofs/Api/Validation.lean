import DialogStub.Proofs.Api.Endpoint
import DialogStub.Proofs.Json.Given
import DialogStub.Proofs.Platform.Script

/-!
# What endpoints ask of a record

* `AddMessage.ofBytes_text_iff` and its likes — the objects that are records, told key by key;
* `Server.messageEndpoint`, `Server.analysisEndpoint`, `Server.botEndpoint`,
  `Server.relayEndpoint` — the four endpoints that take a record;
* `Server.Saves`, `World.Replies`, `Server.Relays` — what they do with one that lacks nothing;
* `Server.handle_validates` — what is posted to them is rejected, lacks something, or is served.

An empty text may be analyzed, but no other text may be empty. A message may be without an intent,
which may be `null`, and without a type, which may not.
-/

namespace DialogStub

open Http Json

/-! ### Objects that are records -/

section Objects

variable {o : ObjectText}

/-- **Messages to be added** are read from what four keys say. -/
theorem AddMessage.ofBytes_text_iff {a : AddMessage} :
    AddMessage.shape.ofBytes o.text = .ok a ↔
      Says (o.valuesOf "session_id") a.sessionId ∧ Says (o.valuesOf "content") a.content ∧
        Names [("user", .user), ("bot", .bot)] .user (o.valuesOf "message_type") a.type ∧
        Says (o.valuesOf "intent") a.intent := by
  rw [AddMessage.shape, MessageType.shape, Shape.ofBytes_iff_gives, ← o.pairsBut_nil]
  constructor
  · -- The four fields of the record come one after the other, and each is told by one key.
    rintro ⟨⟨sessionId, content, type, intent, ⟨⟩⟩, hgives, rfl⟩
    rw [ObjectText.gives_text_iff (by simp), ObjectText.gives_text_iff (by simp),
      ObjectText.gives_choice_iff (by simp), ObjectText.gives_text_iff (by simp)] at hgives
    obtain ⟨hid, hcontent, htype, hintent, -⟩ := hgives
    exact ⟨hid, hcontent, htype, hintent⟩
  · rintro ⟨hid, hcontent, htype, hintent⟩
    refine ⟨(a.sessionId, a.content, a.type, a.intent, ()), ?_, rfl⟩
    rw [ObjectText.gives_text_iff (by simp), ObjectText.gives_text_iff (by simp),
      ObjectText.gives_choice_iff (by simp), ObjectText.gives_text_iff (by simp)]
    exact ⟨hid, hcontent, htype, hintent, ObjectText.gives_nil⟩

/-- No key of a message comes twice, and its type is not `null`, nor a text that is not one of the
    two names. -/
theorem AddMessage.plain_of_ofBytes_text {a : AddMessage}
    (h : AddMessage.shape.ofBytes o.text = .ok a) :
    (∀ key ∈ ["session_id", "content", "message_type", "intent"], (o.valuesOf key).length ≤ 1) ∧
      o.valuesOf "message_type" ≠ [Utf8.bytes "null"] ∧
      ∀ value s, o.valuesOf "message_type" = [value] → IsText value s → s = "user" ∨ s = "bot" := by
  obtain ⟨hid, hcontent, htype, hintent⟩ := AddMessage.ofBytes_text_iff.mp h
  refine ⟨fun key hkey => ?_, fun hnull => ?_, fun value s hvalue htext => ?_⟩
  · simp only [List.mem_cons, List.not_mem_nil, or_false] at hkey
    rcases hkey with rfl | rfl | rfl | rfl
    · exact hid.length_le_one
    · exact hcontent.length_le_one
    · exact htype.length_le_one
    · exact hintent.length_le_one
  · rw [hnull] at htype
    exact not_names_null htype
  · -- A text that is neither name is looked up in vain.
    rw [hvalue, names_text_iff htext] at htype
    by_contra hother
    rw [not_or] at hother
    rw [lookup_cons_ite, if_neg hother.1, lookup_cons_ite, if_neg hother.2] at htype
    cases htype

/-- Texts to be analyzed are read from what one key says. -/
theorem Analyze.ofBytes_text_iff {a : Analyze} :
    Analyze.shape.ofBytes o.text = .ok a ↔ Says (o.valuesOf "text") a.text := by
  rw [Analyze.shape, Shape.ofBytes_iff_gives, ← o.pairsBut_nil]
  constructor
  · rintro ⟨⟨text, ⟨⟩⟩, hgives, rfl⟩
    rw [ObjectText.gives_text_iff (by simp)] at hgives
    exact hgives.1
  · intro htext
    refine ⟨(a.text, ()), ?_, rfl⟩
    rw [ObjectText.gives_text_iff (by simp)]
    exact ⟨htext, ObjectText.gives_nil⟩

/-- Messages to be answered are read from what two keys say. -/
theorem BotQuestion.ofBytes_text_iff {a : BotQuestion} :
    BotQuestion.shape.ofBytes o.text = .ok a ↔
      Says (o.valuesOf "session_id") a.sessionId ∧ Says (o.valuesOf "message") a.message :=
  Shape.ofBytes_two_texts_iff (by simp) fun _ => rfl

/-- So are messages to be relayed. -/
theorem ChatMessage.ofBytes_text_iff {a : ChatMessage} :
    ChatMessage.shape.ofBytes o.text = .ok a ↔
      Says (o.valuesOf "session_id") a.sessionId ∧ Says (o.valuesOf "message") a.message :=
  Shape.ofBytes_two_texts_iff (by simp) fun _ => rfl

end Objects

/-! ### What is done with a record -/

/-- The answer is 200, and neither the store nor the calls change. -/
def World.Replies (w : World) (response : Response) (w' : World) : Prop :=
  response.status = 200 ∧ w.Beside w'

/-- The layers around the routes do not count. -/
theorem World.Replies.stable {w w₁ w₂ w' : World} {response response' : Response}
    (h : w₁.Replies response w₂) (before : w.Beside w₁) (after : w₂.Beside w')
    (alike : response.Alike response') : w.Replies response' w' :=
  ⟨alike.status_eq.trans h.1, before.trans (h.2.trans after)⟩

/-- A handler that gives a value replies with it. -/
theorem World.Replies.of_handler {handler : Handler} {value : Json} {w w' : World}
    (h : handler w = (.ok value, w')) (beside : w.Beside w') :
    w.Replies (Handler.respond handler w).1 (Handler.respond handler w).2 := by
  rw [Handler.respond_of_ok h]
  exact ⟨rfl, beside⟩

namespace Server

variable {server : Server} {request : Request} {w w₁ w₂ w' : World}
  {response response' : Response}

/-! #### Messages to be added -/

/-- A message is saved if its session is known, and otherwise nothing happens. -/
def Saves (server : Server) (a : AddMessage) (w : World) (response : Response) (w' : World) :
    Prop :=
  ∃ id content, a.sessionId = some id ∧ a.content = some content ∧
    (w.store.get? id = none →
      (ApiError.notFound "Session not found").Tells response ∧ w.Beside w') ∧
    ∀ s, w.store.get? id = some s → response.status = 200 ∧ w'.calls = w.calls ∧
      ∃ n, w.store.append (server.supply.message n id content a.type a.intent) = .ok w'.store

/-- The session is unknown, or the message is saved. -/
theorem Saves.status_cases {a : AddMessage} (h : server.Saves a w response w') :
    response.status = 404 ∨ response.status = 200 := by
  obtain ⟨id, content, -, -, hunknown, hknown⟩ := h
  cases hget : w.store.get? id with
  | none => exact .inl (hunknown hget).1.status_eq
  | some s => exact .inr (hknown s hget).1

/-- What the layers do around it does not count. -/
theorem Saves.stable {a : AddMessage} (h : server.Saves a w₁ response w₂) (before : w.Beside w₁)
    (after : w₂.Beside w') (alike : response.Alike response') : server.Saves a w response' w' := by
  obtain ⟨id, content, hid, hcontent, hunknown, hknown⟩ := h
  refine ⟨id, content, hid, hcontent, fun hget => ?_, fun s hget => ?_⟩
  · rw [← before.store_eq] at hget
    obtain ⟨htells, hbeside⟩ := hunknown hget
    exact ⟨htells.of_alike alike, before.trans (hbeside.trans after)⟩
  · rw [← before.store_eq] at hget
    obtain ⟨hstatus, hcalls, n, happend⟩ := hknown s hget
    refine ⟨alike.status_eq.trans hstatus, ?_, n, ?_⟩
    · rw [after.calls_eq, hcalls, before.calls_eq]
    · rw [after.store_eq, ← before.store_eq]
      exact happend

/-- A message with an id and a content is saved, or its session is unknown. -/
theorem addMessage_saves {a : AddMessage}
    (hrecord : Content.record AddMessage.shape request = .ok a) {id content : String}
    (hid : present a.sessionId = some id) (hcontent : present a.content = some content)
    (w : World) :
    server.Saves a w (Handler.respond (server.addMessage request) w).1
      (Handler.respond (server.addMessage request) w).2 := by
  refine ⟨id, content, eq_some_of_present hid, eq_some_of_present hcontent, fun hget => ?_,
    fun s hget => ?_⟩
  · -- The session is looked up first, and then the store is asked to add the message.
    have unknown : w.store.find? id = none := Option.map_eq_none_iff.mp hget
    exact Handler.tells_of_error (addMessage_of_unknown hrecord hid hcontent unknown)
  · obtain ⟨store, happend⟩ : ∃ store, w.store.append
        (server.supply.message w.drawn id content a.type a.intent) = .ok store :=
      Store.exists_append hget
    obtain ⟨time, w₂, heq, hstore, hcalls, -⟩ := addMessage_accepted hrecord hid hcontent happend
    rw [heq]
    exact ⟨rfl, hcalls, w.drawn, hstore ▸ happend⟩

/-- Messages are added to sessions. -/
def messageEndpoint : Endpoint AddMessage where
  route := .messages
  shape := AddMessage.shape
  demand := .ofTwo "session_id" "content" AddMessage.sessionId AddMessage.content
  handler := addMessage
  Serves := Saves
  served := trivial
  written := rfl
  dispatch_eq _ _ := rfl
  rejects := addMessage_of_error
  refuses hrecord hlacks := addMessage_of_missing hrecord (Demand.lacks_ofTwo_iff.mp hlacks)
  serves _ _ _ hrecord hfull w := by
    obtain ⟨id, content, hid, hcontent⟩ := Demand.exists_of_not_lacks hfull
    exact addMessage_saves hrecord hid hcontent w
  status_ne h := by rcases h.status_cases with h | h <;> simp [h]
  stable := Saves.stable

/-! #### Texts to be analyzed -/

/-- Without a text there is nothing to be analyzed. -/
theorem analyzeText_of_missing {a : Analyze}
    (hrecord : Content.record Analyze.shape request = .ok a) (missing : a.text = none) (w : World) :
    server.analyzeText request w = (.error (.missing "text"), w) := by
  rw [analyzeText, hrecord]
  dsimp only
  rw [missing]
  rfl

/-- A text is analyzed, also an empty one. -/
theorem analyzeText_replies {a : Analyze}
    (hrecord : Content.record Analyze.shape request = .ok a) {text : String}
    (htext : a.text = some text) (w : World) :
    w.Replies (Handler.respond (server.analyzeText request) w).1
      (Handler.respond (server.analyzeText request) w).2 := by
  obtain ⟨value, w', heq, hbeside⟩ :
      ∃ value w', server.analyzeText request w = (.ok value, w') ∧ w.Beside w' := by
    rw [analyzeText, hrecord]
    dsimp only
    rw [htext]
    exact ⟨_, _, rfl, ⟨rfl, Nat.le_succ _⟩, rfl⟩
  exact .of_handler heq hbeside

/-- Texts are analyzed, also an empty one. -/
def analysisEndpoint : Endpoint Analyze where
  route := .nluAnalyze
  shape := Analyze.shape
  demand := ⟨[("text", Analyze.text)], true⟩
  handler := analyzeText
  Serves _ _ := World.Replies
  served := trivial
  written := rfl
  dispatch_eq _ _ := rfl
  rejects hrecord w := by
    rw [analyzeText, hrecord]
    rfl
  refuses hrecord hlacks :=
    analyzeText_of_missing hrecord (by simpa [Demand.Lacks] using hlacks)
  serves _ _ _ hrecord hfull w := by
    obtain ⟨text, htext⟩ := Option.ne_none_iff_exists'.mp (by simpa [Demand.Lacks] using hfull)
    exact analyzeText_replies hrecord htext w
  status_ne h := by simp [h.1]
  stable := World.Replies.stable

/-! #### Messages to be answered -/

/-- Without an id or a message there is nothing to be answered. -/
theorem processMessage_of_missing {a : BotQuestion}
    (hrecord : Content.record BotQuestion.shape request = .ok a)
    (missing : present a.sessionId = none ∨ present a.message = none) (w : World) :
    server.processMessage request w = (.error (.missing "session_id or message"), w) := by
  rw [processMessage, hrecord]
  exact congrFun (both_of_missing _ _ missing) w

/-- A message is answered, for any id. -/
theorem processMessage_replies {a : BotQuestion}
    (hrecord : Content.record BotQuestion.shape request = .ok a) {id message : String}
    (hid : present a.sessionId = some id) (hmessage : present a.message = some message)
    (w : World) :
    w.Replies (Handler.respond (server.processMessage request) w).1
      (Handler.respond (server.processMessage request) w).2 := by
  obtain ⟨value, w', heq, hbeside⟩ :
      ∃ value w', server.processMessage request w = (.ok value, w') ∧ w.Beside w' := by
    rw [processMessage, hrecord]
    dsimp only
    rw [hid, hmessage]
    exact ⟨_, _, rfl, ⟨rfl, Nat.le_succ _⟩, rfl⟩
  exact .of_handler heq hbeside

/-- Messages are answered by the bot, for any session id. -/
def botEndpoint : Endpoint BotQuestion where
  route := .orchestratorProcess
  shape := BotQuestion.shape
  demand := .ofTwo "session_id" "message" BotQuestion.sessionId BotQuestion.message
  handler := processMessage
  Serves _ _ := World.Replies
  served := trivial
  written := rfl
  dispatch_eq _ _ := rfl
  rejects hrecord w := by
    rw [processMessage, hrecord]
    rfl
  refuses hrecord hlacks :=
    processMessage_of_missing hrecord (Demand.lacks_ofTwo_iff.mp hlacks)
  serves _ _ _ hrecord hfull w := by
    obtain ⟨id, message, hid, hmessage⟩ := Demand.exists_of_not_lacks hfull
    exact processMessage_replies hrecord hid hmessage w
  status_ne h := by simp [h.1]
  stable := World.Replies.stable

/-! #### Messages to be relayed -/

/-- A message is relayed: the client is called once, and the answer depends on what it says. The
    one call goes out if the address is one of the web. -/
def Relays (server : Server) (a : ChatMessage) (w : World) (response : Response) (w' : World) :
    Prop :=
  ∃ id message, a.sessionId = some id ∧ a.message = some message ∧ w'.store = w.store ∧
    (∃ w₁, w.Beside w₁ ∧ (server.client.sendMessage id message w₁).2.Beside w' ∧
      response.status = if (server.client.sendMessage id message w₁).1.isOk then 200 else 500) ∧
    (∀ u, server.client.url? "chat/messages" = some u →
      w'.calls = w.calls ++ [sending u id message]) ∧
    (server.client.url? "chat/messages" = none → response.status = 500 ∧ w'.calls = w.calls)

/-- A relayed message is answered with 200 or 500. -/
theorem Relays.status_cases {a : ChatMessage} (h : server.Relays a w response w') :
    response.status = 200 ∨ response.status = 500 := by
  obtain ⟨id, message, -, -, -, ⟨w₁, -, -, hstatus⟩, -⟩ := h
  rw [hstatus]
  split
  · exact .inl rfl
  · exact .inr rfl

/-- The layers around the relay do not count. -/
theorem Relays.stable {a : ChatMessage} (h : server.Relays a w₁ response w₂) (before : w.Beside w₁)
    (after : w₂.Beside w') (alike : response.Alike response') :
    server.Relays a w response' w' := by
  obtain ⟨id, message, hid, hmessage, hstore, ⟨w₀, hw₀, hsent, hstatus⟩, hgone, hkept⟩ := h
  refine ⟨id, message, hid, hmessage, ?_, ⟨w₀, before.trans hw₀, hsent.trans after,
    alike.status_eq.trans hstatus⟩, fun u hu => ?_, fun hnone => ?_⟩
  · rw [after.store_eq, hstore, before.store_eq]
  · rw [after.calls_eq, hgone u hu, before.calls_eq]
  · obtain ⟨hstatus', hcalls⟩ := hkept hnone
    exact ⟨alike.status_eq.trans hstatus', by rw [after.calls_eq, hcalls, before.calls_eq]⟩

/-- Without an id or a message there is nothing to be relayed. -/
theorem chatMessage_of_missing {a : ChatMessage}
    (hrecord : Content.record ChatMessage.shape request = .ok a)
    (missing : present a.sessionId = none ∨ present a.message = none) (w : World) :
    server.chatMessage request w = (.error (.missing "session_id or message"), w) := by
  rw [chatMessage, hrecord]
  exact congrFun (both_of_missing _ _ missing) w

/-- What the client brings is told. -/
theorem chatMessage_of_turn {a : ChatMessage} {turn : BotTurn}
    (hrecord : Content.record ChatMessage.shape request = .ok a) {id message : String}
    (hid : present a.sessionId = some id) (hmessage : present a.message = some message)
    (hsend : server.client.sendMessage id message w = (.ok turn, w₁)) :
    ∃ w₂, server.chatMessage request w = (.ok (ChatAnswer.shape.toJson
        ⟨"message_sent", message, turn.botResponse, turn.sessionActive.getD true⟩), w₂) ∧
      w₁.Beside w₂ := by
  rw [chatMessage, hrecord]
  dsimp only
  rw [hid, hmessage]
  dsimp only
  rw [Effect.bind_apply, hsend]
  exact ⟨_, rfl, .logging _ _⟩

/-- Why the client brings nothing is told. -/
theorem chatMessage_of_error {a : ChatMessage} {e : PlatformError}
    (hrecord : Content.record ChatMessage.shape request = .ok a) {id message : String}
    (hid : present a.sessionId = some id) (hmessage : present a.message = some message)
    (hsend : server.client.sendMessage id message w = (.error e, w₁)) :
    server.chatMessage request w = (.error (.platform (notSent ++ (": " ++ e.message))),
      w₁.logging [⟨.error, notSent, [("error", e.message)]⟩]) := by
  -- The record is read, both fields are there, and the call has failed: nothing else is done.
  rw [chatMessage, hrecord]
  dsimp only
  rw [hid, hmessage]
  dsimp only
  rw [Effect.bind_apply, hsend]
  dsimp only
  rw [Effect.bind_apply, callFailed_eq]
  rfl

/-- What is made of the answer of the client. -/
theorem chatMessage_respond {a : ChatMessage}
    (hrecord : Content.record ChatMessage.shape request = .ok a) {id message : String}
    (hid : present a.sessionId = some id) (hmessage : present a.message = some message)
    (w : World) :
    (server.client.sendMessage id message w).2.Beside
        (Handler.respond (server.chatMessage request) w).2 ∧
      (Handler.respond (server.chatMessage request) w).1.status =
        if (server.client.sendMessage id message w).1.isOk then 200 else 500 := by
  obtain ⟨result, w₁, hsend⟩ : ∃ result w₁, server.client.sendMessage id message w = (result, w₁) :=
    ⟨_, _, rfl⟩
  -- The status is that of the result of the call, in words of its own for a failure.
  rw [hsend]
  cases result with
  | ok turn =>
    obtain ⟨w₂, heq, hbeside⟩ := chatMessage_of_turn hrecord hid hmessage hsend
    rw [Handler.respond_of_ok heq]
    exact ⟨hbeside, rfl⟩
  | error e =>
    obtain ⟨htells, hbeside⟩ :=
      Handler.tells_of_error (chatMessage_of_error hrecord hid hmessage hsend)
    exact ⟨(World.Beside.logging _ _).trans hbeside, htells.status_eq⟩

/-- A message with an id is relayed, with one call at most. -/
theorem chatMessage_relays {a : ChatMessage}
    (hrecord : Content.record ChatMessage.shape request = .ok a) {id message : String}
    (hid : present a.sessionId = some id) (hmessage : present a.message = some message)
    (w : World) :
    server.Relays a w (Handler.respond (server.chatMessage request) w).1
      (Handler.respond (server.chatMessage request) w).2 := by
  obtain ⟨hsent, hstatus⟩ := chatMessage_respond hrecord hid hmessage w
  refine ⟨id, message, eq_some_of_present hid, eq_some_of_present hmessage, ?_,
    ⟨w, .refl w, hsent, hstatus⟩, fun u hu => ?_, fun hnone => ?_⟩
  · rw [hsent.store_eq]
    exact ((server.client.post_looks _ _ _).keepsStore w).store_eq
  · obtain ⟨fault, hsend⟩ := sendMessage_eq hu id message w
    rw [hsent.calls_eq, hsend]
    rfl
  · -- Without an address the client fails by itself.
    obtain ⟨fault, hsend⟩ := Platform.Client.post_of_no_url hnone BotTurn.shape
      (object [("session_id", .str id), ("content", .str message)]) w
    have hsend' : server.client.sendMessage id message w = _ := hsend
    rw [hsend'] at hstatus hsent
    exact ⟨hstatus, hsent.calls_eq⟩

/-- Messages are relayed to the platform. -/
def relayEndpoint : Endpoint ChatMessage where
  route := .chatMessage
  shape := ChatMessage.shape
  demand := .ofTwo "session_id" "message" ChatMessage.sessionId ChatMessage.message
  handler := chatMessage
  Serves := Relays
  served := trivial
  written := rfl
  dispatch_eq _ _ := rfl
  rejects hrecord w := by
    rw [chatMessage, hrecord]
    rfl
  refuses hrecord hlacks := chatMessage_of_missing hrecord (Demand.lacks_ofTwo_iff.mp hlacks)
  serves _ _ _ hrecord hfull w := by
    obtain ⟨id, message, hid, hmessage⟩ := Demand.exists_of_not_lacks hfull
    exact chatMessage_relays hrecord hid hmessage w
  status_ne h := by rcases h.status_cases with h | h <;> simp [h]
  stable := Relays.stable

/-! ### All of them -/

/-- What is posted to one of the four endpoints gets one of its answers. -/
structure Validates (server : Server) (request : Request) (w : World) (result : Response × World) :
    Prop where
  message : messageEndpoint.Receives request →
    messageEndpoint.Answers server request w result.1 result.2
  analysis : analysisEndpoint.Receives request →
    analysisEndpoint.Answers server request w result.1 result.2
  bot : botEndpoint.Receives request → botEndpoint.Answers server request w result.1 result.2
  relay : relayEndpoint.Receives request →
    relayEndpoint.Answers server request w result.1 result.2

/-- **Validation.** Whatever is posted to one of the four endpoints, with any header fields and any
    body, it gets one of three answers: it is rejected with 400, if it brings no record; it is told
    what is missing with 400, if the record lacks a field; or it is served, and not with 400.
    Nothing happens in the first two cases. This holds of the routes, and of the server with its
    layers, where a body that comes to its end has the size announced for it. If the trace cannot
    read a body, the answer is 400 in any case. The last parts say which objects are records, so
    that a key that comes twice, or a type that is not known, is rejected. -/
theorem handle_validates (server : Server) (request : Request) (w : World) :
    server.Validates request w (server.route request w) ∧
    (Trace.isReadable request.headers request.body = true ∨ request.body.Faithful →
      server.Validates request w (server.handle request w)) ∧
    (Trace.isReadable request.headers request.body = false →
      (server.handle request w).1.status = 400 ∧ w.Beside (server.handle request w).2) ∧
    (∀ (o : ObjectText) (a : AddMessage), AddMessage.shape.ofBytes o.text = .ok a ↔
      Says (o.valuesOf "session_id") a.sessionId ∧ Says (o.valuesOf "content") a.content ∧
        Names [("user", .user), ("bot", .bot)] .user (o.valuesOf "message_type") a.type ∧
        Says (o.valuesOf "intent") a.intent) ∧
    (∀ (o : ObjectText) (a : AddMessage), AddMessage.shape.ofBytes o.text = .ok a →
      (∀ key ∈ ["session_id", "content", "message_type", "intent"], (o.valuesOf key).length ≤ 1) ∧
        o.valuesOf "message_type" ≠ [Utf8.bytes "null"] ∧
        ∀ value s, o.valuesOf "message_type" = [value] → IsText value s →
          s = "user" ∨ s = "bot") ∧
    (∀ (o : ObjectText) (a : Analyze), Analyze.shape.ofBytes o.text = .ok a ↔
      Says (o.valuesOf "text") a.text) ∧
    (∀ (o : ObjectText) (a : BotQuestion), BotQuestion.shape.ofBytes o.text = .ok a ↔
      Says (o.valuesOf "session_id") a.sessionId ∧ Says (o.valuesOf "message") a.message) ∧
    ∀ (o : ObjectText) (a : ChatMessage), ChatMessage.shape.ofBytes o.text = .ok a ↔
      Says (o.valuesOf "session_id") a.sessionId ∧ Says (o.valuesOf "message") a.message := by
  refine ⟨?_, fun sent => ?_, fun unreadable => server.handle_of_not_readable unreadable w,
    fun _ _ => AddMessage.ofBytes_text_iff, fun _ _ => AddMessage.plain_of_ofBytes_text,
    fun _ _ => Analyze.ofBytes_text_iff, fun _ _ => BotQuestion.ofBytes_text_iff,
    fun _ _ => ChatMessage.ofBytes_text_iff⟩
  · -- Each of the four is an endpoint of its own.
    exact ⟨fun h => Endpoint.route_answers h w, fun h => Endpoint.route_answers h w,
      fun h => Endpoint.route_answers h w, fun h => Endpoint.route_answers h w⟩
  · exact ⟨fun h => Endpoint.handle_answers h sent w, fun h => Endpoint.handle_answers h sent w,
      fun h => Endpoint.handle_answers h sent w, fun h => Endpoint.handle_answers h sent w⟩

/-- An empty text is analyzed, and an empty content is not added. -/
example :
    let post (path body : String) : Request :=
      ⟨.post, ⟨path⟩, [("content-type", Utf8.bytes "application/json")], .full (Utf8.bytes body)⟩
    (sample.handle (post "/api/v1/nlu/analyze" "\x7b\"text\":\"\"\x7d") sample.initial).1.status
        = 200 ∧
      (sample.handle (post "/api/v1/chat/messages"
        "\x7b\"session_id\":\"a\",\"content\":\"\"\x7d") sample.initial).1.status = 400 := by
  decide +kernel

end Server

end DialogStub
