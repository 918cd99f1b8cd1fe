import DialogStub.Proofs.Api.Restart
import DialogStub.Proofs.Api.Validation

/-!
# Operations of one call

A conversation is opened, and a message is passed on, by one call to the platform. The health of the
server asks for the health of the platform.

* `Reply.Brings` — what comes back for a call is a record;
* `SingleCall` — an operation of one call: what is posted, what is read, and how it fails;
* `SingleCall.Runs` — what such an operation does, whatever comes back;
* `Server.handle_single` — the three operations do this, and what the platform gets and gives is
  read as it is meant.

A platform may answer as it likes. An operation succeeds with a record in an answer with the status
200, and with nothing else; and it is never tried again.
-/

namespace DialogStub

open Http Json

/-! ### What comes back -/

/-- An answer comes back, with the status 200 and no other, and its body is read as a record. -/
def Reply.Brings {α : Type} (reply : Reply) (shape : Shape α) (a : α) : Prop :=
  ∃ bytes, reply = .answered 200 bytes ∧ shape.ofBytes bytes = .ok a

/-- A call is taken if it brings a record, and only then. -/
theorem Reply.outcome_eq_taken_iff {α : Type} {reply : Reply} {shape : Shape α} {a : α} :
    reply.outcome shape = .taken a ↔ reply.Brings shape a := by
  cases reply with
  | failed => exact iff_of_false nofun nofun
  | answered status bytes =>
    unfold outcome
    dsimp only
    constructor
    · -- Only status 200 with a body that is read counts.
      intro h
      split at h
      · rename_i hstatus
        split at h
        · rename_i hread
          cases h
          exact ⟨bytes, by rw [hstatus], hread⟩
        · cases h
      · cases h
    · rintro ⟨bytes', hreply, hread⟩
      cases hreply
      rw [if_pos rfl, hread]

section Records

variable {o : ObjectText}

/-- **What is read of a new session**: three texts, each of which may be missing or `null`. -/
theorem SessionStarted.ofBytes_text_iff {a : SessionStarted} :
    SessionStarted.shape.ofBytes o.text = .ok a ↔
      Says (o.valuesOf "session_id") a.sessionId ∧
        Says (o.valuesOf "initial_message") a.initialMessage ∧
        Says (o.valuesOf "node_type") a.nodeType := by
  rw [SessionStarted.shape, Shape.ofBytes_iff_gives, ← o.pairsBut_nil]
  constructor
  · rintro ⟨⟨sessionId, initialMessage, nodeType, ⟨⟩⟩, hgives, rfl⟩
    rw [ObjectText.gives_text_iff (by simp), ObjectText.gives_text_iff (by simp),
      ObjectText.gives_text_iff (by simp)] at hgives
    obtain ⟨hid, hmessage, htype, -⟩ := hgives
    exact ⟨hid, hmessage, htype⟩
  · rintro ⟨hid, hmessage, htype⟩
    refine ⟨(a.sessionId, a.initialMessage, a.nodeType, ()), ?_, rfl⟩
    rw [ObjectText.gives_text_iff (by simp), ObjectText.gives_text_iff (by simp),
      ObjectText.gives_text_iff (by simp)]
    exact ⟨hid, hmessage, htype, ObjectText.gives_nil⟩

/-- **What is read of a turn**: a text and a flag, each of which may be missing or `null`. -/
theorem BotTurn.ofBytes_text_iff {a : BotTurn} :
    BotTurn.shape.ofBytes o.text = .ok a ↔
      Says (o.valuesOf "bot_response") a.botResponse ∧
        SaysFlag (o.valuesOf "session_active") a.sessionActive := by
  rw [BotTurn.shape, Shape.ofBytes_iff_gives, ← o.pairsBut_nil]
  constructor
  · rintro ⟨⟨botResponse, sessionActive, ⟨⟩⟩, hgives, rfl⟩
    rw [ObjectText.gives_text_iff (by simp), ObjectText.gives_flag_iff (by simp)] at hgives
    exact ⟨hgives.1, hgives.2.1⟩
  · rintro ⟨hresponse, hactive⟩
    refine ⟨(a.botResponse, a.sessionActive, ()), ?_, rfl⟩
    rw [ObjectText.gives_text_iff (by simp), ObjectText.gives_flag_iff (by simp)]
    exact ⟨hresponse, hactive, ObjectText.gives_nil⟩

end Records

/-- **What is sent for a message** is read as an object with the two texts. -/
theorem Wire.ofBytes_messageBody (id content : String) :
    Json.ofBytes (messageBody id content).print =
      .ok (.obj [("content", .str content), ("session_id", .str id)]) := by
  have hnot : ¬"session_id" < "content" := by decide
  have hne : "session_id" ≠ "content" := by decide
  -- The keys stand in their order, so that they are put back as they came.
  have hobject : object [("content", .str content), ("session_id", .str id)] =
      .obj [("content", .str content), ("session_id", .str id)] := by
    simp only [object, List.foldl_cons, List.foldl_nil, Json.insert, if_neg hnot, if_neg hne]
  rw [messageBody_eq]
  exact (ofBytes_print_texts [("content", content), ("session_id", id)]).trans
    (congrArg Except.ok hobject)

/-! ### One call -/

/-- An operation of one call: what is posted where, what is read, how the answer begins if nothing
    can be read, and what is told of a record. -/
structure SingleCall (α : Type) where
  path : String
  body : Json
  shape : Shape α
  start : String
  told : α → Json

namespace SingleCall

variable {α : Type} (call : SingleCall α) {server : Server} {w w₁ w₂ w' : World}
  {response response' : Response}

/-- What comes back if the call goes to an address. -/
def reply (server : Server) (w : World) (u : Url) : Reply :=
  server.client.platform (w.calls ++ [.post u call.body])

/-- The operation has failed, and the error begins as it should. -/
def Fails (response : Response) : Prop :=
  ∃ detail, (ApiError.platform (call.start ++ (": " ++ detail))).Tells response

/-- What the operation does. Without an address of the web it fails and calls nobody. Otherwise the
    platform is called once, and the operation succeeds if this brings a record. -/
structure Runs (server : Server) (w : World) (response : Response) (w' : World) : Prop where
  store_eq : w'.store = w.store
  calls_eq : ∀ u, server.client.url? call.path = some u →
    w'.calls = w.calls ++ [.post u call.body]
  succeeds : ∀ u, server.client.url? call.path = some u →
    ∀ a, (call.reply server w u).Brings call.shape a →
      response.status = 200 ∧ response.body.bytes = (call.told a).print
  fails : ∀ u, server.client.url? call.path = some u →
    (∀ a, ¬(call.reply server w u).Brings call.shape a) → call.Fails response
  unreached : server.client.url? call.path = none → w'.calls = w.calls ∧ call.Fails response

/-- A handler makes the call, tells of the record, and says why there is none. -/
structure MadeBy (server : Server) (handler : Handler) : Prop where
  ok_of_ok : ∀ {w w' a}, server.client.post call.shape call.path call.body w = (.ok a, w') →
    ∃ w'', handler w = (.ok (call.told a), w'') ∧ w'.Beside w''
  error_of_error : ∀ {w w' e},
    server.client.post call.shape call.path call.body w = (.error e, w') →
    ∃ w'', handler w = (.error (.platform (call.start ++ (": " ++ e.message))), w'') ∧ w'.Beside w''

variable {call}

/-- A call that is made brings a record, or not. -/
theorem post_cases {u : Url} (h : server.client.url? call.path = some u) (w : World) :
    (∃ a, (call.reply server w u).Brings call.shape a ∧
      server.client.post call.shape call.path call.body w
        = (.ok a, w.calling (.post u call.body))) ∨
    ((∀ a, ¬(call.reply server w u).Brings call.shape a) ∧
      ∃ e, server.client.post call.shape call.path call.body w
        = (.error e, w.calling (.post u call.body))) := by
  obtain ⟨fault, hpost⟩ := Platform.Client.post_eq h call.shape call.body w
  have hends : server.client.post call.shape call.path call.body w =
      (((call.reply server w u).outcome call.shape).result (server.client.address call.path) fault,
        w.calling (.post u call.body)) := hpost
  -- A reply is taken if it brings what the call wants, and only then.
  cases houtcome : (call.reply server w u).outcome call.shape with
  | taken a =>
    rw [houtcome] at hends
    exact .inl ⟨a, Reply.outcome_eq_taken_iff.mp houtcome, hends⟩
  | refused status =>
    rw [houtcome] at hends
    refine .inr ⟨fun a ha => ?_, _, hends⟩
    rw [Reply.outcome_eq_taken_iff.mpr ha] at houtcome
    cases houtcome
  | lost =>
    rw [houtcome] at hends
    refine .inr ⟨fun a ha => ?_, _, hends⟩
    rw [Reply.outcome_eq_taken_iff.mpr ha] at houtcome
    cases houtcome

/-- **One call.** The response of a handler that makes the call is what the operation does. -/
theorem MadeBy.runs {handler : Handler} (h : call.MadeBy server handler) (w : World) :
    call.Runs server w (Handler.respond handler w).1 (Handler.respond handler w).2 := by
  have hfails {e : PlatformError} {w' : World}
      (hpost : server.client.post call.shape call.path call.body w = (.error e, w')) :
      call.Fails (Handler.respond handler w).1 ∧ w'.Beside (Handler.respond handler w).2 := by
    obtain ⟨w'', hhandler, hbeside⟩ := h.error_of_error hpost
    obtain ⟨htells, hbeside'⟩ := Handler.tells_of_error hhandler
    exact ⟨⟨e.message, htells⟩, hbeside.trans hbeside'⟩
  -- Without an address all that is said of addresses is empty, and with one it is said of this one.
  cases hurl : server.client.url? call.path with
  | none =>
    obtain ⟨fault, hpost⟩ := Platform.Client.post_of_no_url hurl call.shape call.body w
    obtain ⟨hfailed, hbeside⟩ := hfails hpost
    exact ⟨hbeside.store_eq, by simp [hurl], by simp [hurl], by simp [hurl],
      fun _ => ⟨hbeside.calls_eq, hfailed⟩⟩
  | some u =>
    have hsame {u' : Url} (hu' : server.client.url? call.path = some u') : u' = u :=
      Option.some.inj (hu'.symm.trans hurl)
    rcases post_cases hurl w with ⟨a, hbrings, hpost⟩ | ⟨hnone, e, hpost⟩
    · obtain ⟨w'', hhandler, hbeside⟩ := h.ok_of_ok hpost
      rw [Handler.respond_of_ok hhandler]
      refine ⟨hbeside.store_eq, fun u' hu' => ?_, fun u' hu' a' ha' => ?_, fun u' hu' hnone => ?_,
        by simp [hurl]⟩
      · obtain rfl := hsame hu'
        exact hbeside.calls_eq
      · obtain rfl := hsame hu'
        -- Only one record is brought.
        have hrecord := (Reply.outcome_eq_taken_iff.mpr hbrings).symm.trans
          (Reply.outcome_eq_taken_iff.mpr ha')
        cases hrecord
        exact ⟨rfl, Body.bytes_full _⟩
      · obtain rfl := hsame hu'
        exact absurd hbrings (hnone a)
    · obtain ⟨hfailed, hbeside⟩ := hfails hpost
      refine ⟨hbeside.store_eq, fun u' hu' => ?_, fun u' hu' a' ha' => ?_, fun _ _ _ => hfailed,
        by simp [hurl]⟩
      · obtain rfl := hsame hu'
        exact hbeside.calls_eq
      · obtain rfl := hsame hu'
        exact absurd ha' (hnone a')

/-- What is done inside the layers is done outside of them. -/
theorem Runs.outward (h : call.Runs server w₁ response w₂) (before : w.Beside w₁)
    (after : w₂.Beside w') (alike : response.Alike response') :
    call.Runs server w response' w' := by
  have hreply (u : Url) : call.reply server w u = call.reply server w₁ u := by
    rw [reply, reply, before.calls_eq]
  have hfails (hfailed : call.Fails response) : call.Fails response' := by
    obtain ⟨detail, htells⟩ := hfailed
    exact ⟨detail, htells.of_alike alike⟩
  -- The store, the calls, and the answer in the three cases of a call.
  refine ⟨?_, fun u hu => ?_, fun u hu a ha => ?_, fun u hu hnone => ?_, fun hnone => ?_⟩
  · rw [after.store_eq, h.store_eq, before.store_eq]
  · rw [after.calls_eq, h.calls_eq u hu, before.calls_eq]
  · obtain ⟨hstatus, hbytes⟩ := h.succeeds u hu a (hreply u ▸ ha)
    exact ⟨alike.status_eq.trans hstatus, alike.bytes_eq.trans hbytes⟩
  · exact hfails (h.fails u hu fun a => hreply u ▸ hnone a)
  · obtain ⟨hcalls, hfailed⟩ := h.unreached hnone
    exact ⟨by rw [after.calls_eq, hcalls, before.calls_eq], hfails hfailed⟩

end SingleCall

/-! ### Conversations -/

/-- A text, or `null` where there is none. -/
def Json.orNull : Option String → Json
  | some s => .str s
  | none => .null

/-- A request to pass a message on: the body is a record with a session id and a message, neither of
    which is empty. -/
def Http.Request.PassesOn (request : Request) (id message : String) : Prop :=
  Server.relayEndpoint.ReceivesTexts ChatMessage.sessionId ChatMessage.message request id message

namespace Server

variable {server : Server} {w w' : World}

/-- The call that opens a conversation. -/
def startCall : SingleCall SessionStarted where
  path := "chat/sessions"
  body := .obj []
  shape := SessionStarted.shape
  start := noSession
  told started := .obj [("status", .str "chat_started"), ("session_id", orNull started.sessionId),
    ("initial_message", orNull started.initialMessage), ("instructions", .str instructions)]

/-- The call that passes a message on. -/
def messageCall (id message : String) : SingleCall BotTurn where
  path := "chat/messages"
  body := Wire.messageBody id message
  shape := BotTurn.shape
  start := notSent
  told turn := .obj [("status", .str "message_sent"), ("user_message", .str message),
    ("bot_response", orNull turn.botResponse),
    ("session_active", .bool (turn.sessionActive.getD true))]

/-- A request to start a conversation is made of one call. -/
theorem chatStart_madeBy (server : Server) : startCall.MadeBy server server.chatStart where
  ok_of_ok := by
    intro w w' started hpost
    have hcreate : server.client.createSession w = (.ok started, w') := hpost
    have htold : ChatStarted.shape.toJson
        ⟨"chat_started", started.sessionId, started.initialMessage, instructions⟩ =
          startCall.told started := by
      -- A text that is missing is told as `null`.
      obtain ⟨sessionId, initialMessage, nodeType⟩ := started
      cases sessionId <;> cases initialMessage <;> rfl
    rw [chatStart, Effect.bind_apply, hcreate, ← htold]
    exact ⟨_, rfl, .logging _ _⟩
  error_of_error := by
    intro w w' e hpost
    have hcreate : server.client.createSession w = (.error e, w') := hpost
    refine ⟨w'.logging [⟨.error, noSession, [("error", e.message)]⟩], ?_, .logging _ _⟩
    rw [chatStart, Effect.bind_apply, hcreate]
    dsimp only
    rw [Effect.bind_apply, callFailed_eq]
    rfl

/-- A request to pass a message on is made of one call. -/
theorem chatMessage_madeBy (server : Server) {request : Request} {a : ChatMessage}
    (hrecord : Content.record ChatMessage.shape request = .ok a) {id message : String}
    (hid : present a.sessionId = some id) (hmessage : present a.message = some message) :
    (messageCall id message).MadeBy server (server.chatMessage request) where
  ok_of_ok := by
    intro w w' turn hpost
    have htold : ChatAnswer.shape.toJson
        ⟨"message_sent", message, turn.botResponse, turn.sessionActive.getD true⟩ =
          (messageCall id message).told turn := by
      obtain ⟨botResponse, sessionActive⟩ := turn
      -- A text that is missing is told as `null`.
      cases botResponse <;> rfl
    rw [← htold]
    exact chatMessage_of_turn hrecord hid hmessage hpost
  error_of_error := by
    intro w w' e hpost
    exact ⟨_, chatMessage_of_error hrecord hid hmessage hpost, .logging _ _⟩

/-! ### Health -/

/-- The call for the health of the platform. -/
def probe (u : Url) : Call :=
  ⟨"GET", u, none⟩

/-- The platform says that it is well: an answer with the status 200 comes back for a probe. -/
def IsUp (server : Server) (w : World) : Prop :=
  ∃ u bytes, server.client.url? "health" = some u ∧
    server.client.platform (w.calls ++ [probe u]) = .answered 200 bytes

/-- What is done for a look at the health: the platform is probed once, if it has an address of the
    web, and the answer tells that the server is up, and whether the platform is. -/
structure Probes (server : Server) (w : World) (response : Response) (w' : World) : Prop where
  store_eq : w'.store = w.store
  calls_eq : ∀ u, server.client.url? "health" = some u → w'.calls = w.calls ++ [probe u]
  unreached : server.client.url? "health" = none → w'.calls = w.calls
  status_eq : response.status = 200
  told : ∃ available, (available = true ↔ server.IsUp w) ∧
    response.body.bytes = (Json.obj [("status", .str "UP"),
      ("service", .str server.config.serviceName), ("chatbot_available", .bool available)]).print

/-- A platform to which no request comes is down. -/
theorem isAvailable_of_error {fault : CallFault}
    (hsend : server.client.send "GET" (server.client.address "health") none w =
      (.error fault, w')) :
    ∃ w'', server.client.isAvailable w = (false, w'') ∧ w'.Beside w'' := by
  rw [Platform.Client.isAvailable, Effect.bind_apply, hsend]
  exact ⟨_, rfl, .report _ _ _ _⟩

/-- A platform that answers is up if its status is 200. -/
theorem isAvailable_of_answer {u : Url} {status : Nat} {bytes : Bytes}
    (hsend : server.client.send "GET" (server.client.address "health") none w =
      (.ok (u, status, bytes), w')) :
    server.client.isAvailable w = (decide (status = 200), w') := by
  rw [Platform.Client.isAvailable, Effect.bind_apply, hsend]
  rfl

/-- Without an address the platform is not up, and nothing is called. -/
theorem isAvailable_unreached (hurl : server.client.url? "health" = none) (w : World) :
    ∃ w', server.client.isAvailable w = (false, w') ∧ w.Beside w' := by
  obtain ⟨fault, hsend⟩ := Platform.Client.send_of_no_url hurl "GET" none w
  exact isAvailable_of_error hsend

/-- With an address the platform is called once, and it is up if it answers with the status 200. -/
theorem isAvailable_probes {u : Url} (hurl : server.client.url? "health" = some u) (w : World) :
    ∃ available w', server.client.isAvailable w = (available, w') ∧
      (w.calling (probe u)).Beside w' ∧
      (available = true ↔ ∃ bytes,
        server.client.platform (w.calls ++ [probe u]) = .answered 200 bytes) := by
  obtain ⟨hparse, hweb⟩ := Option.filter_eq_some_iff.mp hurl
  have hsend := server.client.send_eq (w := w) "GET" none hparse hweb
  unfold probe
  cases hreply : server.client.platform (w.calls ++ [⟨"GET", u, none⟩]) with
  -- No answer came, so the platform is down.
  | failed =>
    rw [hreply] at hsend
    obtain ⟨w', hdown, hbeside⟩ := isAvailable_of_error hsend
    exact ⟨false, w', hdown, hbeside, iff_of_false nofun nofun⟩
  | answered status bytes =>
    rw [hreply] at hsend
    refine ⟨_, _, isAvailable_of_answer hsend, .refl _, ?_⟩
    simp

/-- A request for the health of the server probes the platform. -/
theorem getHealth_probes (server : Server) (w : World) :
    server.Probes w (Handler.respond server.getHealth w).1
      (Handler.respond server.getHealth w).2 := by
  have htold {available : Bool} {w' : World} (h : server.client.isAvailable w = (available, w')) :
      server.getHealth w = (.ok (.obj [("status", .str "UP"),
        ("service", .str server.config.serviceName), ("chatbot_available", .bool available)]),
          w') := by
    rw [getHealth, Effect.bind_apply, h]
    rfl
  cases hurl : server.client.url? "health" with
  | none =>
    obtain ⟨w', hdown, hbeside⟩ := isAvailable_unreached hurl w
    rw [Handler.respond_of_ok (htold hdown)]
    refine ⟨hbeside.store_eq, by simp [hurl], fun _ => hbeside.calls_eq, rfl, false, ?_,
      Body.bytes_full _⟩
    -- Nothing is called that could say that it is well.
    refine iff_of_false nofun ?_
    rintro ⟨u, -, hu, -⟩
    rw [hurl] at hu
    cases hu
  | some u =>
    obtain ⟨available, w', heq, hbeside, hup⟩ := isAvailable_probes hurl w
    rw [Handler.respond_of_ok (htold heq)]
    refine ⟨hbeside.store_eq, fun u' hu' => ?_, by simp [hurl], rfl, available, ?_,
      Body.bytes_full _⟩
    · obtain rfl := Option.some.inj (hu'.symm.trans hurl)
      exact hbeside.calls_eq
    · simp [hup, IsUp, hurl]

/-- A probe inside the layers is one outside of them. -/
theorem Probes.outward {w₁ w₂ : World} {response response' : Response}
    (h : server.Probes w₁ response w₂) (before : w.Beside w₁) (after : w₂.Beside w')
    (alike : response.Alike response') : server.Probes w response' w' := by
  obtain ⟨available, hup, hbytes⟩ := h.told
  refine ⟨?_, fun u hu => ?_, fun hnone => ?_, alike.status_eq.trans h.status_eq, available, ?_,
    alike.bytes_eq.trans hbytes⟩
  · rw [after.store_eq, h.store_eq, before.store_eq]
  · rw [after.calls_eq, h.calls_eq u hu, before.calls_eq]
  · rw [after.calls_eq, h.unreached hnone, before.calls_eq]
  · rw [hup, IsUp, IsUp, before.calls_eq]

/-! ### All three -/

/-- **Operations of one call.** Whatever the platform answers, the server makes one call to it for a
    look at the health, for a new conversation and for a message, and never a second one. The health
    is told in any case; the two others succeed if the status is 200 and a record is brought, which
    is then told, and else they fail with an error of their own. What the platform gets for a
    message is read as an object with the two texts of the client. The last parts say which objects
    are records. Only an address that is not one of the web keeps the server from its call. -/
theorem handle_single (server : Server) (w : World) :
    (∀ request : Request, request.Views .health →
      server.Probes w (server.handle request w).1 (server.handle request w).2) ∧
    (∀ request : Request, request.GoesTo .chatStart .write →
      Trace.isReadable request.headers request.body = true →
      startCall.Runs server w (server.handle request w).1 (server.handle request w).2) ∧
    (∀ (request : Request) (id message : String), request.PassesOn id message →
      (messageCall id message).Runs server w (server.handle request w).1
        (server.handle request w).2) ∧
    (∀ id message, Json.ofBytes (messageCall id message).body.print =
      .ok (.obj [("content", .str message), ("session_id", .str id)])) ∧
    (∀ (o : ObjectText) (a : SessionStarted), SessionStarted.shape.ofBytes o.text = .ok a ↔
      Says (o.valuesOf "session_id") a.sessionId ∧
        Says (o.valuesOf "initial_message") a.initialMessage ∧
        Says (o.valuesOf "node_type") a.nodeType) ∧
    ∀ (o : ObjectText) (a : BotTurn), BotTurn.shape.ofBytes o.text = .ok a ↔
      Says (o.valuesOf "bot_response") a.botResponse ∧
        SaysFlag (o.valuesOf "session_active") a.sessionActive := by
  refine ⟨fun request views => ?_, fun request goes readable => ?_,
    fun request id message passesOn => ?_, Wire.ofBytes_messageBody,
    fun _ _ => SessionStarted.ofBytes_text_iff, fun _ _ => BotTurn.ofBytes_text_iff⟩
  · obtain ⟨passed, w₁, -, hw₁, alike, hw'⟩ :=
      server.exists_dispatch (views.goesTo rfl) (.inl views.method_eq) views.readable w
    exact (server.getHealth_probes w₁).outward hw₁ hw' alike
  · obtain ⟨passed, w₁, -, hw₁, alike, hw'⟩ :=
      server.exists_dispatch goes (.inr goes.2.1) readable w
    exact (server.chatStart_madeBy.runs w₁).outward hw₁ hw' alike
  · obtain ⟨a, hbrings, hid, hmessage⟩ := passesOn.brings
    obtain ⟨hpresent, hpresent'⟩ := passesOn.present_eq hid hmessage
    -- The record that was posted is what the handler finds behind the layers.
    have goes : request.GoesTo .chatMessage .write :=
      ⟨⟨trivial, passesOn.receives.2⟩, passesOn.receives.1, rfl⟩
    obtain ⟨passed, w₁, hsame, hw₁, alike, hw'⟩ :=
      server.exists_dispatch goes (.inr goes.2.1) passesOn.readable w
    have hrecord : Content.record ChatMessage.shape passed = .ok a :=
      Content.record_eq_ok_iff.mpr (hsame.brings_iff.mpr hbrings)
    exact ((server.chatMessage_madeBy hrecord hpresent hpresent').runs w₁).outward hw₁ hw' alike

/-- A message for a session of the platform. -/
def samplePassedOn : Request where
  method := .post
  target := ⟨"/chat/message"⟩
  headers := [("content-type", Utf8.bytes "application/json")]
  body := .full (Utf8.bytes "\x7b\"message\":\"hi\",\"session_id\":\"s\"\x7d")

/-- The first answer of this platform tells nothing of a turn, so that the conversation goes on. -/
theorem handle_single_moody :
    samplePassedOn.PassesOn "s" "hi" ∧
      (sampleMoody.handle samplePassedOn sampleMoody.initial).2.calls.length = 1 ∧
      (sampleMoody.handle samplePassedOn sampleMoody.initial).1.status = 200 ∧
      (sampleMoody.handle samplePassedOn sampleMoody.initial).1.body.bytes =
        (Json.obj [("status", .str "message_sent"), ("user_message", .str "hi"),
          ("bot_response", .null), ("session_active", .bool true)]).print := by
  have passesOn : samplePassedOn.PassesOn "s" "hi" :=
    ⟨⟨rfl, rfl⟩, .inl (by decide +kernel), ⟨⟨some "s", some "hi"⟩,
      ⟨by decide +kernel, rfl, by decide +kernel, by decide +kernel⟩, rfl, rfl⟩, by decide⟩
  obtain ⟨-, -, hmessages, -⟩ := handle_single sampleMoody sampleMoody.initial
  have runs := hmessages samplePassedOn "s" "hi" passesOn
  obtain ⟨u, hu⟩ : ∃ u, sampleMoody.client.url? "chat/messages" = some u :=
    Option.isSome_iff_exists.mp (by decide +kernel)
  have brings : ((messageCall "s" "hi").reply sampleMoody sampleMoody.initial u).Brings
      BotTurn.shape ⟨none, none⟩ :=
    ⟨_, rfl, by decide +kernel⟩
  have hlength : (sampleMoody.handle samplePassedOn sampleMoody.initial).2.calls.length = 1 := by
    rw [runs.calls_eq u hu, List.length_append]
    rfl
  have htold : (messageCall "s" "hi").told ⟨none, none⟩ =
      .obj [("status", .str "message_sent"), ("user_message", .str "hi"),
        ("bot_response", .null), ("session_active", .bool true)] := rfl
  obtain ⟨hstatus, hbytes⟩ := runs.succeeds u hu ⟨none, none⟩ brings
  rw [htold] at hbytes
  exact ⟨passesOn, hlength, hstatus, hbytes⟩

end Server

end DialogStub
