import DialogStub.Proofs.Api.Routes
import DialogStub.Proofs.Http.Cors

/-!
# What one request does

* `Request.AsksForSession`, `Request.PostsMessage` — the two requests that may change the store;
* `Server.Passes` — a request on its way through the layers to the routes;
* `Server.Step` — all that one request can do to the store, with what its answer says of it;
* `Server.handle_step` — every request, on any path, with any method, header fields and body, does
  one of these;
* `Server.handle_accepts` — a message that can be read, and names a known session, is not refused.

The statement asks nothing of the world and of the fresh values, so that what runs of requests keep
can be read off `Server.Step` alone.
-/

namespace DialogStub

open Http

/-! ### Requests that change the store -/

/-- A request for a new session. -/
def Http.Request.AsksForSession (request : Request) : Prop :=
  request.method = .post ∧ request.target.path = "/api/v1/chat/sessions"

/-- A request to add a message. -/
def Http.Request.PostsMessage (request : Request) : Prop :=
  request.method = .post ∧ request.target.path = "/api/v1/chat/messages"

instance (request : Request) : Decidable request.AsksForSession :=
  inferInstanceAs (Decidable (_ ∧ _))

instance (request : Request) : Decidable request.PostsMessage :=
  inferInstanceAs (Decidable (_ ∧ _))

/-- A request for a session is not one that posts a message, since the paths differ. -/
theorem Http.Request.AsksForSession.not_postsMessage {request : Request}
    (h : request.AsksForSession) : ¬request.PostsMessage := by
  intro h'
  have : ("/api/v1/chat/sessions" : String) = "/api/v1/chat/messages" := h.2.symm.trans h'.2
  simp at this

section Same

variable {request passed : Request} (h : request.Same passed)

include h

/-- What the trace hands on asks for a session if the request does. -/
theorem Http.Request.Same.asksForSession_iff :
    passed.AsksForSession ↔ request.AsksForSession := by
  rw [AsksForSession, AsksForSession, h.method_eq, h.target_eq]

/-- And it posts a message if the request does. -/
theorem Http.Request.Same.postsMessage_iff : passed.PostsMessage ↔ request.PostsMessage := by
  rw [PostsMessage, PostsMessage, h.method_eq, h.target_eq]

/-- The record in a body does not depend on the trace id, nor on the pieces of the body. -/
theorem Http.Request.Same.record_eq {α : Type} (shape : Json.Shape α) :
    Content.record shape passed = Content.record shape request := by
  have htype : passed.headers.text? "content-type" = request.headers.text? "content-type" := by
    rw [Headers.text?, Headers.text?, h.get?_eq _ (by decide)]
  have hdeclare : passed.headers.declareJson = request.headers.declareJson := by
    rw [Headers.declareJson, Headers.declareJson, htype]
  rw [Content.record, Content.record, hdeclare, h.body_same.collect_eq]

end Same

theorem eq_some_of_present {field : Option String} {s : String} (h : present field = some s) :
    field = some s :=
  (Option.filter_eq_some_iff.mp h).1

/-- What takes two fields is not done without one of them. -/
theorem both_of_missing {α : Type} (f : String → String → α) (a : α)
    {field field' : Option String} :
    field = none ∨ field' = none →
      (match field, field' with
        | some s, some s' => f s s'
        | _, _ => a) = a := by
  rintro (rfl | rfl)
  · rfl
  · cases field <;> rfl

/-- A record is read from all bytes of the body. -/
theorem Content.ofBytes_of_record {α : Type} {shape : Json.Shape α} {request : Request} {a : α}
    (h : Content.record shape request = .ok a) : shape.ofBytes request.body.bytes = .ok a := by
  unfold Content.record Body.collect at h
  -- A failure of the media type, of the transfer or of the text is no record.
  split at h
  · split at h
    · cases h
    · rename_i bytes hcollect
      split at hcollect
      · cases hcollect
      · split at hcollect
        · cases hcollect
        · cases hcollect
          split at h
          · cases h
          · rename_i a' hread
            rw [hread]
            cases h
            rfl
  · cases h

/-! ### The two handlers that write -/

/-- A handler that fails is answered with another status than 200. -/
theorem Handler.respond_error {handler : Handler} {e : ApiError} {w w' : World}
    (h : handler w = (.error e, w')) (hw : w.Onward w') :
    (Handler.respond handler w).1.status ≠ 200 ∧ w.Onward (Handler.respond handler w).2 := by
  obtain ⟨w₂, hrespond, hbeside⟩ := Handler.respond_of_error h
  rw [hrespond]
  refine ⟨?_, hw.trans hbeside.toOnward⟩
  show e.status ≠ 200
  rcases e.status_cases with hstatus | hstatus | hstatus
  all_goals
    rw [hstatus]
    decide

namespace Server

variable (server : Server)

/-- A new session is put into the store, and its id is told. -/
theorem createSession_respond (w : World) :
    ∃ time w', Handler.respond server.createSession w =
        (.json 200 (SessionCreated.shape.toJson ⟨server.supply.id w.drawn, "created", time⟩), w') ∧
      w'.store = w.store.upsert (server.supply.session w.drawn) ∧ w'.drawn = w.drawn + 3 := by
  rw [Handler.respond, Effect.bind_apply, createSession, Effect.bind_apply,
    Effect.createSession_eq]
  exact ⟨_, _, rfl, rfl, rfl⟩

variable {server}

/-- A message with an id and a content goes to the store, if its session is known. -/
theorem addMessage_accepted {request : Request} {body : AddMessage} {id content : String}
    {store : Store} {w : World} (hrecord : Content.record AddMessage.shape request = .ok body)
    (hid : present body.sessionId = some id) (hcontent : present body.content = some content)
    (happend : w.store.append
      (server.supply.message w.drawn id content body.type body.intent) = .ok store) :
    ∃ time w', Handler.respond (server.addMessage request) w =
        (.json 200 (MessageSaved.shape.toJson ⟨id, true, time⟩), w') ∧
      w'.store = store ∧ w'.calls = w.calls ∧ w'.drawn = w.drawn + 3 := by
  -- The world is that of the equation for the store, with a line in the log and the time drawn.
  have heq := Effect.appendMessage_eq_ok happend
  rw [Handler.respond, Effect.bind_apply, addMessage, hrecord]
  dsimp only
  rw [hid, hcontent]
  dsimp only
  rw [Effect.bind_apply, heq]
  exact ⟨_, _, rfl, rfl, rfl, rfl⟩

section Refusals

variable {request : Request} {body : AddMessage}

/-- A body that is no record of a message. -/
theorem addMessage_of_error {e : ApiError}
    (h : Content.record AddMessage.shape request = .error e) (w : World) :
    server.addMessage request w = (.error e, w) := by
  rw [addMessage, h]
  rfl

/-- A record that names no session, or has no content. -/
theorem addMessage_of_missing (h : Content.record AddMessage.shape request = .ok body)
    (missing : present body.sessionId = none ∨ present body.content = none) (w : World) :
    server.addMessage request w = (.error (.missing "session_id or content"), w) := by
  rw [addMessage, h]
  exact congrFun (both_of_missing _ _ missing) w

/-- A record that names a session which is unknown. -/
theorem addMessage_of_unknown {id content : String} {w : World}
    (h : Content.record AddMessage.shape request = .ok body)
    (hid : present body.sessionId = some id) (hcontent : present body.content = some content)
    (unknown : w.store.find? id = none) :
    server.addMessage request w = (.error (.notFound "Session not found"), w) := by
  rw [addMessage, h]
  dsimp only
  rw [hid, hcontent]
  dsimp only
  rw [Effect.bind_apply, Effect.appendMessage_eq_error unknown]
  rfl

end Refusals

variable (server) in
/-- A message is refused, and then nothing changes, or it goes to the store. -/
theorem addMessage_cases (request : Request) (w : World) :
    ((Handler.respond (server.addMessage request) w).1.status ≠ 200 ∧
      w.Onward (Handler.respond (server.addMessage request) w).2) ∨
    ∃ body id content store, Content.record AddMessage.shape request = .ok body ∧
      present body.sessionId = some id ∧ present body.content = some content ∧
      w.store.append (server.supply.message w.drawn id content body.type body.intent)
        = .ok store := by
  -- The record, the id, the content and the session are asked for in this order.
  cases hrecord : Content.record AddMessage.shape request with
  | error e => exact .inl (Handler.respond_error (addMessage_of_error hrecord w) (.refl w))
  | ok body =>
    cases hid : present body.sessionId with
    | none =>
      exact .inl (Handler.respond_error (addMessage_of_missing hrecord (.inl hid) w) (.refl w))
    | some id =>
      cases hcontent : present body.content with
      | none =>
        exact .inl (Handler.respond_error (addMessage_of_missing hrecord (.inr hcontent) w)
          (.refl w))
      | some content =>
        cases hstore : w.store.append
            (server.supply.message w.drawn id content body.type body.intent) with
        | ok store => exact .inr ⟨body, id, content, store, rfl, hid, hcontent, hstore⟩
        | error fault =>
          have unknown : w.store.find? id = none := Store.find?_eq_none_of_append hstore
          exact .inl (Handler.respond_error
            (addMessage_of_unknown hrecord hid hcontent unknown) (.refl w))

/-! ### All layers together -/

/-- The last touches leave the status as it is. -/
theorem finish_status (request : Request) (response : Response) :
    (server.finish request response).status = response.status := by
  unfold finish
  dsimp only
  split <;> split <;> (try split) <;> rfl

/-- They leave the body as well, unless the method is `HEAD`. -/
theorem finish_body {request : Request} (h : request.method ≠ .head) (response : Response) :
    (server.finish request response).body = response.body := by
  unfold finish
  rw [if_neg h]
  split
  · split <;> rfl
  · rfl

/-- The header fields that the layers around the routes set. -/
def layerFields : List String :=
  [Trace.header, "vary", "access-control-allow-origin", "allow"]

/-- Of the header fields they set no others than the layers do. -/
theorem finish_get? (request : Request) (response : Response) {name : String}
    (h : name ∉ layerFields) :
    (server.finish request response).headers.get? name = response.headers.get? name := by
  have hallow : name ≠ "allow" := by
    rintro rfl
    exact h (by simp [layerFields])
  have hbody (r : Response) :
      (if request.method = .head then r.withoutBody else r).headers = r.headers := by
    split <;> rfl
  unfold finish
  rw [hbody]
  -- A header field is set only if the route does not know the method.
  split
  · split
    · exact Headers.get?_set_ne _ _ hallow
    · rfl
  · rfl

/-- The server touches what comes out of the trace, and changes nothing any more. -/
theorem handle_apply (request : Request) (w : World) :
    server.handle request w =
      let result := Trace.around server.supply (Cors.around server.policy server.route) request w
      (server.finish request result.1, result.2) := rfl

/-- A request that the trace cannot read is answered by the trace. -/
theorem handle_of_not_readable_fields {request : Request}
    (h : Trace.isReadable request.headers request.body = false) (w : World) :
    (server.handle request w).1.status = 400 ∧
      (request.method ≠ .head →
        (server.handle request w).1.body.bytes = Trace.unreadableRequest.body.bytes) ∧
      (∀ name, name ∉ layerFields → (server.handle request w).1.headers.get? name
        = Trace.unreadableRequest.headers.get? name) ∧
      w.Beside (server.handle request w).2 := by
  obtain ⟨value, hanswer, hbeside⟩ := Trace.around_of_not_readable server.supply
    (Cors.around server.policy server.route) h w
  have heq : (server.handle request w).1 = server.finish request { Trace.unreadableRequest with
      headers := Trace.mark value Trace.unreadableRequest.headers } := by
    rw [handle_apply]
    exact congrArg (server.finish request) hanswer
  -- The trace marks its own answer with an id, and the server touches it as any other.
  refine ⟨?_, fun hhead => ?_, fun name hname => ?_, hbeside⟩
  · rw [heq, finish_status]
    rfl
  · rw [heq, finish_body hhead]
  · have htrace : name ≠ Trace.header := by
      rintro rfl
      exact hname (by simp [layerFields])
    rw [heq, finish_get? _ _ hname]
    exact Trace.get?_mark_ne value _ htrace

/-- So nothing is done for such a request, and its answer is 400. -/
theorem handle_of_not_readable {request : Request}
    (h : Trace.isReadable request.headers request.body = false) (w : World) :
    (server.handle request w).1.status = 400 ∧ w.Beside (server.handle request w).2 := by
  obtain ⟨hstatus, -, -, hbeside⟩ := server.handle_of_not_readable_fields h w
  exact ⟨hstatus, hbeside⟩

end Server

/-- A request comes to the routes as `passed`, which differs from it in its trace id at most; the
    status and the bytes of its answer are those that the routes give. -/
structure Server.Passes (server : Server) (request passed : Request) (w w₁ : World) : Prop where
  same : request.Same passed
  beside : w.Beside w₁
  status_eq : (server.handle request w).1.status = (server.route passed w₁).1.status
  bytes_eq : request.method ≠ .head →
    (server.handle request w).1.body.bytes = (server.route passed w₁).1.body.bytes
  beside_after : (server.route passed w₁).2.Beside (server.handle request w).2

namespace Server

variable (server : Server)

/-- What the layers hand to the routes, and the world in which the routes begin. -/
theorem handle_of_readable {request : Request}
    (readable : Trace.isReadable request.headers request.body = true) (w : World) :
    ∃ passed w₁ value, request.Same passed ∧ w.Beside w₁ ∧
      (server.handle request w).1 = server.finish request
        (Trace.outward value (Cors.around server.policy server.route passed w₁).1) ∧
      (Cors.around server.policy server.route passed w₁).1.body.Same
        (Trace.outward value (Cors.around server.policy server.route passed w₁).1).body ∧
      (Cors.around server.policy server.route passed w₁).2.Beside (server.handle request w).2 := by
  -- The trace needs to know that the answers inside come as they are announced.
  have hcomplete := Cors.around_complete server.policy (fun r w => server.route_complete r w)
  have haround := Trace.around_of_readable server.supply hcomplete readable w
  let value := Trace.valueOf? (Trace.chosen server.supply request w)
  let w₁ := (Trace.started request w).logging
    (Trace.lines "request" request.headers request.body)
  refine ⟨Trace.inward value request, w₁, value, Trace.same_inward value readable,
    (Trace.beside_started request w).trans (.logging _ _), ?_, ?_, ?_⟩
  · rw [handle_apply, haround]
  · exact Trace.same_handed (Trace.isReadable_of_complete _ (hcomplete _ _))
  · rw [handle_apply, haround]
    exact .logging _ _

/-- `OPTIONS` is answered before the routes, with no body. -/
theorem handle_of_options {request : Request}
    (readable : Trace.isReadable request.headers request.body = true)
    (options : request.method = .options) (w : World) :
    (server.handle request w).1.status = 200 ∧ (server.handle request w).1.body.bytes = [] ∧
      w.Beside (server.handle request w).2 := by
  obtain ⟨passed, w₁, value, hsame, hw₁, heq, hbody, hw'⟩ := server.handle_of_readable readable w
  have hhead : request.method ≠ .head := by simp [options]
  -- The routes have no part in what comes back.
  rw [Cors.around_of_options _ (hsame.method_eq.trans options)] at heq hbody hw'
  have hbare : (server.policy.preflight passed).body = .empty :=
    server.policy.mark_body passed (.bare 200)
  refine ⟨?_, ?_, hw₁.trans hw'⟩
  · rw [heq, finish_status]
    exact server.policy.mark_status passed (.bare 200)
  · rw [heq, finish_body hhead, hbody.bytes_eq]
    show (server.policy.preflight passed).body.bytes = []
    rw [hbare]
    rfl

/-- **Requests that can be read.** All methods but `OPTIONS` come to the routes, and the answer has
    the header fields that the routes give it. -/
theorem exists_passes_fields {request : Request}
    (readable : Trace.isReadable request.headers request.body = true)
    (hoptions : request.method ≠ .options) (w : World) :
    ∃ passed w₁, server.Passes request passed w w₁ ∧ ∀ name, name ∉ layerFields →
      (server.handle request w).1.headers.get? name
        = (server.route passed w₁).1.headers.get? name := by
  obtain ⟨passed, w₁, value, hsame, hw₁, heq, hbody, hw'⟩ := server.handle_of_readable readable w
  have hmethod : passed.method ≠ .options := by
    intro h
    exact hoptions (hsame.method_eq.symm.trans h)
  rw [Cors.around_of_not_options _ hmethod] at heq hbody hw'
  refine ⟨passed, w₁, ⟨hsame, hw₁, ?_, fun hhead => ?_, hw'⟩, fun name hname => ?_⟩
  · rw [heq, finish_status]
    exact server.policy.mark_status passed _
  · rw [heq, finish_body hhead, hbody.bytes_eq]
    exact congrArg Body.bytes (server.policy.mark_body passed _)
  · -- None of the layers sets a field of this name.
    have hfields : name ≠ Trace.header ∧ name ≠ "vary" ∧
        name ≠ "access-control-allow-origin" ∧ name ≠ "allow" := by
      simpa [layerFields] using hname
    obtain ⟨htrace, hvary, horigin, -⟩ := hfields
    rw [heq, finish_get? _ _ hname]
    exact (Trace.get?_mark_ne value _ htrace).trans
      (server.policy.get?_mark passed _ horigin hvary)

/-- The same without the header fields. -/
theorem exists_passes {request : Request}
    (readable : Trace.isReadable request.headers request.body = true)
    (hoptions : request.method ≠ .options) (w : World) :
    ∃ passed w₁, server.Passes request passed w w₁ := by
  obtain ⟨passed, w₁, hpasses, -⟩ := server.exists_passes_fields readable hoptions w
  exact ⟨passed, w₁, hpasses⟩

end Server

/-! ### Steps -/

/-- What one request does to the store, and what its answer says of it. -/
inductive Server.Step (server : Server) (request : Request) (w : World) (response : Response)
    (w' : World) : Prop where
  /-- The store stays as it is. A new session is refused only if the body cannot be read. -/
  | quiet (onward : w.Onward w')
      (unread : request.AsksForSession →
        Trace.isReadable request.headers request.body = false ∧ response.status = 400)
      (refused : request.PostsMessage → response.status ≠ 200)
  /-- A session is made of fresh values. -/
  | created (n : Nat) (time : Int) (asks : request.AsksForSession)
      (readable : Trace.isReadable request.headers request.body = true)
      (drawn_le : w.drawn ≤ n) (lt_drawn : n < w'.drawn) (status_eq : response.status = 200)
      (bytes_eq : response.body.bytes =
        (SessionCreated.shape.toJson ⟨server.supply.id n, "created", time⟩).print)
      (store_eq : w'.store = w.store.upsert (server.supply.session n))
  /-- A message is made of the record in the body and of fresh values. -/
  | appended (n : Nat) (time : Int) (body : AddMessage) (id content : String)
      (posts : request.PostsMessage)
      (drawn_le : w.drawn ≤ n) (lt_drawn : n < w'.drawn) (status_eq : response.status = 200)
      (bytes_eq : response.body.bytes =
        (MessageSaved.shape.toJson ⟨id, true, time⟩).print)
      (record_eq : Content.record AddMessage.shape request = .ok body)
      (id_eq : present body.sessionId = some id)
      (content_eq : present body.content = some content)
      (append_eq : w.store.append (server.supply.message n id content body.type body.intent)
        = .ok w'.store)

namespace Server

variable (server : Server)

/-- The routes make a session for a request that asks for one. -/
theorem route_of_asksForSession {request : Request} (h : request.AsksForSession) :
    server.route request = Handler.respond server.createSession := by
  have hroute : server.routeOf request = some .sessions :=
    Route.ofPath_sessions_iff.mpr h.2
  exact route_of_action hroute (Route.action?_sessions_write_iff.mpr h.1)

/-- They add a message for a request that posts one. -/
theorem route_of_postsMessage {request : Request} (h : request.PostsMessage) :
    server.route request = Handler.respond (server.addMessage request) := by
  have hroute : server.routeOf request = some .messages :=
    Route.ofPath_messages_iff.mpr h.2
  exact route_of_action hroute (Route.action?_messages_iff.mpr ⟨h.1, rfl⟩)

/-- All other requests leave the store alone. -/
theorem route_keepsStore {request : Request} (hasks : ¬request.AsksForSession)
    (hposts : ¬request.PostsMessage) : (server.route request).KeepsStore := by
  cases h : server.routeOf request with
  | none =>
    rw [route_of_none h]
    exact (ApiError.answer_looks _).keepsStore
  | some found =>
    cases haction : found.action? request.method with
    | none =>
      rw [route_of_no_action h haction]
      exact .pure _
    | some action =>
      rw [route_of_action h haction]
      -- Two routes write, and they are left out by what is assumed.
      refine (server.dispatch_looks request ?_ ?_).keepsStore
      · rintro ⟨rfl, rfl⟩
        exact hasks ⟨Route.action?_sessions_write_iff.mp haction,
          Route.ofPath_sessions_iff.mp h⟩
      · rintro rfl
        exact hposts ⟨(Route.action?_messages_iff.mp haction).1,
          Route.ofPath_messages_iff.mp h⟩

section Passes

variable {server} {request passed : Request} {w w₁ : World}

/-- A request for a new session makes one, of values that are drawn on the way. -/
theorem Passes.created (h : server.Passes request passed w w₁)
    (readable : Trace.isReadable request.headers request.body = true)
    (asks : request.AsksForSession) :
    server.Step request w (server.handle request w).1 (server.handle request w).2 := by
  obtain ⟨hsame, hw₁, hstatus, hbytes, hw'⟩ := h
  have hhead : request.method ≠ .head := by simp [asks.1]
  have hroute := server.route_of_asksForSession (hsame.asksForSession_iff.mpr asks)
  obtain ⟨time, w₂, heq, hstore, hdrawn⟩ := server.createSession_respond w₁
  rw [hroute, heq] at hstatus hbytes hw'
  -- The id is the first value that is drawn behind the layers, and the time of the answer the last.
  have hlt : w₁.drawn < w₂.drawn := by omega
  refine .created w₁.drawn time asks readable hw₁.drawn_le
    (Nat.lt_of_lt_of_le hlt hw'.drawn_le) hstatus ?_ ?_
  · rw [hbytes hhead]
    exact Body.bytes_full _
  · rw [hw'.store_eq, hstore, hw₁.store_eq]

/-- A post of a message adds it, or is refused. -/
theorem Passes.posted (h : server.Passes request passed w w₁) (posts : request.PostsMessage) :
    server.Step request w (server.handle request w).1 (server.handle request w).2 := by
  obtain ⟨hsame, hw₁, hstatus, hbytes, hw'⟩ := h
  have hhead : request.method ≠ .head := by simp [posts.1]
  rw [server.route_of_postsMessage (hsame.postsMessage_iff.mpr posts)] at hstatus hbytes hw'
  rcases server.addMessage_cases passed w₁ with
    ⟨hrefused, honward⟩ | ⟨body, id, content, store, hrecord, hid, hcontent, happend⟩
  · refine .quiet (hw₁.toOnward.trans (honward.trans hw'.toOnward)) ?_ ?_
    · intro asks
      exact absurd posts asks.not_postsMessage
    · intro _
      rw [hstatus]
      exact hrefused
  · obtain ⟨time, w₂, heq, hstore, -, hdrawn⟩ := addMessage_accepted hrecord hid hcontent happend
    rw [heq] at hstatus hbytes hw'
    have hlt : w₁.drawn < w₂.drawn := by omega
    -- The record is that of the request as it came in.
    have hrecord' := (hsame.record_eq AddMessage.shape).symm.trans hrecord
    refine .appended w₁.drawn time body id content posts hw₁.drawn_le
      (Nat.lt_of_lt_of_le hlt hw'.drawn_le) hstatus ?_ hrecord' hid hcontent ?_
    · rw [hbytes hhead]
      exact Body.bytes_full _
    · rw [hw'.store_eq, hstore, ← happend, hw₁.store_eq]

/-- All other requests change nothing. -/
theorem Passes.kept (h : server.Passes request passed w w₁) (hasks : ¬request.AsksForSession)
    (hposts : ¬request.PostsMessage) :
    server.Step request w (server.handle request w).1 (server.handle request w).2 := by
  have hasks' : ¬passed.AsksForSession := by rwa [h.same.asksForSession_iff]
  have hposts' : ¬passed.PostsMessage := by rwa [h.same.postsMessage_iff]
  have hroute : w₁.Onward (server.route passed w₁).2 :=
    server.route_keepsStore hasks' hposts' w₁
  have honward := h.beside.toOnward.trans (hroute.trans h.beside_after.toOnward)
  exact .quiet honward (fun asks => absurd asks hasks) (fun posts => absurd posts hposts)

end Passes

/-- **One request.** Whatever a request is, it leaves the store alone, makes one session, or adds
    one message. -/
theorem handle_step (request : Request) (w : World) :
    server.Step request w (server.handle request w).1 (server.handle request w).2 := by
  cases hread : Trace.isReadable request.headers request.body with
  | false =>
    -- Neither kind of request comes to its handler.
    obtain ⟨hstatus, hbeside⟩ := server.handle_of_not_readable hread w
    refine .quiet hbeside.toOnward (fun _ => ⟨hread, hstatus⟩) ?_
    intro _
    rw [hstatus]
    decide
  | true =>
    by_cases hoptions : request.method = .options
    · have hpost : request.method ≠ .post := by simp [hoptions]
      obtain ⟨-, -, hbeside⟩ := server.handle_of_options hread hoptions w
      exact .quiet hbeside.toOnward (fun asks => absurd asks.1 hpost)
        (fun posts => absurd posts.1 hpost)
    · obtain ⟨passed, w₁, hpasses⟩ := server.exists_passes hread hoptions w
      by_cases asks : request.AsksForSession
      · exact hpasses.created hread asks
      · by_cases posts : request.PostsMessage
        · exact hpasses.posted posts
        · exact hpasses.kept asks posts

/-- A message that can be read is accepted, if its session is known. -/
theorem handle_accepts {request : Request} {body : AddMessage} {id content : String} {w : World}
    {s : Session} (posts : request.PostsMessage)
    (readable : Trace.isReadable request.headers request.body = true)
    (record_eq : Content.record AddMessage.shape request = .ok body)
    (id_eq : present body.sessionId = some id) (content_eq : present body.content = some content)
    (known : w.store.get? id = some s) : (server.handle request w).1.status = 200 := by
  obtain ⟨passed, w₁, hpasses⟩ := server.exists_passes readable (by simp [posts.1]) w
  have hrecord := (hpasses.same.record_eq AddMessage.shape).trans record_eq
  -- The layers leave the store alone, so that the session is known to the routes as well.
  rw [← hpasses.beside.store_eq] at known
  obtain ⟨store, happend⟩ : ∃ store, w₁.store.append
      (server.supply.message w₁.drawn id content body.type body.intent) = .ok store :=
    Store.exists_append known
  obtain ⟨time, w₂, heq, -⟩ := addMessage_accepted hrecord id_eq content_eq happend
  have hroute := server.route_of_postsMessage (hpasses.same.postsMessage_iff.mpr posts)
  rw [hpasses.status_eq, hroute, heq]
  rfl

end Server

end DialogStub
