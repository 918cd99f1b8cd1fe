import DialogStub.Proofs.Api.Routing
import DialogStub.Proofs.Json.Record

/-!
# Errors as they are told

* `ApiError.Tells` — an answer that says an error in JSON, so that its text can be read back;
* `Route.Refuses` — a request that is refused before its handler runs, with an answer in plain text;
* `Server.handle_errors` — all other answers that are not 200 tell an error.

Handlers end with a value or with an error, and both are written as JSON. What a handler needs of a
request is read before it runs. The session id of a path and the body that is sent back are read in
a way that answers by itself where it fails; records are not.
-/

namespace DialogStub

open Http Json

/-! ### Answers in JSON -/

/-- A body brings its media type with it. -/
theorem Http.Response.type_withBody (status : Nat) (type : String) (body : Bytes) :
    (withBody status type body).headers.get? "content-type" = some (Utf8.bytes type) := by
  show List.lookup "content-type" [("content-type", Utf8.bytes type)] = some (Utf8.bytes type)
  rw [lookup_cons_ite, if_pos rfl]

namespace ApiError

/-- An answer that tells an error: its status, and an object with one text, which is read back as
    it was written. -/
structure Tells (e : ApiError) (response : Response) : Prop where
  status_eq : response.status = e.status
  type_eq : response.headers.get? "content-type" = some (Utf8.bytes "application/json")
  bytes_eq : response.body.bytes = (body e.clientMessage).print
  read_eq : Json.ofBytes response.body.bytes = .ok (.obj [("error", .str e.clientMessage)])

/-- What has the status, the bytes and the media type of the answer for an error tells it. -/
theorem tells_of_eq {e : ApiError} {response : Response} (hstatus : response.status = e.status)
    (hbytes : response.body.bytes = e.response.body.bytes)
    (htype : response.headers.get? "content-type" = e.response.headers.get? "content-type") :
    e.Tells response := by
  have hprint : response.body.bytes = (body e.clientMessage).print :=
    hbytes.trans (Body.bytes_full _)
  refine ⟨hstatus, htype.trans (Response.type_withBody _ _ _), hprint, ?_⟩
  rw [hprint]
  exact Json.ofBytes_print_member "error" e.clientMessage

end ApiError

/-- A handler is answered with 200, or with the answer for its error. -/
theorem Handler.respond_cases (handler : Handler) (w : World) :
    (Handler.respond handler w).1.status = 200 ∨
      ∃ e : ApiError, (Handler.respond handler w).1 = e.response := by
  cases h : handler w with
  | mk result w' =>
    cases result with
    | ok value =>
      rw [Handler.respond_of_ok h]
      exact .inl rfl
    | error e =>
      obtain ⟨w₂, hrespond, -⟩ := Handler.respond_of_error h
      rw [hrespond]
      exact .inr ⟨e, rfl⟩

/-! ### Answers in plain text -/

/-- A request that is refused on a route before its handler runs: the session id in its path is not
    UTF-8, or the bytes of the body that is to be sent back cannot be had. -/
def Route.Refuses (route : Route) (action : Action) (request : Request) (response : Response) :
    Prop :=
  match route, action with
  | .session segment, _ => Content.sessionId segment = .error response
  | .sessionMessages segment, _ => Content.sessionId segment = .error response
  | .data, .write => Content.raw request = .error response
  | _, _ => False

/-- Such an answer is in plain text, with 400 or 413. -/
theorem Route.Refuses.plain {route : Route} {action : Action} {request : Request}
    {response : Response} (h : route.Refuses action request response) :
    ∃ status text, response = .plain status text ∧ (status = 400 ∨ status = 413) := by
  -- Both routes with an id look at the segment in the same way.
  have hid {segment : List Char} (h : Content.sessionId segment = .error response) :
      ∃ status text, response = .plain status text ∧ (status = 400 ∨ status = 413) := by
    unfold Content.sessionId at h
    split at h
    · cases h
    · cases h
      exact ⟨_, _, rfl, .inl rfl⟩
  -- No other route refuses anything before its handler.
  cases route with
  | session segment => exact hid h
  | sessionMessages segment => exact hid h
  | data =>
    cases action with
    | read => exact h.elim
    | write =>
      have hraw : Content.raw request = .error response := h
      unfold Content.raw at hraw
      split at hraw
      · cases hraw
        exact ⟨_, _, rfl, .inr rfl⟩
      · cases hraw
        exact ⟨_, _, rfl, .inl rfl⟩
      · cases hraw
  | _ => exact h.elim

/-- It depends on what can be read of the body only. -/
theorem Route.refuses_iff_of_same {route : Route} {action : Action} {request passed : Request}
    (h : request.Same passed) (response : Response) :
    route.Refuses action passed response ↔ route.Refuses action request response := by
  have hraw : Content.raw passed = Content.raw request := by
    rw [Content.raw, Content.raw, h.body_same.collect_eq]
  unfold Route.Refuses
  rw [hraw]

namespace Server

variable {server : Server} {route : Route} {action : Action} {request : Request}

/-- A refusal is the answer of the route. -/
theorem dispatch_of_refused {response : Response} (h : route.Refuses action request response) :
    server.dispatch route action request = pure response := by
  cases route with
  | session segment =>
    have hid : Content.sessionId segment = .error response := h
    rw [dispatch, withSessionId, hid]
  | sessionMessages segment =>
    have hid : Content.sessionId segment = .error response := h
    rw [dispatch, withSessionId, hid]
  | data =>
    cases action with
    | read => exact h.elim
    | write =>
      have hraw : Content.raw request = .error response := h
      rw [dispatch, withBody, hraw]
  | _ => exact h.elim

/-- **Handlers.** What is not refused is answered with 200, or with the answer for an error. -/
theorem dispatch_cases (served : route.IsServed)
    (h : ∀ response, ¬route.Refuses action request response) (w : World) :
    (server.dispatch route action request w).1.status = 200 ∨
      ∃ e : ApiError, (server.dispatch route action request w).1 = e.response := by
  -- An id that cannot be read is refused, so that there is one here.
  have hid {segment : List Char} {next : String → Handler}
      (h : ∀ response, Content.sessionId segment ≠ .error response) :
      (withSessionId segment next w).1.status = 200 ∨
        ∃ e : ApiError, (withSessionId segment next w).1 = e.response := by
    cases hsegment : Content.sessionId segment with
    | ok id =>
      rw [withSessionId, hsegment]
      exact Handler.respond_cases _ w
    | error response => exact absurd hsegment (h response)
  cases route with
  | info | users | complexData =>
    rw [dispatch]
    exact .inl rfl
  | session segment =>
    rw [dispatch]
    exact hid h
  | sessionMessages segment =>
    rw [dispatch]
    exact hid h
  | data =>
    cases action with
    | read => exact Handler.respond_cases server.getData w
    | write =>
      cases hraw : Content.raw request with
      | ok body =>
        rw [dispatch, withBody, hraw]
        exact Handler.respond_cases _ w
      | error response => exact absurd hraw (h response)
  | sessions =>
    cases action with
    | read => exact Handler.respond_cases server.listSessions w
    | write => exact Handler.respond_cases server.createSession w
  | document => exact served.elim
  | pages => exact served.elim
  | page file => exact served.elim
  | _ =>
    rw [dispatch]
    exact Handler.respond_cases _ w

/-- **Errors.** Let a request with `GET` or `POST` go to a route. If it is not refused before its
    handler runs, then an answer with another status than 200 has 400, 404 or 500, and tells an
    error in JSON. If it is refused, the answer is in plain text; only the trace is asked first. -/
theorem handle_errors (goes : request.GoesTo route action)
    (method : request.method = .get ∨ request.method = .post) (w : World) :
    ((Trace.isReadable request.headers request.body = true →
        ∀ response, ¬route.Refuses action request response) →
      (server.handle request w).1.status ≠ 200 →
        ((server.handle request w).1.status = 400 ∨ (server.handle request w).1.status = 404 ∨
          (server.handle request w).1.status = 500) ∧
        ∃ e : ApiError, e.Tells (server.handle request w).1) ∧
    ∀ response, Trace.isReadable request.headers request.body = true →
      route.Refuses action request response →
        (server.handle request w).1.status = response.status ∧
        (response.status = 400 ∨ response.status = 413) ∧
        (server.handle request w).1.headers.get? "content-type" =
          some (Utf8.bytes "text/plain; charset=utf-8") ∧
        (server.handle request w).1.body.bytes = response.body.bytes := by
  have hhead : request.method ≠ .head := by rcases method with h | h <;> simp [h]
  have hoptions : request.method ≠ .options := by rcases method with h | h <;> simp [h]
  have hfields : "content-type" ∉ layerFields := by decide
  -- A request that can be read comes to the route.
  have hpasses (readable : Trace.isReadable request.headers request.body = true) :
      ∃ passed w₁, server.Passes request passed w w₁ ∧
        (server.handle request w).1.headers.get? "content-type" =
          (server.dispatch route action passed w₁).1.headers.get? "content-type" ∧
        server.route passed = server.dispatch route action passed := by
    obtain ⟨passed, w₁, hpasses, hget⟩ := server.exists_passes_fields readable hoptions w
    have heq : server.route passed = server.dispatch route action passed :=
      route_of_goesTo (goes.of_same hpasses.same)
    exact ⟨passed, w₁, hpasses, heq ▸ hget _ hfields, heq⟩
  refine ⟨fun unrefused failed => ?_, fun response readable refused => ?_⟩
  · have htells : ∃ e : ApiError, e.Tells (server.handle request w).1 := by
      cases hread : Trace.isReadable request.headers request.body with
      | false =>
        obtain ⟨hstatus, hbytes, hget, -⟩ := server.handle_of_not_readable_fields hread w
        exact ⟨.badRequest "Failed to read request body",
          ApiError.tells_of_eq hstatus (hbytes hhead) (hget _ hfields)⟩
      | true =>
        obtain ⟨passed, w₁, hpasses, htype, heq⟩ := hpasses hread
        have hstatus := hpasses.status_eq
        have hbytes := hpasses.bytes_eq hhead
        rw [heq] at hstatus hbytes
        have hunrefused (response : Response) : ¬route.Refuses action passed response := by
          rw [Route.refuses_iff_of_same hpasses.same]
          exact unrefused hread response
        rcases dispatch_cases goes.1.1 hunrefused w₁ with hok | ⟨e, he⟩
        · exact absurd (hstatus.trans hok) failed
        · rw [he] at hstatus hbytes htype
          exact ⟨e, ApiError.tells_of_eq hstatus hbytes htype⟩
    obtain ⟨e, he⟩ := htells
    refine ⟨?_, e, he⟩
    rw [he.status_eq]
    exact e.status_cases
  · obtain ⟨passed, w₁, hpasses, htype, heq⟩ := hpasses readable
    have hdispatch : server.dispatch route action passed = pure response :=
      dispatch_of_refused ((Route.refuses_iff_of_same hpasses.same response).mpr refused)
    have hstatus := hpasses.status_eq
    have hbytes := hpasses.bytes_eq hhead
    rw [heq, hdispatch] at hstatus hbytes
    rw [hdispatch] at htype
    obtain ⟨status, text, rfl, hcases⟩ := refused.plain
    exact ⟨hstatus, hcases, htype.trans (Response.type_withBody _ _ _), hbytes⟩

/-- A session that is not there. -/
def sampleMissing : Request := ⟨.get, ⟨"/api/v1/chat/sessions/b"⟩, [], .empty⟩

/-- The answer about a session that is not there tells so. -/
theorem handle_errors_sampleMissing :
    sampleMissing.GoesTo (.session ['b']) .read ∧ sampleMissing.method = .get ∧
      (sample.handle sampleMissing sample.initial).1.status = 404 ∧
      ∃ e : ApiError, e.Tells (sample.handle sampleMissing sample.initial).1 := by
  -- The segment is one that can be read, so that the handler has answered.
  have goes : sampleMissing.GoesTo (.session ['b']) .read :=
    ⟨⟨⟨by simp, by simp⟩, by decide⟩, .inl rfl, rfl⟩
  have hstatus : (sample.handle sampleMissing sample.initial).1.status = 404 := by decide +kernel
  have hid : Content.sessionId ['b'] = .ok "b" := by decide
  refine ⟨goes, rfl, hstatus, ?_⟩
  refine ((handle_errors goes (.inl rfl) sample.initial).1 (fun _ response refused => ?_) ?_).2
  · have herror : Content.sessionId ['b'] = .error response := refused
    rw [hid] at herror
    cases herror
  · rw [hstatus]
    decide

/-- A session id that is not UTF-8. -/
def sampleSpelling : Request := ⟨.get, ⟨"/api/v1/chat/sessions/%ff"⟩, [], .empty⟩

/-- **An id that is not UTF-8.** The path is that of a route, and yet the answer tells no error in
    JSON. -/
theorem handle_spelling :
    sampleSpelling.GoesTo (.session "%ff".toList) .read ∧ sampleSpelling.method = .get ∧
      (sample.handle sampleSpelling sample.initial).1.status = 400 ∧
      (sample.handle sampleSpelling sample.initial).1.headers.get? "content-type" =
        some (Utf8.bytes "text/plain; charset=utf-8") ∧
      (sample.handle sampleSpelling sample.initial).1.body.bytes =
        Utf8.bytes "Invalid URL: Invalid UTF-8 in `id`" ∧
      ∀ e : ApiError, ¬e.Tells (sample.handle sampleSpelling sample.initial).1 := by
  have htype : (sample.handle sampleSpelling sample.initial).1.headers.get? "content-type" =
      some (Utf8.bytes "text/plain; charset=utf-8") := by decide +kernel
  -- An error in JSON would have another media type.
  refine ⟨⟨⟨⟨by simp, by decide⟩, by decide⟩, .inl rfl, rfl⟩, rfl, by decide +kernel, htype,
    by decide +kernel, fun e he => ?_⟩
  have hjson := he.type_eq
  rw [htype] at hjson
  exact absurd hjson (by decide +kernel)

end Server

end DialogStub
