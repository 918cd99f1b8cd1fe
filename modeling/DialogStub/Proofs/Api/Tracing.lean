import DialogStub.Proofs.Api.Reports
import DialogStub.Proofs.Api.Run
import DialogStub.Proofs.Http.TraceId

/-!
# The trace around the server

* `Server.Carries`, `Server.handle_traceId` — every request is answered with one trace id, which is
  the one that the service inside sees: what the request brings with it, or a fresh UUID;
* `Server.handle_log` — what one request adds to the log.

Both hold for every request, whatever becomes of it: the trace stands around all routes and around
the answers to other origins, and only the last touches of the connection come behind it.
-/

namespace DialogStub

open Http

/-! ### Trace ids -/

namespace Server

/-- The last touches set no field but one. -/
theorem finish_values (server : Server) (request : Request) (response : Response) {name : String}
    (h : name ≠ "allow") :
    (server.finish request response).headers.values name = response.headers.values name := by
  have hbody (r : Response) :
      (if request.method = .head then r.withoutBody else r).headers = r.headers := by
    split <;> rfl
  unfold finish
  rw [hbody]
  split
  · split
    · exact Headers.values_set_ne _ _ h
    · rfl
  · rfl

/-- The trace id of one exchange, as the request, the service inside and the answer know it. -/
structure Carries (server : Server) (request : Request) (w : World) (id : Bytes) : Prop where
  /-- The answer has this id, and no other. -/
  answered : (server.handle request w).1.headers.values Trace.header = [id]
  /-- The id that was chosen may stand in a header field. -/
  writable : Trace.valueOf? (Trace.chosen server.supply request w) = some id
  /-- What the service inside does for requests with another id makes no difference. -/
  seen : ∀ inner : Request → Effect Response,
    (∀ passed : Request, passed.headers.values Trace.header = [id] →
      inner passed = Cors.around server.policy server.route passed) →
    server.handle request w =
      let result := Trace.around server.supply inner request w
      (server.finish request result.1, result.2)
  /-- A request whose body can be read comes to the service inside with this id, and no other. -/
  passed : Trace.isReadable request.headers request.body = true →
    ∃ (passed : Request) (w₁ : World), request.Same passed ∧
      passed.headers.values Trace.header = [id] ∧
      (server.handle request w).1 = server.finish request
        (Trace.outward (some id) (Cors.around server.policy server.route passed w₁).1)
  /-- A usable value is the id, without the white space around it. -/
  kept : ∀ value, request.headers.get? Trace.header = some value → Trace.Usable value →
    id = Header.stripped value
  /-- In all other cases the id is a UUID that is drawn for this request. -/
  fresh : (∀ value, request.headers.get? Trace.header = some value → ¬Trace.Usable value) →
    id = Utf8.bytes (server.supply.id w.drawn) ∧ Uuid.IsText (server.supply.id w.drawn) ∧
      w.drawn < (server.handle request w).2.drawn
  /-- A request that brings the id of an answer with it is answered with the same id. -/
  again : ∀ (next : Request) (w' : World), next.headers.get? Trace.header = some id →
    (server.handle next w').1.headers.values Trace.header = [id]

section Ids

variable {server : Server} (ids : ∀ n, Uuid.IsText (server.supply.id n)) {request : Request}
  {w : World}

include ids

/-- The answer has the id that was chosen, and no other. -/
theorem handle_values (request : Request) (w : World) :
    (server.handle request w).1.headers.values Trace.header
      = [Utf8.bytes (Trace.chosen server.supply request w)] := by
  rw [handle_apply]
  dsimp only
  rw [finish_values _ _ _ (by decide)]
  exact Trace.around_values (Supply.printable_of_isText ids) _ request w

/-- The id of a request is usable, and has no white space around it. -/
theorem usable_chosen (request : Request) (w : World) :
    Trace.Usable (Utf8.bytes (Trace.chosen server.supply request w)) ∧
      Header.stripped (Utf8.bytes (Trace.chosen server.supply request w))
        = Utf8.bytes (Trace.chosen server.supply request w) := by
  by_cases h : ∃ value, request.headers.get? Trace.header = some value ∧ Trace.Usable value
  · obtain ⟨value, hfirst, husable⟩ := h
    rw [Trace.bytes_chosen_of_usable hfirst husable]
    exact ⟨husable.stripped, Header.stripped_stripped value⟩
  · rw [Trace.chosen_of_not_usable fun value hfirst husable => h ⟨value, hfirst, husable⟩]
    exact ⟨(ids w.drawn).usable, (ids w.drawn).stripped_eq⟩

/-- **Every request has one trace id**, on any path, by any method and with any outcome: a usable
    value that the request brings with it, or else a fresh UUID. The service inside sees this id
    only, the answer has it, and a request that brings it with it is given it again. -/
theorem handle_traceId (request : Request) (w : World) : ∃ id, server.Carries request w id := by
  have printable : server.supply.Printable := Supply.printable_of_isText ids
  obtain ⟨husable, hstripped⟩ := usable_chosen ids request w
  refine ⟨Utf8.bytes (Trace.chosen server.supply request w), handle_values ids request w,
    Trace.valueOf?_chosen printable request w, fun inner hinner => ?_, fun readable => ?_,
    fun value hfirst hvalue => Trace.bytes_chosen_of_usable hfirst hvalue, fun hnone => ?_,
    fun next w' hnext => ?_⟩
  · -- The six parts: the service inside, the way to it, a usable value, a fresh one, and the next
    -- request.
    dsimp only
    rw [handle_apply, Trace.around_congr printable hinner]
  · have haround := Trace.around_of_readable server.supply
      (Cors.around_complete server.policy server.route_complete) readable w
    dsimp only at haround
    rw [Trace.valueOf?_chosen printable request w] at haround
    have hvalues : (Trace.inward (some (Utf8.bytes (Trace.chosen server.supply request w)))
        request).headers.values Trace.header
          = [Utf8.bytes (Trace.chosen server.supply request w)] :=
      request.headers.values_set_self Trace.header _
    refine ⟨_, (Trace.started request w).logging
      (Trace.lines "request" request.headers request.body), Trace.same_inward _ readable,
      hvalues, ?_⟩
    rw [handle_apply, haround]
  · rw [Trace.chosen_of_not_usable hnone]
    obtain ⟨-, -, -, hdrawn⟩ := Trace.around_ends server.supply server.around_route_reports
      request w
    refine ⟨rfl, ids w.drawn, Nat.lt_of_lt_of_le ?_ hdrawn⟩
    rw [Trace.started, Trace.idOf?_of_not_usable hnone]
    exact Nat.lt_succ_self w.drawn
  · rw [handle_values ids next w', Trace.bytes_chosen_of_usable hnext husable, hstripped]

end Ids

/-- A server whose fresh ids are UUIDs. -/
def sampleFresh : Server := { sample with supply := .uuids }

/-- A request for a path that is not there, with an id that has spaces around it, and a second
    one. -/
def sampleLabelled : Request where
  method := .other "PUT"
  target := ⟨"/nowhere"⟩
  headers := [("x-trace-id", Utf8.bytes " a b\t"), ("x-trace-id", Utf8.bytes "c")]
  body := .empty

/-- The first id is sent back without the spaces around it. -/
theorem handle_traceId_labelled :
    (sampleFresh.handle sampleLabelled sample.initial).1.headers.values Trace.header
      = [Utf8.bytes "a b"] := by
  obtain ⟨id, hcarries⟩ := @handle_traceId sampleFresh Uuid.isText_ofNat
    sampleLabelled sample.initial
  have hid : id = Header.stripped (Utf8.bytes " a b\t") :=
    hcarries.kept _ rfl (by decide)
  rw [hcarries.answered, hid]
  decide

/-! ### The log -/

/-- **The log of a request.** It begins with one event and ends with another, which tells the status
    that is sent, and neither comes in between. If the body has a known size and can be read, then
    what is said of it, what the service inside says, and what is said of the body of the answer
    stand in between, whatever service is inside; if it cannot be read, only that is said. Of a body
    that is announced as long, or not declared as JSON, no byte makes a difference to what is
    said. -/
theorem handle_log (server : Server) (request : Request) (w : World) :
    (∃ middle : List Event, (∀ e ∈ middle, e.Inner) ∧
      (server.handle request w).2.events = w.events ++ Trace.opening :: middle ++
        [Trace.finished (server.handle request w).1.status]) ∧
    (∀ n, request.body.size = some n →
      Trace.isReadable request.headers request.body = true →
      Trace.Recounts (Cors.around server.policy server.route) request n w
        (server.handle request w) ∧
      ∀ inner : Request → Effect Response,
        (∀ passed w, (inner passed w).1.body.Complete) →
        (∀ passed w, w.events <+: (inner passed w).2.events) →
        Trace.Recounts inner request n w (Trace.around server.supply inner request w)) ∧
    (Trace.isReadable request.headers request.body = false →
      ∃ fault : BodyFault, (server.handle request w).2.events = w.events ++ [Trace.opening,
        ⟨.warn, "failed to read request body", [("error", fault.message)]⟩,
        Trace.finished (server.handle request w).1.status]) ∧
    ∀ (n : Nat) (direction : String) (headers : Headers) (body body' : Body),
      body.size = some n → body'.size = some n →
      (Trace.maxLogged ≤ n ∨ ¬Trace.Declared (Trace.contentType headers)) →
      (Trace.logBody direction headers body' w).2 = (Trace.logBody direction headers body w).2 := by
  -- What is done behind the trace changes neither the status nor the log.
  have hstatus : (server.handle request w).1.status =
      (Trace.around server.supply (Cors.around server.policy server.route) request w).1.status :=
    finish_status request _
  refine ⟨?_, fun n size readable => ⟨?_, fun inner answers grows =>
    Trace.around_log server.supply answers grows size readable w⟩, fun unreadable => ?_,
    fun n direction headers body body' h h' hidden => Trace.logBody_of_hidden h h' hidden w⟩
  · obtain ⟨middle, hmiddle, hevents, -⟩ := Trace.around_ends server.supply
      server.around_route_reports request w
    rw [hstatus]
    exact ⟨middle, hmiddle, hevents⟩
  · have grows (passed : Request) (w₁ : World) :
        w₁.events <+: (Cors.around server.policy server.route passed w₁).2.events := by
      obtain ⟨events, -, hevents⟩ := (server.around_route_reports passed).exists_events w₁
      exact ⟨events, hevents.symm⟩
    have hrecounts := Trace.around_log server.supply
      (Cors.around_complete server.policy server.route_complete) grows size readable w
    unfold Trace.Recounts at hrecounts ⊢
    rw [hstatus]
    exact hrecounts
  · rw [hstatus]
    exact Trace.around_log_of_not_readable server.supply _ unreadable w

/-- A small post of JSON to an unknown path. -/
def sampleLost : Request where
  method := .post
  target := ⟨"/nowhere"⟩
  headers := [("content-type", Utf8.bytes "application/json")]
  body := .full (Utf8.bytes "[1]")

/-- Its body is in the log, behind the event that opens it, and so is the status of the answer. -/
theorem handle_log_lost :
    ∃ rest : List Event, (sample.handle sampleLost sample.initial).2.events =
      Trace.opening :: Trace.wholeLine "request" "[1]" :: rest ++
        [Trace.finished (sample.handle sampleLost sample.initial).1.status] := by
  obtain ⟨-, hlog, -, -⟩ := handle_log sample sampleLost sample.initial
  obtain ⟨⟨_, _, told, inside, told', -, -, -, -, hevents, htells, -⟩, -⟩ := hlog 3 rfl (by decide)
  have htold : told = [Trace.wholeLine "request" "[1]"] :=
    htells.whole (by decide) (by decide) (by decide) "[1]" (by decide)
  refine ⟨inside ++ told', ?_⟩
  rw [hevents, htold]
  rfl

end Server

end DialogStub
