import DialogStub.Http.Cors
import DialogStub.Http.Trace
import DialogStub.Proofs.World

/-!
# Traced requests

* `Body.Complete` — a body that comes as it is announced;
* `Body.Same`, `Request.Same` — what no reader can tell apart but by the trace id;
* `Trace.isReadable` — whether the trace can read a body as far as it wants to;
* `Trace.handed`, `Trace.lines` — the body that the trace hands on, and what the log says of it;
* `Trace.inward`, `Trace.outward` — a request as the service inside gets it, and its answer as it
  goes out;
* `Trace.around_of_readable`, `Trace.around_of_not_readable` — a traced service does what the
  service inside does, or does not call it at all.

The trace reads a body only if it is small and declared as JSON. Such a body may still break, or
bring more than it announced, and then the service inside is never called.
-/

namespace DialogStub.Http

/-! ### Header fields -/

/-- A field of another name is found as before. -/
theorem Headers.get?_set_ne (headers : Headers) {name other : String} (value : Bytes)
    (h : other ≠ name) : (headers.set name value).get? other = headers.get? other := by
  have hlast : List.lookup other [(name, value)] = none := by
    rw [lookup_cons_ite, if_neg h]
    rfl
  unfold Headers.set Headers.get?
  induction headers with
  | nil => simpa using hlast
  | cons field rest ih =>
    obtain ⟨k, v⟩ := field
    -- A field of the name is taken out, all others stay where they are.
    by_cases hk : k = name
    · rw [List.filter_cons_of_neg (by simp [hk]), ih, lookup_cons_ite,
        if_neg (fun heq => h (heq.trans hk))]
    · rw [List.filter_cons_of_pos (by simp [hk]), List.cons_append, lookup_cons_ite,
        lookup_cons_ite, ih]

/-- The mark is a field of the trace and of no one else. -/
theorem Trace.get?_mark_ne (value : Option Bytes) (headers : Headers) {name : String}
    (h : name ≠ header) : (mark value headers).get? name = headers.get? name := by
  cases value with
  | none => rfl
  | some value => exact headers.get?_set_ne value h

/-! ### Bodies -/

namespace Body

/-- A body of known exact size: it comes as it is announced. -/
structure Complete (body : Body) : Prop where
  size_eq : body.size = some body.bytes.length
  broken_eq : body.broken = false

/-- A full body comes as it is announced. -/
theorem complete_full (bs : Bytes) : (full bs).Complete :=
  ⟨by simp [full, bytes], rfl⟩

/-- So does an empty one. -/
theorem complete_empty : empty.Complete := ⟨rfl, rfl⟩

/-- Two bodies with the same bytes, from which every reader gets the same. -/
structure Same (body body' : Body) : Prop where
  bytes_eq : body'.bytes = body.bytes
  collect_eq : ∀ limit, body'.collect limit = body.collect limit

theorem Same.refl (body : Body) : body.Same body := ⟨rfl, fun _ => rfl⟩

/-- A body that does not break may come in one piece. -/
theorem same_full {body : Body} (h : body.broken = false) : body.Same (full body.bytes) :=
  ⟨bytes_full _, fun limit => by
    rw [collect, collect, bytes_full, h, show (full body.bytes).broken = false from rfl]⟩

end Body

/-- Two requests that differ in their trace id at most, and in the pieces of their bodies. -/
structure Request.Same (request request' : Request) : Prop where
  method_eq : request'.method = request.method
  target_eq : request'.target = request.target
  get?_eq : ∀ name, name ≠ Trace.header → request'.headers.get? name = request.headers.get? name
  body_same : request.body.Same request'.body

namespace Trace

/-- Whether the trace can read a body as far as it wants to: it does not want to, or the body
    neither breaks nor is longer than what the trace reads. -/
def isReadable (headers : Headers) (body : Body) : Bool :=
  plan (contentType headers) body.size ≠ .whole ||
    (!body.broken && decide (body.bytes.length ≤ maxLogged))

/-- The trace reads only what is announced as small. -/
theorem lt_of_plan_whole {type : String} {size : Option Nat} (h : plan type size = .whole) :
    ∃ n, size = some n ∧ 0 < n ∧ n < maxLogged := by
  unfold plan at h
  split at h
  · cases h
  · cases h
  · rename_i n
    split at h
    · rename_i hn
      exact ⟨n + 1, rfl, Nat.succ_pos n, hn.2⟩
    · cases h

/-- A body that comes as it is announced can be read. -/
theorem isReadable_of_complete (headers : Headers) {body : Body} (h : body.Complete) :
    isReadable headers body = true := by
  by_cases hplan : plan (contentType headers) body.size = .whole
  · obtain ⟨n, hsize, -, hn⟩ := lt_of_plan_whole hplan
    have hlength : body.bytes.length = n := Option.some.inj (h.size_eq.symm.trans hsize)
    simp [isReadable, h.broken_eq, hlength, Nat.le_of_lt hn]
  · simp [isReadable, hplan]

/-- The body that the trace hands on: one that it reads comes in one piece. -/
def handed (headers : Headers) (body : Body) : Body :=
  if plan (contentType headers) body.size = .whole then .full body.bytes else body

/-- What the log says of a body that the trace can read. -/
def lines (direction : String) (headers : Headers) (body : Body) : List Event :=
  match plan (contentType headers) body.size with
  | .silent => []
  | .skip type size => [⟨.info, skipLine direction type size, []⟩]
  | .whole => match Utf8.text? body.bytes with
    | some text => [⟨.info, direction ++ " body: " ++ text, []⟩]
    | none => []

/-- A body that can be read is handed on. -/
theorem same_handed {headers : Headers} {body : Body} (h : isReadable headers body = true) :
    body.Same (handed headers body) := by
  unfold handed
  split
  · rename_i hplan
    have hbroken : body.broken = false ∧ body.bytes.length ≤ maxLogged := by
      simpa [isReadable, hplan] using h
    exact Body.same_full hbroken.1
  · exact .refl body

/-- A body that comes as it is announced is handed on so. -/
theorem complete_handed (headers : Headers) {body : Body} (h : body.Complete) :
    (handed headers body).Complete := by
  unfold handed
  split
  · exact Body.complete_full _
  · exact h

/-- **Bodies that can be read** are handed on, and the log says its lines about them. -/
theorem logBody_of_readable (direction : String) {headers : Headers} {body : Body}
    (h : isReadable headers body = true) (w : World) :
    logBody direction headers body w =
      (.ok (handed headers body), w.logging (lines direction headers body)) := by
  unfold handed lines
  cases hplan : plan (contentType headers) body.size with
  | silent =>
    simp only [logBody, hplan]
    rw [if_neg (by simp), World.logging_nil]
    rfl
  | skip type size =>
    simp only [logBody, hplan]
    rw [if_neg (by simp)]
    rfl
  | whole =>
    obtain ⟨hbroken, hlength⟩ : body.broken = false ∧ body.bytes.length ≤ maxLogged := by
      simpa [isReadable, hplan] using h
    -- All of the body is read, and handed on in one piece.
    have hcollect : body.collect maxLogged = .ok body.bytes := by
      simp [Body.collect, hbroken, Nat.not_lt.mpr hlength]
    simp only [logBody, hplan, hcollect]
    rw [if_pos trivial]
    cases htext : Utf8.text? body.bytes with
    | none =>
      dsimp only
      rw [World.logging_nil]
      rfl
    | some text => rfl

/-- A body that cannot be read is a fault, and nothing is said of it. -/
theorem logBody_of_not_readable (direction : String) {headers : Headers} {body : Body}
    (h : isReadable headers body = false) (w : World) :
    ∃ fault, logBody direction headers body w = (.error fault, w) := by
  obtain ⟨hplan, hbody⟩ : plan (contentType headers) body.size = .whole ∧
      (body.broken = false → maxLogged < body.bytes.length) := by
    simpa [isReadable] using h
  obtain ⟨fault, hcollect⟩ : ∃ fault, body.collect maxLogged = .error fault := by
    unfold Body.collect
    split
    · exact ⟨_, rfl⟩
    · rename_i hlt
      cases hbroken : body.broken with
      | true => exact ⟨_, rfl⟩
      | false => exact absurd (hbody hbroken) hlt
  refine ⟨fault, ?_⟩
  simp only [logBody, hplan, hcollect]
  rfl

/-! ### The service -/

/-- A request as the service inside gets it: with its trace id, and with the body handed on. -/
def inward (value : Option Bytes) (request : Request) : Request :=
  { request with
    headers := mark value request.headers
    body := handed request.headers request.body }

/-- An answer as it goes out: with the trace id, and with the body handed on. -/
def outward (value : Option Bytes) (response : Response) : Response :=
  { response with
    headers := mark value response.headers
    body := handed response.headers response.body }

/-- The id of a request: the one that it brings with it, or the next fresh one. -/
def chosen (supply : Supply) (request : Request) (w : World) : String :=
  (idOf? request.headers).getD (supply.id w.drawn)

/-- The world once the id of a request is chosen and its start is reported. -/
def started (request : Request) (w : World) : World :=
  { w with
    events := w.events ++ [⟨.info, "→ request started", []⟩]
    drawn := w.drawn + if (idOf? request.headers).isSome then 0 else 1 }

/-- The event at the end of an exchange. -/
def finished (status : Nat) : Event :=
  ⟨.info, "← response finished", [("status", toString status)]⟩

theorem beside_started (request : Request) (w : World) : w.Beside (started request w) :=
  ⟨⟨rfl, Nat.le_add_right _ _⟩, rfl⟩

/-- The service inside gets the same request, but for its id. -/
theorem same_inward {request : Request} (value : Option Bytes)
    (h : isReadable request.headers request.body = true) :
    request.Same (inward value request) where
  method_eq := rfl
  target_eq := rfl
  get?_eq _ hname := get?_mark_ne value request.headers hname
  body_same := same_handed h

variable {inner : Request → Effect Response} {request : Request}

/-- A request with such a body is answered by the trace. -/
theorem exchange_of_not_readable (inner : Request → Effect Response) (value : Option Bytes)
    (h : isReadable request.headers request.body = false) (w : World) :
    ∃ w', exchange value inner request w = (unreadableRequest, w') ∧ w.Beside w' := by
  obtain ⟨fault, hlog⟩ := logBody_of_not_readable "request" h w
  refine ⟨_, ?_, World.Beside.report .warn "failed to read request body"
    [("error", fault.message)] w⟩
  rw [exchange, Effect.bind_apply, hlog]
  rfl

/-- A traced service is an exchange between two events. -/
theorem around_eq (supply : Supply) (inner : Request → Effect Response) (request : Request)
    (w : World) :
    around supply inner request w =
      let value := valueOf? (chosen supply request w)
      let result := exchange value inner request (started request w)
      ({ result.1 with headers := mark value result.1.headers },
        result.2.logging [finished result.1.status]) := by
  unfold chosen started
  -- The id is part of the request, or drawn for it.
  cases h : idOf? request.headers with
  | some id =>
    simp only [around, h]
    rfl
  | none =>
    simp only [around, h]
    rfl

/-- **Bodies that cannot be read.** The service inside is not called, and the answer says so. -/
theorem around_of_not_readable (supply : Supply) (inner : Request → Effect Response)
    (h : isReadable request.headers request.body = false) (w : World) :
    ∃ value, (around supply inner request w).1 =
        { unreadableRequest with headers := mark value unreadableRequest.headers } ∧
      w.Beside (around supply inner request w).2 := by
  obtain ⟨w', hexchange, hw'⟩ := exchange_of_not_readable inner
    (valueOf? (chosen supply request w)) h (started request w)
  rw [around_eq]
  dsimp only
  rw [hexchange]
  exact ⟨_, rfl, (beside_started request w).trans (hw'.trans (.logging w' _))⟩

/-- **All other bodies.** The service inside is called once, for a request that differs from the
    one that came in its trace id at most, and its answer goes out with the same id. The world is
    the one in which the service inside ends, with more lines in its log. -/
theorem around_of_readable (supply : Supply)
    (complete : ∀ request w, (inner request w).1.body.Complete)
    (h : isReadable request.headers request.body = true) (w : World) :
    around supply inner request w =
      let value := valueOf? (chosen supply request w)
      let result := inner (inward value request)
        ((started request w).logging (lines "request" request.headers request.body))
      (outward value result.1,
        result.2.logging (lines "response" result.1.headers result.1.body ++
          [finished result.1.status])) := by
  rw [around_eq]
  dsimp only
  rw [exchange, Effect.bind_apply, logBody_of_readable "request" h]
  dsimp only
  rw [Effect.bind_apply, Effect.bind_apply]
  -- The answer is announced as it is, so that it can be read too.
  rw [logBody_of_readable "response" (isReadable_of_complete _ (complete _ _)), ←
    World.logging_logging]
  rfl

end Trace

end DialogStub.Http
