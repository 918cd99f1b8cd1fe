import DialogStub.Proofs.Api.Errors

/-!
# Endpoints that take a record

* `Request.Brings` — a request whose body is a record, and is declared as JSON;
* `Demand` — what has to be in a record;
* `Endpoint` — an endpoint that takes a record, with what has to be there and what it does then;
* `Endpoint.Answers` — its answers: the record is rejected, it lacks something, or it is served;
* `Endpoint.route_answers`, `Endpoint.handle_answers` — the routes give one of these answers to
  every request, and so does the server with its layers;
* `Endpoint.ReceivesTexts` — a request with the two texts that an endpoint asks for, which serves
  it.

Handlers that take a record repeat one check, and differ in what they ask for and in what they do
at last. An endpoint carries the proofs that its handler is of this kind, so that the check is
looked at once. What is done at last may be told inside the layers around the routes or outside of
them, since the layers add nothing to the store and to the calls.
-/

namespace DialogStub

open Http Json

/-! ### Records in bodies -/

/-- A request that brings a record: it declares JSON, and its body comes to its end within the limit
    and is read as the record. -/
structure Http.Request.Brings {α : Type} (request : Request) (shape : Shape α) (a : α) : Prop where
  declared : request.headers.declareJson = true
  unbroken : request.body.broken = false
  length_le : request.body.bytes.length ≤ Content.maxLength
  read_eq : shape.ofBytes request.body.bytes = .ok a

namespace Content

variable {α : Type} {shape : Shape α} {request : Request}

/-- A record is read if the request brings it, and only then. -/
theorem record_eq_ok_iff {a : α} : record shape request = .ok a ↔ request.Brings shape a := by
  constructor
  · intro h
    have hread := ofBytes_of_record h
    -- Each of the checks on the way to the record has been passed.
    unfold record Body.collect at h
    split at h
    · rename_i hdeclared
      split at h
      · cases h
      rename_i hcollect
      split at hcollect
      · cases hcollect
      rename_i hlength
      split at hcollect
      · cases hcollect
      rename_i hbroken
      exact ⟨hdeclared, Bool.not_eq_true _ ▸ hbroken, Nat.not_lt.mp hlength, hread⟩
    · cases h
  · rintro ⟨hdeclared, hbroken, hlength, hread⟩
    have hcollect : request.body.collect maxLength = .ok request.body.bytes := by
      rw [Body.collect, if_neg (Nat.not_lt.mpr hlength), hbroken]
      rfl
    rw [record, if_pos hdeclared, hcollect]
    dsimp only
    rw [hread]

/-- A body that is no record makes a bad request, whatever is wrong with it. -/
theorem exists_badRequest_of_record {e : ApiError} (h : record shape request = .error e) :
    ∃ message, e = .badRequest message := by
  unfold record at h
  split at h
  · split at h
    · cases h
      exact ⟨_, rfl⟩
    · split at h
      · cases h
        exact ⟨_, rfl⟩
      · cases h
  · cases h
    exact ⟨_, rfl⟩

end Content

/-- A request brings what it brings, whatever the trace changes on the way. -/
theorem Http.Request.Same.brings_iff {α : Type} {request passed : Request}
    (h : request.Same passed) {shape : Shape α} {a : α} :
    passed.Brings shape a ↔ request.Brings shape a := by
  rw [← Content.record_eq_ok_iff, ← Content.record_eq_ok_iff, h.record_eq]

/-! ### Answers that look alike -/

/-- Two answers with the same status, media type and bytes. -/
structure Http.Response.Alike (response response' : Response) : Prop where
  status_eq : response'.status = response.status
  type_eq : response'.headers.get? "content-type" = response.headers.get? "content-type"
  bytes_eq : response'.body.bytes = response.body.bytes

/-- Answers that are alike tell the same error. -/
theorem ApiError.Tells.of_alike {e : ApiError} {response response' : Response}
    (h : e.Tells response) (alike : response.Alike response') : e.Tells response' where
  status_eq := alike.status_eq.trans h.status_eq
  type_eq := alike.type_eq.trans h.type_eq
  bytes_eq := alike.bytes_eq.trans h.bytes_eq
  read_eq := alike.bytes_eq ▸ h.read_eq

theorem ApiError.tells_response (e : ApiError) : e.Tells e.response :=
  tells_of_eq rfl rfl rfl

/-- A handler that fails is answered with its error, and the store and the calls stay as it left
    them. -/
theorem Handler.tells_of_error {handler : Handler} {e : ApiError} {w w' : World}
    (h : handler w = (.error e, w')) :
    e.Tells (Handler.respond handler w).1 ∧ w'.Beside (Handler.respond handler w).2 := by
  obtain ⟨w₂, hrespond, hbeside⟩ := Handler.respond_of_error h
  rw [hrespond]
  exact ⟨e.tells_response, hbeside⟩

/-- A request for a route that the trace can read is dispatched there, and the layers add to the
    answer nothing but their fields, and nothing to the store and the calls. -/
theorem Server.exists_dispatch (server : Server) {request : Request} {route : Route}
    {action : Action} (goes : request.GoesTo route action)
    (method : request.method = .get ∨ request.method = .post)
    (readable : Trace.isReadable request.headers request.body = true) (w : World) :
    ∃ passed w₁, request.Same passed ∧ w.Beside w₁ ∧
      (server.dispatch route action passed w₁).1.Alike (server.handle request w).1 ∧
      (server.dispatch route action passed w₁).2.Beside (server.handle request w).2 := by
  have hhead : request.method ≠ .head := by rcases method with h | h <;> simp [h]
  have hoptions : request.method ≠ .options := by rcases method with h | h <;> simp [h]
  obtain ⟨passed, w₁, hpasses, hget⟩ := server.exists_passes_fields readable hoptions w
  -- The route is the same for the request that the layers hand on.
  have heq : server.route passed = server.dispatch route action passed :=
    route_of_goesTo (goes.of_same hpasses.same)
  refine ⟨passed, w₁, hpasses.same, hpasses.beside, ⟨?_, ?_, ?_⟩, ?_⟩
  · rw [← heq]
    exact hpasses.status_eq
  · rw [← heq]
    exact hget _ (by decide)
  · rw [← heq]
    exact hpasses.bytes_eq hhead
  · rw [← heq]
    exact hpasses.beside_after

/-! ### Endpoints -/

/-- What has to be in a record: fields with their keys, as texts that may be empty or may not. -/
structure Demand (α : Type) where
  fields : List (String × (α → Option String))
  allowsEmpty : Bool

namespace Demand

variable {α : Type} (demand : Demand α)

/-- A record lacks a field if it is not there, or is empty where it may not be. -/
def Lacks (a : α) : Prop :=
  ∃ field ∈ demand.fields, field.2 a = none ∨ demand.allowsEmpty = false ∧ field.2 a = some ""

/-- The keys of the fields, as a complaint names them. -/
def wanted : String :=
  " or ".intercalate (demand.fields.map Prod.fst)

/-- Two texts that may not be empty. -/
def ofTwo (first second : String) (value value' : α → Option String) : Demand α :=
  ⟨[(first, value), (second, value')], false⟩

/-- A field is missing if it is not there or empty. -/
theorem present_eq_none_iff {field : Option String} :
    present field = none ↔ field = none ∨ field = some "" := by
  cases field with
  | none => simp [present]
  | some s => by_cases h : s = "" <;> simp [present, h]

/-- Of two fields one is missing. -/
theorem lacks_ofTwo_iff {first second : String} {value value' : α → Option String} {a : α} :
    (ofTwo first second value value').Lacks a ↔
      present (value a) = none ∨ present (value' a) = none := by
  rw [present_eq_none_iff, present_eq_none_iff]
  simp [Lacks, ofTwo]

/-- What does not lack either text has both. -/
theorem exists_of_not_lacks {first second : String} {value value' : α → Option String} {a : α}
    (h : ¬(ofTwo first second value value').Lacks a) :
    ∃ s s', present (value a) = some s ∧ present (value' a) = some s' := by
  rw [lacks_ofTwo_iff, not_or] at h
  obtain ⟨s, hs⟩ := Option.ne_none_iff_exists'.mp h.1
  obtain ⟨s', hs'⟩ := Option.ne_none_iff_exists'.mp h.2
  exact ⟨s, s', hs, hs'⟩

end Demand

/-- An endpoint that takes a record with `POST`. Its handler rejects what is no record, then what
    lacks a field, and else does what `Serves` says: this relates the world before, the answer, and
    the world after, and it holds outside the layers if it holds inside. -/
structure Endpoint (α : Type) where
  route : Route
  shape : Shape α
  demand : Demand α
  handler : Server → Request → Handler
  Serves : Server → α → World → Response → World → Prop
  served : route.IsServed
  written : route.isWritten = true
  dispatch_eq : ∀ server request,
    server.dispatch route .write request = (handler server request).respond
  rejects : ∀ {server request e}, Content.record shape request = .error e →
    ∀ w, handler server request w = (.error e, w)
  refuses : ∀ {server request a}, Content.record shape request = .ok a → demand.Lacks a →
    ∀ w, handler server request w = (.error (.missing demand.wanted), w)
  serves : ∀ server {request a}, Content.record shape request = .ok a → ¬demand.Lacks a →
    ∀ w, Serves server a w ((handler server request).respond w).1
      ((handler server request).respond w).2
  status_ne : ∀ {server a w response w'}, Serves server a w response w' → response.status ≠ 400
  stable : ∀ {server a w w₁ w₂ w' response response'}, Serves server a w₁ response w₂ →
    w.Beside w₁ → w₂.Beside w' → response.Alike response' → Serves server a w response' w'

/-- A body that comes to its end has the size that was announced for it. -/
def Http.Body.Faithful (body : Body) : Prop :=
  body.broken = false → ∀ n ∈ body.size, body.bytes.length = n

/-- What the trace cannot read of such a body breaks, so that it holds no record. -/
theorem Http.Body.Faithful.broken_of_not_readable {headers : Headers} {body : Body}
    (h : body.Faithful) (unreadable : Trace.isReadable headers body = false) :
    body.broken = true := by
  obtain ⟨hplan, hlong⟩ : Trace.plan (Trace.contentType headers) body.size = .whole ∧
      (body.broken = false → Trace.maxLogged < body.bytes.length) := by
    simpa [Trace.isReadable] using unreadable
  obtain ⟨n, hsize, -, hn⟩ := Trace.lt_of_plan_whole hplan
  by_contra hbroken
  rw [Bool.not_eq_true] at hbroken
  have hlength := h hbroken n hsize
  have := hlong hbroken
  omega

namespace Endpoint

variable {α : Type} (endpoint : Endpoint α)

/-- A request that posts to the endpoint. -/
def Receives (request : Request) : Prop :=
  request.method = .post ∧ request.target.path = endpoint.route.path

/-- The answers of an endpoint: `w` and `w'` are the worlds before and after. -/
inductive Answers (server : Server) (request : Request) (w : World) (response : Response)
    (w' : World) : Prop where
  /-- No record is brought, and nothing happens. -/
  | rejected (message : String) (unread : ∀ a, ¬request.Brings endpoint.shape a)
      (tells : (ApiError.badRequest message).Tells response) (beside : w.Beside w')
  /-- The record lacks a field, and nothing happens. -/
  | lacking (a : α) (brings : request.Brings endpoint.shape a) (lacks : endpoint.demand.Lacks a)
      (tells : (ApiError.missing endpoint.demand.wanted).Tells response) (beside : w.Beside w')
  /-- The record has all fields, and is served. -/
  | served (a : α) (brings : request.Brings endpoint.shape a) (full : ¬endpoint.demand.Lacks a)
      (status_ne : response.status ≠ 400) (serves : endpoint.Serves server a w response w')

variable {endpoint} {server : Server} {request passed : Request} {w w₁ w₂ w' : World}
  {response response' : Response}

/-- What an endpoint receives comes to its handler. -/
theorem Receives.route_eq (h : endpoint.Receives request) :
    server.route request = (endpoint.handler server request).respond := by
  have goes : request.GoesTo endpoint.route .write :=
    ⟨⟨endpoint.served, h.2⟩, h.1, endpoint.written⟩
  rw [Server.route_of_goesTo goes, endpoint.dispatch_eq]

/-- **The routes** give one of the answers, whatever is posted. -/
theorem route_answers (h : endpoint.Receives request) (w : World) :
    endpoint.Answers server request w (server.route request w).1 (server.route request w).2 := by
  rw [h.route_eq]
  -- The record is looked at before its fields are, and these before anything is done.
  cases hrecord : Content.record endpoint.shape request with
  | error e =>
    obtain ⟨message, rfl⟩ := Content.exists_badRequest_of_record hrecord
    obtain ⟨htells, hbeside⟩ := Handler.tells_of_error (endpoint.rejects hrecord w)
    refine .rejected message (fun a hbrings => ?_) htells hbeside
    rw [Content.record_eq_ok_iff.mpr hbrings] at hrecord
    cases hrecord
  | ok a =>
    have hbrings := Content.record_eq_ok_iff.mp hrecord
    by_cases hlacks : endpoint.demand.Lacks a
    · obtain ⟨htells, hbeside⟩ := Handler.tells_of_error (endpoint.refuses hrecord hlacks w)
      exact .lacking a hbrings hlacks htells hbeside
    · have hserves := endpoint.serves server hrecord hlacks w
      exact .served a hbrings hlacks (endpoint.status_ne hserves) hserves

/-- An answer that is given inside the layers is given outside of them. -/
theorem Answers.outward (h : endpoint.Answers server passed w₁ response w₂)
    (same : request.Same passed) (before : w.Beside w₁) (after : w₂.Beside w')
    (alike : response.Alike response') : endpoint.Answers server request w response' w' := by
  -- The three kinds of answers stay what they are.
  cases h with
  | rejected message unread tells beside =>
    exact .rejected message (fun a hbrings => unread a (same.brings_iff.mpr hbrings))
      (tells.of_alike alike) (before.trans (beside.trans after))
  | lacking a brings lacks tells beside =>
    exact .lacking a (same.brings_iff.mp brings) lacks (tells.of_alike alike)
      (before.trans (beside.trans after))
  | served a brings full status_ne serves =>
    refine .served a (same.brings_iff.mp brings) full ?_ (endpoint.stable serves before after alike)
    rw [alike.status_eq]
    exact status_ne

/-- The server gives one of the answers to what the trace can read. -/
theorem handle_answers_of_readable (h : endpoint.Receives request)
    (readable : Trace.isReadable request.headers request.body = true) (w : World) :
    endpoint.Answers server request w (server.handle request w).1 (server.handle request w).2 := by
  have hoptions : request.method ≠ .options := by simp [h.1]
  have hhead : request.method ≠ .head := by simp [h.1]
  obtain ⟨passed, w₁, hpasses, hget⟩ := server.exists_passes_fields readable hoptions w
  have hreceived : endpoint.Receives passed := by
    rw [Receives, hpasses.same.method_eq, hpasses.same.target_eq]
    exact h
  exact (route_answers hreceived w₁).outward hpasses.same hpasses.beside hpasses.beside_after
    ⟨hpasses.status_eq, hget _ (by decide), hpasses.bytes_eq hhead⟩

/-- A body of which the trace cannot read what it wants is no record, and the trace says so. -/
theorem handle_answers_of_not_readable (h : endpoint.Receives request)
    (faithful : request.body.Faithful)
    (unreadable : Trace.isReadable request.headers request.body = false) (w : World) :
    endpoint.Answers server request w (server.handle request w).1 (server.handle request w).2 := by
  obtain ⟨hstatus, hbytes, hget, hbeside⟩ := server.handle_of_not_readable_fields unreadable w
  refine .rejected "Failed to read request body" (fun a hbrings => ?_)
    (ApiError.tells_of_eq hstatus (hbytes (by simp [h.1])) (hget _ (by decide))) hbeside
  have hbroken := faithful.broken_of_not_readable unreadable
  rw [hbrings.unbroken] at hbroken
  cases hbroken

/-- **The server** gives one of the answers to what the trace can read, and to every body with its
    announced size. -/
theorem handle_answers (h : endpoint.Receives request)
    (sent : Trace.isReadable request.headers request.body = true ∨ request.body.Faithful)
    (w : World) :
    endpoint.Answers server request w (server.handle request w).1 (server.handle request w).2 := by
  cases readable : Trace.isReadable request.headers request.body with
  | true => exact handle_answers_of_readable h readable w
  | false =>
    have faithful : request.body.Faithful := sent.resolve_left (by simp [readable])
    exact handle_answers_of_not_readable h faithful readable w

/-! ### Two texts -/

/-- A request that posts a record with two texts to the endpoint, neither of which is empty. -/
structure ReceivesTexts (endpoint : Endpoint α) (value value' : α → Option String)
    (request : Request) (s s' : String) : Prop where
  receives : endpoint.Receives request
  sent : Trace.isReadable request.headers request.body = true ∨ request.body.Faithful
  brings : ∃ a, request.Brings endpoint.shape a ∧ value a = some s ∧ value' a = some s'
  ne_empty : s ≠ "" ∧ s' ≠ ""

namespace ReceivesTexts

variable {value value' : α → Option String} {s s' : String}

/-- Both texts are present. -/
theorem present_eq (h : endpoint.ReceivesTexts value value' request s s') {a : α}
    (ha : value a = some s) (ha' : value' a = some s') :
    present (value a) = some s ∧ present (value' a) = some s' := by
  rw [ha, ha']
  simp [present, h.ne_empty]

/-- The trace can read such a request, since its body comes to its end. -/
theorem readable (h : endpoint.ReceivesTexts value value' request s s') :
    Trace.isReadable request.headers request.body = true := by
  obtain ⟨a, hbrings, -⟩ := h.brings
  rcases h.sent with hreadable | hfaithful
  · exact hreadable
  · by_contra hunreadable
    rw [Bool.not_eq_true] at hunreadable
    have hbroken := hfaithful.broken_of_not_readable hunreadable
    rw [hbrings.unbroken] at hbroken
    cases hbroken

/-- An endpoint that asks for these two texts serves such a request. -/
theorem served (server : Server) {first second : String}
    (h : endpoint.ReceivesTexts value value' request s s')
    (asks : endpoint.demand = .ofTwo first second value value') (w : World) :
    ∃ a, value a = some s ∧ value' a = some s' ∧
      endpoint.Serves server a w (server.handle request w).1 (server.handle request w).2 := by
  obtain ⟨a, hbrings, hs, hs'⟩ := h.brings
  have hsame {a' : α} (hbrings' : request.Brings endpoint.shape a') : a' = a :=
    Except.ok.inj (hbrings'.read_eq.symm.trans hbrings.read_eq)
  have hanswers : endpoint.Answers server request w _ _ := handle_answers h.receives h.sent w
  cases hanswers with
  | rejected message unread => exact absurd hbrings (unread a)
  | lacking a' hbrings' lacks =>
    -- Neither text is empty, so that nothing is missing.
    rw [hsame hbrings', asks, Demand.lacks_ofTwo_iff] at lacks
    obtain ⟨hpresent, hpresent'⟩ := h.present_eq hs hs'
    simp [hpresent, hpresent'] at lacks
  | served a' hbrings' _ _ serves =>
    exact ⟨a', hsame hbrings' ▸ hs, hsame hbrings' ▸ hs', serves⟩

end ReceivesTexts

end Endpoint

end DialogStub
