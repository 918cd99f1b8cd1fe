import DialogStub.Proofs.Api.Handlers
import DialogStub.Proofs.Http.Trace

/-!
# Routes and their answers

* `Route.ofPath_sessions_iff`, `Route.ofPath_messages_iff` — the paths of the two routes on which
  something is written;
* `Route.ofPath_sessionMessages` — the paths of the messages of a session;
* `Server.route_of_none`, `Server.route_of_action`, `Server.route_of_no_action` — the three ways in
  which a request is routed;
* `Response.Made` — the answers that routes give: each comes as it is announced, and its header
  fields are told by the way in which it is made;
* `Server.route_made` — every answer of the routes is one of them.
-/

namespace DialogStub

open Http

/-! ### Routes -/

namespace Route

/-- The two routes that write have a fixed path. -/
theorem mem_fixed_of_ofPath {withPages : Bool} {path : String} {route : Route}
    (h : ofPath withPages path = some route) (hfixed : route = .sessions ∨ route = .messages) :
    (path, route) ∈ fixed := by
  unfold ofPath at h
  split at h
  · rename_i found hlookup
    cases h
    obtain ⟨before, after, heq, -⟩ := List.lookup_eq_some_iff.mp hlookup
    rw [heq]
    simp
  · -- The other routes have a session id in their path, or belong to the pages about the API.
    exfalso
    split at h
    · unfold ofSegment at h
      dsimp only at h
      split at h
      · cases h
        simp at hfixed
      · split at h
        · cases h
          simp at hfixed
        · cases h
    · split at h
      · unfold ofPagePath at h
        repeat' split at h
        all_goals
          cases h
          try simp at hfixed
      · cases h

/-- One of them is the path of all sessions. -/
theorem ofPath_sessions_iff {withPages : Bool} {path : String} :
    ofPath withPages path = some .sessions ↔ path = "/api/v1/chat/sessions" := by
  -- The table is looked through from both ends: there is one entry for this route.
  constructor
  · intro h
    have := mem_fixed_of_ofPath h (.inl rfl)
    simpa [fixed] using this
  · rintro rfl
    rfl

/-- The other is the path of all messages. -/
theorem ofPath_messages_iff {withPages : Bool} {path : String} :
    ofPath withPages path = some .messages ↔ path = "/api/v1/chat/messages" := by
  constructor
  · intro h
    have := mem_fixed_of_ofPath h (.inr rfl)
    simpa [fixed] using this
  · rintro rfl
    rfl

theorem action?_sessions_write_iff {method : Method} :
    action? .sessions method = some .write ↔ method = .post := by
  cases method <;> simp [action?, methods, lookup_cons_ite]

theorem action?_messages_iff {method : Method} {action : Action} :
    action? .messages method = some action ↔ method = .post ∧ action = .write := by
  cases method <;> simp [action?, methods, lookup_cons_ite, eq_comm]

/-- No fixed path leads to a session. -/
theorem fixed_not_prefixed :
    ∀ entry ∈ fixed, sessionPath.isPrefixOf entry.1.toList = false := by
  decide

/-- What is below the sessions is told by what stands behind their path. -/
theorem ofPath_below_sessions (withPages : Bool) (rest : List Char) :
    ofPath withPages (String.ofList (sessionPath ++ rest)) = ofSegment rest := by
  have hbegins : sessionPath.isPrefixOf (sessionPath ++ rest) = true :=
    List.isPrefixOf_iff_prefix.mpr (List.prefix_append _ _)
  -- No fixed path begins like the path of a session.
  have hfixed : fixed.lookup (String.ofList (sessionPath ++ rest)) = none := by
    rw [List.lookup_eq_none_iff]
    intro entry hentry
    rw [bne_iff_ne]
    intro heq
    have hnot := fixed_not_prefixed entry hentry
    rw [← heq, String.toList_ofList, hbegins] at hnot
    cases hnot
  rw [ofPath, hfixed]
  dsimp only
  rw [String.toList_ofList, if_pos hbegins, List.drop_left]

/-- A segment ends at the slash of what follows. -/
theorem takeWhile_segment {segment rest : List Char} (h : '/' ∉ segment)
    (hrest : rest = [] ∨ rest = messagesPath) :
    (segment ++ rest).takeWhile (· ≠ '/') = segment := by
  rw [List.takeWhile_append_of_pos (fun c hc => by simpa using ne_of_mem_of_not_mem hc h)]
  rcases hrest with rfl | rfl <;> exact List.append_nil _

/-- The path of the messages of a session, whose id is one segment. -/
theorem ofPath_sessionMessages (withPages : Bool) {segment : List Char} (h : '/' ∉ segment) :
    ofPath withPages (String.ofList (sessionPath ++ segment ++ messagesPath))
      = some (.sessionMessages segment) := by
  rw [List.append_assoc, ofPath_below_sessions, ofSegment, takeWhile_segment h (.inr rfl),
    List.drop_left]
  exact if_pos rfl

end Route

/-! ### What answers are made of -/

/-- The answers that routes give: with a body of a media type, without a body, or the way to the
    pages about the API. -/
inductive Http.Response.Made : Response → Prop where
  | withBody (status : Nat) (type : String) (body : Bytes) : Made (.withBody status type body)
  | bare (status : Nat) : Made (.bare status)
  | redirect : Made Document.redirect

/-- Such an answer comes as it is announced. -/
theorem Http.Response.Made.complete {response : Response} (h : response.Made) :
    response.body.Complete := by
  cases h with
  | withBody status type body => exact Body.complete_full body
  | bare status => exact Body.complete_empty
  | redirect => exact Body.complete_empty

/-- It has no header fields but those of the routes. -/
theorem Http.Response.Made.name_cases {response : Response} (h : response.Made)
    {field : String × Bytes} (hfield : field ∈ response.headers) :
    field.1 = "content-type" ∨ field.1 = "location" := by
  cases h with
  | withBody status type body => exact .inl (congrArg Prod.fst (List.mem_singleton.mp hfield))
  | bare status => cases hfield
  | redirect => exact .inr (congrArg Prod.fst (List.mem_singleton.mp hfield))

/-- An effect whose answer is made in one of these ways. -/
def Effect.AnswersMade (f : Effect Response) : Prop :=
  ∀ w, (f w).1.Made

/-- An effect whose answer comes as it is announced. -/
def Effect.AnswersComplete (f : Effect Response) : Prop :=
  ∀ w, (f w).1.body.Complete

theorem Effect.AnswersMade.complete {f : Effect Response} (h : f.AnswersMade) :
    f.AnswersComplete :=
  fun w => (h w).complete

theorem Effect.AnswersMade.pure {response : Response} (h : response.Made) :
    Effect.AnswersMade (Pure.pure response) :=
  fun _ => h

/-- Errors are answered with a body of JSON. -/
theorem ApiError.answer_made (e : ApiError) : e.answer.AnswersMade := by
  intro w
  cases e <;> exact .withBody _ _ _

/-- So are values. -/
theorem Handler.respond_made (handler : Handler) : (Handler.respond handler).AnswersMade := by
  intro w
  rw [Handler.respond, Effect.bind_apply]
  cases (handler w).1 with
  | ok value => exact .withBody _ _ _
  | error e => exact e.answer_made _

namespace Server

variable (server : Server)

/-- A segment that is no id is answered with a text. -/
theorem withSessionId_made (segment : List Char) (next : String → Handler) :
    (withSessionId segment next).AnswersMade := by
  unfold withSessionId Content.sessionId
  split
  · exact Handler.respond_made _
  · -- The only answer without a handler is the one about the segment.
    rename_i response hid
    split at hid
    · cases hid
    · cases hid
      exact .pure (.withBody _ _ _)

/-- So is a body that does not come to its end. -/
theorem withBody_made (request : Request) (next : Bytes → Handler) :
    (withBody request next).AnswersMade := by
  unfold withBody Content.raw
  split
  · exact Handler.respond_made _
  · rename_i response hbody
    split at hbody
    · cases hbody
      exact .pure (.withBody _ _ _)
    · cases hbody
      exact .pure (.withBody _ _ _)
    · cases hbody

/-- Every route answers in one of these ways. -/
theorem dispatch_made (route : Route) (action : Action) (request : Request) :
    (server.dispatch route action request).AnswersMade := by
  cases route with
  | data =>
    cases action with
    | read => exact Handler.respond_made _
    | write => exact withBody_made request _
  | sessions => cases action <;> exact Handler.respond_made _
  | info | users | complexData | document => exact .pure (.withBody _ _ _)
  | session segment => exact withSessionId_made segment _
  | sessionMessages segment => exact withSessionId_made segment _
  | pages => exact .pure .redirect
  | page file =>
    refine .pure ?_
    -- A file of the pages is there, or it is not.
    unfold Document.page
    split
    · exact .withBody _ _ _
    · exact .bare _
  | _ => exact Handler.respond_made _

/-! ### The routes of a request -/

section Routes

variable {server} {request : Request}

theorem route_of_none (h : server.routeOf request = none) :
    server.route request = (ApiError.notFound "Not found").answer := by
  rw [route, h]

/-- A path and a method that a route answers. -/
theorem route_of_action {found : Route} {action : Action}
    (h : server.routeOf request = some found)
    (haction : found.action? request.method = some action) :
    server.route request = server.dispatch found action request := by
  rw [route, h]
  dsimp only
  rw [haction]

/-- A path of a route with a method that it does not answer. -/
theorem route_of_no_action {found : Route} (h : server.routeOf request = some found)
    (haction : found.action? request.method = none) :
    server.route request = pure (.bare 405) := by
  rw [route, h]
  dsimp only
  rw [haction]

end Routes

/-- **Answers of the routes** are made in one of three ways. -/
theorem route_made (request : Request) : (server.route request).AnswersMade := by
  cases h : server.routeOf request with
  | none =>
    rw [route_of_none h]
    exact ApiError.answer_made _
  | some found =>
    cases haction : found.action? request.method with
    | none =>
      rw [route_of_no_action h haction]
      exact .pure (.bare 405)
    | some action =>
      rw [route_of_action h haction]
      exact server.dispatch_made found action request

/-- So every answer of the routes comes as it is announced. -/
theorem route_complete (request : Request) : (server.route request).AnswersComplete :=
  (server.route_made request).complete

end Server

end DialogStub
