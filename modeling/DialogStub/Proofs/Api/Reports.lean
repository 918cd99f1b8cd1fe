import DialogStub.Proofs.Api.Routes
import DialogStub.Proofs.Http.TraceLog

/-!
# What the service inside says in the log

A handler that only looks neither opens nor closes a request in the log; here are the two others.
`Server.route_reports` is about all routes.

No handler reads the log, so that what a request is answered and what it does to the rest of the
world cannot tell how requests were reported before.
-/

namespace DialogStub

open Http

open Effect

/-! ### Changes of the store -/

/-- A new session is reported as an inner event, and only the store changes beside it. -/
theorem Effect.createSession_reports (supply : Supply) :
    (Effect.createSession supply).Reports := by
  refine .bind (.newId _) fun _ => .bind (.now _) fun _ => .bind ?_ fun _ =>
    .bind (report_reports _ _ (by decide)) fun _ => .pure _
  -- Between the draws and the report the store is exchanged, and the log stays out of it.
  exact .of_silent (fun _ _ => rfl) (fun _ => Nat.le_refl _)

/-- So is a new message; nothing is reported for a session that is unknown. -/
theorem Effect.appendMessage_reports (supply : Supply) (sessionId content : String)
    (type : MessageType) (intent : Option String) :
    (Effect.appendMessage supply sessionId content type intent).Reports := by
  refine .bind (.ofStore _) fun found => ?_
  cases found with
  | none => exact .pure _
  | some session =>
    refine .bind (.newId _) fun _ => .bind (.now _) fun _ => .bind (.ofStore _) fun result => ?_
    cases result with
    | error fault => exact .pure _
    | ok store =>
      refine .bind ?_ fun _ => .bind (report_reports _ _ (by decide)) fun _ => .pure _
      exact .of_silent (fun _ _ => rfl) (fun _ => Nat.le_refl _)

/-! ### Handlers that change the store -/

/-- The answer of a handler adds at most the line about an inner error. -/
theorem Handler.respond_reports {handler : Handler} (h : handler.Reports) :
    (Handler.respond handler).Reports := by
  refine .bind h fun result => ?_
  cases result with
  | ok value => exact .pure _
  | error e => exact e.answer_looks.reports

namespace Server

variable (server : Server)

theorem createSession_reports : server.createSession.Reports :=
  .bind (Effect.createSession_reports _) fun _ => .bind (report_reports _ _ (by decide)) fun _ =>
    .bind (.nowMillis _) fun _ => (Handler.reply_looks _ _).reports

/-- Neither does adding a message, however it ends. -/
theorem addMessage_reports (request : Request) : (server.addMessage request).Reports := by
  unfold addMessage
  split
  · exact (Handler.fail_looks _).reports
  · split
    · refine .bind (Effect.appendMessage_reports _ _ _ _ _) fun result => ?_
      cases result with
      | error fault => exact (Handler.fail_looks _).reports
      | ok message =>
        exact .bind (report_reports _ _ (by decide)) fun _ => .bind (.nowMillis _) fun _ =>
          (Handler.reply_looks _ _).reports
    · exact (Handler.fail_looks _).reports

/-! ### Routes -/

/-- What a route does reads no log: two routes by the lemmas above, and all others as they only
    look. -/
theorem dispatch_reports (route : Route) (action : Action) (request : Request) :
    (server.dispatch route action request).Reports := by
  by_cases hsessions : route = .sessions ∧ action = .write
  · obtain ⟨rfl, rfl⟩ := hsessions
    exact Handler.respond_reports server.createSession_reports
  by_cases hmessages : route = .messages
  · subst hmessages
    exact Handler.respond_reports (server.addMessage_reports request)
  · exact (server.dispatch_looks request hsessions hmessages).reports

/-- **The routes never read the log**, and neither open nor close a request in it. -/
theorem route_reports (request : Request) : (server.route request).Reports := by
  cases h : server.routeOf request with
  | none =>
    rw [route_of_none h]
    exact (ApiError.answer_looks _).reports
  | some found =>
    cases haction : found.action? request.method with
    | none =>
      rw [route_of_no_action h haction]
      exact .pure _
    | some action =>
      rw [route_of_action h haction]
      exact server.dispatch_reports found action request

/-- Nor do the answers to other origins, around the routes. -/
theorem around_route_reports (request : Request) :
    (Cors.around server.policy server.route request).Reports := by
  unfold Cors.around
  split
  · exact .pure _
  · exact .bind (server.route_reports request) fun _ => .pure _

end Server

end DialogStub
