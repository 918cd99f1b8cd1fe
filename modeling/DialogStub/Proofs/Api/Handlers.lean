import DialogStub.Api.Service
import DialogStub.Proofs.Api.Looks

/-!
# Handlers that only look

All handlers but two only look at the store. Each lemma here is about one of them, and goes through
its text: an effect only looks if its parts do. `Server.dispatch_looks` is about all routes but the
two that make a session and add a message.
-/

namespace DialogStub

open Effect

/-! ### Ends of handlers -/

theorem Handler.reply_looks {α : Type} (shape : Json.Shape α) (record : α) :
    (Handler.reply shape record).Looks :=
  .pure _

theorem Handler.fail_looks (e : ApiError) : (Handler.fail e).Looks :=
  .pure _

/-- The answer for an error is reported if the fault lies inside, and not otherwise. -/
theorem ApiError.answer_looks (e : ApiError) : e.answer.Looks := by
  cases e with
  | internal m => exact .bind (.report _ _ (by decide)) (fun _ => .pure _)
  | badRequest m => exact .pure _
  | notFound m => exact .pure _
  | platform m => exact .pure _

/-- The answer of a handler is that for its value or its error. -/
theorem Handler.respond_looks {handler : Handler} (h : handler.Looks) :
    (Handler.respond handler).Looks := by
  refine .bind h (fun result => ?_)
  cases result with
  | ok value => exact .pure _
  | error e => exact e.answer_looks

/-- An error has one of three statuses. -/
theorem ApiError.status_cases (e : ApiError) :
    e.status = 400 ∨ e.status = 404 ∨ e.status = 500 := by
  cases e with
  | badRequest m => exact .inl rfl
  | notFound m => exact .inr (.inl rfl)
  | platform m => exact .inr (.inr rfl)
  | internal m => exact .inr (.inr rfl)

/-- The answer for an error goes out, with a line in the log at most. -/
theorem ApiError.answer_eq (e : ApiError) (w : World) :
    ∃ w', e.answer w = (e.response, w') ∧ w.Beside w' := by
  cases e with
  | internal m => exact ⟨_, rfl, .report _ _ _ w⟩
  | badRequest m => exact ⟨w, rfl, .refl w⟩
  | notFound m => exact ⟨w, rfl, .refl w⟩
  | platform m => exact ⟨w, rfl, .refl w⟩

/-- A value goes out with 200, in the world that the handler leaves. -/
theorem Handler.respond_of_ok {handler : Handler} {value : Json} {w w' : World}
    (h : handler w = (.ok value, w')) : Handler.respond handler w = (.json 200 value, w') := by
  rw [respond, bind_apply, h]
  rfl

/-- An error goes out as its response, with a line in the log at most. -/
theorem Handler.respond_of_error {handler : Handler} {e : ApiError} {w w' : World}
    (h : handler w = (.error e, w')) :
    ∃ w₂, Handler.respond handler w = (e.response, w₂) ∧ w'.Beside w₂ := by
  rw [respond, bind_apply, h]
  exact e.answer_eq w'

/-! ### Calls to the platform -/

namespace Platform.Client

variable (client : Client)

/-- A post is a call, whose answer is then read without a look at the world. -/
theorem post_looks {α : Type} (shape : Json.Shape α) (path : String) (body : Json) :
    (client.post shape path body).Looks := by
  unfold post
  refine .bind (.send _ _ _ _) (fun result => ?_)
  split
  · exact .pure _
  · split
    · -- The body is read for 200 only, and may then be no record.
      split <;> exact .pure _
    · exact .pure _

/-- A probe is a call as well, reported only if there is no answer. -/
theorem isAvailable_looks : client.isAvailable.Looks := by
  unfold isAvailable
  refine .bind (.send _ _ _ _) (fun result => ?_)
  split
  · exact .pure _
  · exact .bind (.report _ _ (by decide)) (fun _ => .pure _)

end Platform.Client

namespace Server

variable (server : Server)

/-! ### The chat service -/

theorem chatStatus_looks : server.chatStatus.Looks :=
  .bind (.ofStore _) fun _ => .bind (.pure _) fun _ => .bind (.ofStore _) fun _ =>
    .bind (.nowMillis _) fun _ => Handler.reply_looks _ _

/-- The list of sessions is one look at the store. -/
theorem listSessions_looks : server.listSessions.Looks :=
  .bind (.ofStore _) fun _ => .bind (.nowMillis _) fun _ => Handler.reply_looks _ _

/-- So is a single session. -/
theorem getSession_looks (id : String) : (getSession id).Looks := by
  refine .bind (.ofStore _) (fun found => ?_)
  cases found with
  | none => exact Handler.fail_looks _
  | some session => exact Handler.reply_looks _ _

/-- So is the history of a session. -/
theorem listMessages_looks (id : String) : (server.listMessages id).Looks := by
  refine .bind (.ofStore _) (fun history => ?_)
  cases history with
  | error fault => exact Handler.fail_looks _
  | ok messages => exact .bind (.nowMillis _) (fun _ => Handler.reply_looks _ _)

theorem listDialogs_looks : listDialogs.Looks :=
  .bind (.ofStore _) fun _ => Handler.reply_looks _ _

theorem listScenarios_looks : server.listScenarios.Looks :=
  .bind (.nowMillis _) fun _ => Handler.reply_looks _ _

/-! ### The other services -/

theorem nluStatus_looks : server.nluStatus.Looks :=
  .bind (.nowMillis _) fun _ => Handler.reply_looks _ _

/-- An analysis looks at the text that was posted and at nothing else. -/
theorem analyzeText_looks (request : Http.Request) :
    (server.analyzeText request).Looks := by
  unfold analyzeText
  -- A body without a record is rejected, and so is one without a text.
  split
  · exact Handler.fail_looks _
  · split
    · exact Handler.fail_looks _
    · exact .bind (.report _ _ (by decide)) fun _ => .bind (.nowMillis _) fun _ =>
        Handler.reply_looks _ _

theorem orchestratorStatus_looks : server.orchestratorStatus.Looks :=
  .bind (.nowMillis _) fun _ => Handler.reply_looks _ _

/-- The bot answers by what was posted and does not look at the session. -/
theorem processMessage_looks (request : Http.Request) :
    (server.processMessage request).Looks := by
  unfold processMessage
  split
  · exact Handler.fail_looks _
  · split
    · exact .bind (.report _ _ (by decide)) fun _ => .bind (.nowMillis _) fun _ =>
        Handler.reply_looks _ _
    · exact Handler.fail_looks _

/-! ### The external endpoints -/

/-- The payload is stamped, or its failure is reported. -/
theorem getData_looks : server.getData.Looks := by
  unfold getData
  -- Only objects can be stamped.
  split
  · exact .bind (.nowSeconds _) (fun _ => .pure _)
  · exact .bind (.report _ _ (by decide)) (fun _ => Handler.fail_looks _)

theorem postData_looks (body : Bytes) : (server.postData body).Looks :=
  .bind (.nowSeconds _) fun _ => Handler.reply_looks _ _

theorem getHealth_looks : server.getHealth.Looks :=
  .bind server.client.isAvailable_looks fun _ => Handler.reply_looks _ _

/-- A failed call is reported in words of its own. -/
theorem callFailed_looks {what : String} (h : what = noSession ∨ what = notSent)
    (e : PlatformError) : (callFailed what e).Looks := by
  refine .bind (.report _ _ ?_) fun _ => .pure _
  rcases h with rfl | rfl <;> decide

/-- A conversation begins with a post to the platform. -/
theorem chatStart_looks : server.chatStart.Looks := by
  refine .bind (server.client.post_looks _ _ _) (fun result => ?_)
  cases result with
  | error e => exact .bind (callFailed_looks (.inl rfl) _) (fun _ => .pure _)
  | ok started => exact .bind (.report _ _ (by decide)) (fun _ => Handler.reply_looks _ _)

/-- A message is passed on with a post, if there is anything to pass on. -/
theorem chatMessage_looks (request : Http.Request) :
    (server.chatMessage request).Looks := by
  unfold chatMessage
  split
  · exact Handler.fail_looks _
  · split
    · refine .bind (server.client.post_looks _ _ _) (fun result => ?_)
      cases result with
      | error e => exact .bind (callFailed_looks (.inr rfl) _) (fun _ => .pure _)
      | ok turn => exact .bind (.report _ _ (by decide)) (fun _ => Handler.reply_looks _ _)
    · exact Handler.fail_looks _

/-! ### The demo -/

/-- An announcement is skipped with a post, and how that goes is only reported. -/
theorem skipAnnouncement_looks (id : String) :
    (server.skipAnnouncement id).Looks := by
  refine .bind (server.client.post_looks _ _ _) (fun result => ?_)
  cases result with
  | ok turn => exact .report _ _ (by decide)
  | error e => exact .report _ _ (by decide)

/-- The demo posts its messages, one after the other. -/
theorem demoTurns_looks (id : String) (messages : List String) :
    (server.demoTurns id messages).Looks := by
  induction messages with
  | nil => exact .pure _
  | cons message rest ih =>
    unfold demoTurns
    refine .bind (server.client.post_looks _ _ _) (fun result => ?_)
    -- The platform took the message, refused it, or did not answer.
    split
    · refine .bind (.nowSeconds _) (fun _ => .bind ih (fun result => ?_))
      split <;> exact .pure _
    · exact .bind (.report _ _ (by decide)) (fun _ => ih)
    · exact .bind (callFailed_looks (.inr rfl) _) (fun _ => .pure _)

/-- A demo is its messages, with reports around them. -/
theorem playDemo_looks (id : String) (nodeType : Option String) :
    (server.playDemo id nodeType).Looks := by
  unfold playDemo
  refine .bind (.report _ _ (by decide)) (fun _ => ?_)
  dsimp only
  -- The messages are sent with an announcement before them, or without one.
  split
  on_goal 1 => refine .bind (server.skipAnnouncement_looks id) (fun _ => ?_)
  all_goals
    refine .bind (server.demoTurns_looks id _) (fun result => ?_)
    cases result with
    | error e => exact Handler.fail_looks _
    | ok turns => exact .bind (.report _ _ (by decide)) (fun _ => Handler.reply_looks _ _)

/-- A demo begins with a post for its session, without which it does not go on. -/
theorem chatDemo_looks : server.chatDemo.Looks := by
  refine .bind (server.client.post_looks _ _ _) (fun result => ?_)
  cases result with
  | error e => exact .bind (callFailed_looks (.inl rfl) _) (fun _ => .pure _)
  | ok started =>
    simp only
    split
    · exact server.playDemo_looks _ _
    · exact .bind (.report _ _ (by decide)) (fun _ => Handler.fail_looks _)

/-! ### Routes -/

/-- The segment of a path is an id, or is answered at once. -/
theorem withSessionId_looks {next : String → Handler} (segment : List Char)
    (h : ∀ id, (next id).Looks) : (withSessionId segment next).Looks := by
  unfold withSessionId
  split
  · exact Handler.respond_looks (h _)
  · exact .pure _

/-- So is a body that is taken as it is. -/
theorem withBody_looks {next : Bytes → Handler} (request : Http.Request)
    (h : ∀ body, (next body).Looks) : (withBody request next).Looks := by
  unfold withBody
  split
  · exact Handler.respond_looks (h _)
  · exact .pure _

/-- **The routes that only look**: all of them, but for the one that makes sessions and the one that
    adds messages. -/
theorem dispatch_looks {route : Route} {action : Action} (request : Http.Request)
    (hsessions : ¬(route = .sessions ∧ action = .write)) (hmessages : route ≠ .messages) :
    (server.dispatch route action request).Looks := by
  cases route with
  | health => exact Handler.respond_looks server.getHealth_looks
  | data =>
    cases action with
    | read => exact Handler.respond_looks server.getData_looks
    | write => exact withBody_looks request server.postData_looks
  | info | users | complexData => exact .pure _
  | chatStart => exact Handler.respond_looks server.chatStart_looks
  | chatMessage => exact Handler.respond_looks (server.chatMessage_looks request)
  | chatDemo => exact Handler.respond_looks server.chatDemo_looks
  | chatStatus => exact Handler.respond_looks server.chatStatus_looks
  | sessions =>
    cases action with
    | read => exact Handler.respond_looks server.listSessions_looks
    | write => exact absurd ⟨rfl, rfl⟩ hsessions
  | session segment => exact withSessionId_looks segment getSession_looks
  | sessionMessages segment =>
    exact withSessionId_looks segment server.listMessages_looks
  | messages => exact absurd rfl hmessages
  | dialogs => exact Handler.respond_looks listDialogs_looks
  | scenarios => exact Handler.respond_looks server.listScenarios_looks
  | nluStatus => exact Handler.respond_looks server.nluStatus_looks
  | nluAnalyze => exact Handler.respond_looks (server.analyzeText_looks request)
  | orchestratorStatus => exact Handler.respond_looks server.orchestratorStatus_looks
  | orchestratorProcess =>
    exact Handler.respond_looks (server.processMessage_looks request)
  | document | pages | page => exact .pure _

end Server

end DialogStub
