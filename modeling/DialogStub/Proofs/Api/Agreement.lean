import DialogStub.Proofs.Api.Reports
import DialogStub.Proofs.Api.Run

/-!
# Servers that agree

Two servers that cannot be told apart, since they agree in all that requests look at.

* `Supply.AgreesFrom` — supplies that give the same values from some draw on;
* `Effect.SameFrom` — effects that do the same in every world in which so much was drawn;
* `Server.AgreesFrom` — servers that agree in what their handlers look at;
* `Server.dispatch_same`, `Server.handle_same` — one request, on the routes and with all layers;
* `Server.run_same` — all runs of requests;
* `Server.run_withLog`, `Server.run_of_beside` — neither does the log count as it was before, nor
  what was drawn before.

What was drawn in the past is not looked at again. So two servers may differ in these values, and in
a member `timestamp` of the payload that is stamped with the time.
-/

namespace DialogStub

open Http Json

/-! ### Supplies and effects -/

/-- Supplies that give the same values from the `n`th on. -/
def Supply.AgreesFrom (n : Nat) (supply supply' : Supply) : Prop :=
  ∀ m, n ≤ m → supply'.id m = supply.id m ∧ supply'.time m = supply.time m

theorem Supply.AgreesFrom.refl (n : Nat) (supply : Supply) : supply.AgreesFrom n supply :=
  fun _ _ => ⟨rfl, rfl⟩

/-- Effects that do the same in every world in which `n` values were drawn, and do not take a draw
    back. -/
def Effect.SameFrom {α : Type} (n : Nat) (f g : Effect α) : Prop :=
  ∀ w, n ≤ w.drawn → g w = f w ∧ n ≤ (f w).2.drawn

namespace Effect.SameFrom

variable {α β : Type} {n : Nat} {supply supply' : Supply}

/-- An effect does what it does, and takes no draw back if it never reads the log. -/
theorem of_reports {f : Effect α} (h : f.Reports) : f.SameFrom n f :=
  fun w hw => ⟨rfl, Nat.le_trans hw (h.drawn_le w)⟩

/-- So it is with all that only looks. -/
theorem of_looks {f : Effect α} (h : f.Looks) : f.SameFrom n f :=
  of_reports h.reports

/-- What has no effect is the same. -/
theorem pure (a : α) : Effect.SameFrom n (Pure.pure a) (Pure.pure a) :=
  fun _ hw => ⟨rfl, hw⟩

/-- So is a report. -/
theorem report (level : Level) (text : String) (fields : List (String × String)) :
    (Effect.report level text fields).SameFrom n (Effect.report level text fields) :=
  fun _ hw => ⟨rfl, hw⟩

/-- So is a look at the store, which is part of the world. -/
theorem ofStore (f : Store → α) : (Effect.ofStore f).SameFrom n (Effect.ofStore f) :=
  fun _ hw => ⟨rfl, hw⟩

/-- One effect after another. The second begins where the first has ended. -/
theorem bind {f f' : Effect α} {g g' : α → Effect β} (hf : f.SameFrom n f')
    (hg : ∀ a, (g a).SameFrom n (g' a)) : Effect.SameFrom n (f >>= g) (f' >>= g') := by
  intro w hw
  obtain ⟨heq, hdrawn⟩ := hf w hw
  rw [Effect.bind_apply, Effect.bind_apply, heq]
  exact hg (f w).1 (f w).2 hdrawn

/-- A draw gives the same value where the supplies agree from it on. -/
theorem draw {values values' : Nat → α} (h : ∀ m, n ≤ m → values' m = values m) :
    (Effect.draw values).SameFrom n (Effect.draw values') := by
  intro w hw
  constructor
  · show (values' w.drawn, _) = (values w.drawn, _)
    rw [h w.drawn hw]
  · exact Nat.le_succ_of_le hw

/-- A fresh id is such a draw. -/
theorem newId (h : supply.AgreesFrom n supply') :
    (Effect.newId supply).SameFrom n (Effect.newId supply') :=
  draw fun m hm => (h m hm).1

/-- So is the time. -/
theorem now (h : supply.AgreesFrom n supply') :
    (Effect.now supply).SameFrom n (Effect.now supply') :=
  draw fun m hm => (h m hm).2

/-- So is the time in milliseconds. -/
theorem nowMillis (h : supply.AgreesFrom n supply') :
    (Effect.nowMillis supply).SameFrom n (Effect.nowMillis supply') :=
  bind (now h) fun _ => pure _

/-- And in seconds. -/
theorem nowSeconds (h : supply.AgreesFrom n supply') :
    (Effect.nowSeconds supply).SameFrom n (Effect.nowSeconds supply') :=
  bind (now h) fun _ => pure _

/-- A new session gets the same id and the same time. -/
theorem createSession (h : supply.AgreesFrom n supply') :
    (Effect.createSession supply).SameFrom n (Effect.createSession supply') :=
  bind (newId h) fun _ => bind (now h) fun _ => bind (fun _ hw => ⟨rfl, hw⟩) fun _ =>
    bind (report _ _ _) fun _ => pure _

/-- So does a new message, if its session is known. -/
theorem appendMessage (h : supply.AgreesFrom n supply') (sessionId content : String)
    (type : MessageType) (intent : Option String) :
    (Effect.appendMessage supply sessionId content type intent).SameFrom n
      (Effect.appendMessage supply' sessionId content type intent) := by
  refine bind (ofStore _) fun found => ?_
  cases found with
  | none => exact pure _
  | some session =>
    refine bind (newId h) fun _ => bind (now h) fun _ => bind (ofStore _) fun result => ?_
    cases result with
    | error fault => exact pure _
    -- The message goes into the same store on both sides.
    | ok store => exact bind (fun _ hw => ⟨rfl, hw⟩) fun _ => bind (report _ _ _) fun _ => pure _

end Effect.SameFrom

/-- A handler is answered in the same way if it does the same. -/
theorem Handler.respond_same {n : Nat} {handler handler' : Handler}
    (h : handler.SameFrom n handler') :
    (Handler.respond handler).SameFrom n (Handler.respond handler') := by
  refine .bind h fun result => ?_
  cases result with
  | ok value => exact .pure _
  | error e => exact .of_looks e.answer_looks

/-! ### Agreement -/

/-- Payloads that are the same once they are stamped, or that cannot be stamped. -/
inductive Json.StampedAlike : Json → Json → Prop where
  | objects {members members' : List (String × Json)}
      (h : ∀ time : Int, insert "timestamp" (.int time) members' =
        insert "timestamp" (.int time) members) : StampedAlike (.obj members) (.obj members')
  | others {j j' : Json} (h : ∀ members, j ≠ .obj members) (h' : ∀ members, j' ≠ .obj members) :
    StampedAlike j j'

/-- A payload is like itself, whether it can be stamped or not. -/
theorem Json.StampedAlike.refl (j : Json) : j.StampedAlike j := by
  by_cases h : ∃ members, j = .obj members
  · obtain ⟨members, rfl⟩ := h
    exact .objects fun _ => rfl
  · exact .others (not_exists.mp h) (not_exists.mp h)

/-- Servers that agree in all that their handlers look at, as long as `n` values were drawn. The
    sessions of the fixtures count for the world in which a server begins only. -/
structure Server.AgreesFrom (n : Nat) (server server' : Server) : Prop where
  supply : server.supply.AgreesFrom n server'.supply
  client : server'.client = server.client
  policy : server'.policy = server.policy
  serviceName : server'.config.serviceName = server.config.serviceName
  enableSwagger : server'.config.enableSwagger = server.config.enableSwagger
  scenarios : server'.fixtures.scenarios = server.fixtures.scenarios
  replies : server'.fixtures.replies = server.fixtures.replies
  services : server'.fixtures.services = server.fixtures.services
  demo : server'.fixtures.demo = server.fixtures.demo
  data : server.fixtures.external.data.StampedAlike server'.fixtures.external.data
  info : server'.fixtures.external.info = server.fixtures.external.info
  users : server'.fixtures.external.users = server.fixtures.external.users
  complexData : server'.fixtures.external.complexData = server.fixtures.external.complexData

namespace Server

variable {n : Nat} {server server' : Server}

/-- A server agrees with itself. -/
theorem AgreesFrom.refl (n : Nat) (server : Server) : server.AgreesFrom n server where
  supply := .refl n server.supply
  client := rfl
  policy := rfl
  serviceName := rfl
  enableSwagger := rfl
  scenarios := rfl
  replies := rfl
  services := rfl
  demo := rfl
  data := .refl _
  info := rfl
  users := rfl
  complexData := rfl

/-- What a server is started with is what it has, with a policy made of its setting for origins. -/
theorem exists_of_start? {config : Config} {fixtures : Fixtures} {platform : Platform}
    {supply : Supply} (h : start? config fixtures platform supply = .ok server) :
    ∃ policy, Cors.Policy.ofSetting? config.corsAllowedOrigins = .ok policy ∧
      server = ⟨config, fixtures, .ofAddress platform config.platformUrl, supply, policy⟩ := by
  unfold start? at h
  split at h
  · cases h
  · rename_i policy hpolicy
    exact ⟨policy, hpolicy, (Except.ok.inj h).symm⟩

/-! ### The chat service -/

/-- The state of the chat service depends on the store, the time, and the name of the service. -/
theorem chatStatus_same (h : server.AgreesFrom n server') :
    server.chatStatus.SameFrom n server'.chatStatus := by
  refine .bind (.ofStore _) fun _ => .bind (.pure _) fun _ => .bind (.ofStore _) fun _ =>
    .bind (.nowMillis h.supply) fun _ => ?_
  rw [h.services]
  exact .pure _

/-- A new session depends on the supply only. -/
theorem createSession_same (h : server.AgreesFrom n server') :
    server.createSession.SameFrom n server'.createSession :=
  .bind (.createSession h.supply) fun _ => .bind (.report _ _ _) fun _ =>
    .bind (.nowMillis h.supply) fun _ => .pure _

/-- The list of sessions depends on the store and the time. -/
theorem listSessions_same (h : server.AgreesFrom n server') :
    server.listSessions.SameFrom n server'.listSessions :=
  .bind (.ofStore _) fun _ => .bind (.nowMillis h.supply) fun _ => .pure _

/-- So does a history. -/
theorem listMessages_same (h : server.AgreesFrom n server') (id : String) :
    (server.listMessages id).SameFrom n (server'.listMessages id) := by
  refine .bind (.ofStore _) fun history => ?_
  cases history with
  | error fault => exact .pure _
  | ok messages => exact .bind (.nowMillis h.supply) fun _ => .pure _

/-- A message depends on what was posted, the store, and the supply. -/
theorem addMessage_same (h : server.AgreesFrom n server') (request : Request) :
    (server.addMessage request).SameFrom n (server'.addMessage request) := by
  unfold addMessage
  split
  · exact .pure _
  · split
    · refine .bind (.appendMessage h.supply _ _ _ _) fun result => ?_
      cases result with
      | error fault => exact .pure _
      | ok message =>
        exact .bind (.report _ _ _) fun _ => .bind (.nowMillis h.supply) fun _ => .pure _
    · exact .pure _

/-- The list of scenarios is that of the fixtures. -/
theorem listScenarios_same (h : server.AgreesFrom n server') :
    server.listScenarios.SameFrom n server'.listScenarios := by
  unfold listScenarios
  rw [h.scenarios]
  exact .bind (.nowMillis h.supply) fun _ => .pure _

/-! ### The other services -/

/-- The state of the service for texts depends on its name and the time. -/
theorem nluStatus_same (h : server.AgreesFrom n server') :
    server.nluStatus.SameFrom n server'.nluStatus := by
  unfold nluStatus
  rw [h.services]
  exact .bind (.nowMillis h.supply) fun _ => .pure _

/-- An analysis depends on the text that was posted and the time. -/
theorem analyzeText_same (h : server.AgreesFrom n server') (request : Request) :
    (server.analyzeText request).SameFrom n (server'.analyzeText request) := by
  unfold analyzeText
  split
  · exact .pure _
  · split
    · exact .pure _
    · exact .bind (.report _ _ _) fun _ => .bind (.nowMillis h.supply) fun _ => .pure _

/-- The state of the bot depends on its name and the time. -/
theorem orchestratorStatus_same (h : server.AgreesFrom n server') :
    server.orchestratorStatus.SameFrom n server'.orchestratorStatus := by
  unfold orchestratorStatus
  rw [h.services]
  exact .bind (.nowMillis h.supply) fun _ => .pure _

/-- The words of the bot are those of the fixtures. -/
theorem processMessage_same (h : server.AgreesFrom n server') (request : Request) :
    (server.processMessage request).SameFrom n (server'.processMessage request) := by
  unfold processMessage
  rw [h.replies]
  split
  · exact .pure _
  · split
    · exact .bind (.report _ _ _) fun _ => .bind (.nowMillis h.supply) fun _ => .pure _
    · exact .pure _

/-! ### The external endpoints -/

/-- A payload that is an object is stamped with the time. -/
theorem getData_of_obj {members : List (String × Json)}
    (h : server.fixtures.external.data = .obj members) :
    server.getData = (do
      let time ← Effect.nowSeconds server.supply
      return .ok (.obj (insert "timestamp" (.int time) members))) := by
  rw [getData, h]

/-- A payload that is no object fails in the same way, whatever it is. -/
theorem getData_of_other (h : ∀ members, server.fixtures.external.data ≠ .obj members) :
    server.getData = (do
      Effect.report .error "converting anyhow error to ServerError::Internal"
        [("error", "external data fixture is not a JSON object")]
      Handler.fail (.ofChain "external data fixture is not a JSON object" [])) := by
  unfold getData
  split
  · rename_i members hdata
    exact absurd hdata (h members)
  · rfl

/-- **The payload** is the same if it is so once it is stamped. -/
theorem getData_same (supply : server.supply.AgreesFrom n server'.supply)
    (data : server.fixtures.external.data.StampedAlike server'.fixtures.external.data) :
    server.getData.SameFrom n server'.getData := by
  generalize hj : server.fixtures.external.data = j at data
  generalize hj' : server'.fixtures.external.data = j' at data
  -- Objects are stamped with the same time, and whatever else there is fails in the same words.
  cases data with
  | objects hstamped =>
    rw [getData_of_obj hj, getData_of_obj hj']
    refine .bind (.nowSeconds supply) fun time => ?_
    rw [hstamped time]
    exact .pure _
  | others hother hother' =>
    subst hj hj'
    rw [getData_of_other hother, getData_of_other hother']
    exact .bind (.report _ _ _) fun _ => .pure _

theorem postData_same (h : server.AgreesFrom n server') (body : Bytes) :
    (server.postData body).SameFrom n (server'.postData body) :=
  .bind (.nowSeconds h.supply) fun _ => .pure _

/-- The health depends on the platform and the name of the server. -/
theorem getHealth_same (h : server.AgreesFrom n server') :
    server.getHealth.SameFrom n server'.getHealth := by
  unfold getHealth
  rw [h.client, h.serviceName]
  exact .of_looks server.getHealth_looks

/-- How a conversation begins depends on the platform. -/
theorem chatStart_same (h : server.AgreesFrom n server') :
    server.chatStart.SameFrom n server'.chatStart := by
  unfold chatStart
  -- The client is the platform with its address, and the handler looks at nothing else.
  rw [h.client]
  exact .of_looks server.chatStart_looks

/-- So does the answer to a message. -/
theorem chatMessage_same (h : server.AgreesFrom n server') (request : Request) :
    (server.chatMessage request).SameFrom n (server'.chatMessage request) := by
  unfold chatMessage
  rw [h.client]
  exact .of_looks (server.chatMessage_looks request)

/-! ### The demo -/

/-- So does what becomes of an announcement. -/
theorem skipAnnouncement_same (h : server.AgreesFrom n server') (id : String) :
    (server.skipAnnouncement id).SameFrom n (server'.skipAnnouncement id) := by
  unfold skipAnnouncement
  rw [h.client]
  exact .of_looks (server.skipAnnouncement_looks id)

/-- The turns of a demo depend on the platform and the time. -/
theorem demoTurns_same (h : server.AgreesFrom n server') (id : String) (messages : List String) :
    (server.demoTurns id messages).SameFrom n (server'.demoTurns id messages) := by
  induction messages with
  | nil => exact .pure _
  | cons message rest ih =>
    unfold demoTurns
    rw [h.client]
    refine .bind (.of_looks (server.client.post_looks _ _ _)) fun result => ?_
    -- The platform took the message, refused it, or did not answer.
    split
    · refine .bind (.nowSeconds h.supply) fun _ => .bind ih fun result => ?_
      split <;> exact .pure _
    · exact .bind (.report _ _ _) fun _ => ih
    · exact .bind (.of_looks (callFailed_looks (.inr rfl) _)) fun _ => .pure _

/-- A demo depends on its script and the platform. -/
theorem playDemo_same (h : server.AgreesFrom n server') (id : String) (nodeType : Option String) :
    (server.playDemo id nodeType).SameFrom n (server'.playDemo id nodeType) := by
  unfold playDemo
  rw [h.demo]
  refine .bind (.report _ _ _) fun _ => ?_
  dsimp only
  -- The messages are sent with an announcement before them, or without one.
  split
  on_goal 1 => refine .bind (skipAnnouncement_same h id) fun _ => ?_
  all_goals
    refine .bind (demoTurns_same h id _) fun result => ?_
    cases result with
    | error e => exact .pure _
    | ok turns => exact .bind (.report _ _ _) fun _ => .pure _

/-- So does one that has to open its session first. -/
theorem chatDemo_same (h : server.AgreesFrom n server') :
    server.chatDemo.SameFrom n server'.chatDemo := by
  unfold chatDemo
  rw [h.client]
  refine .bind (.of_looks (server.client.post_looks _ _ _)) fun result => ?_
  cases result with
  | error e => exact .bind (.of_looks (callFailed_looks (.inl rfl) _)) fun _ => .pure _
  | ok started =>
    simp only
    split
    · exact playDemo_same h _ _
    · exact .bind (.report _ _ _) fun _ => .pure _

/-! ### Routes -/

/-- The segment of a path is read without the server. -/
theorem withSessionId_same {next next' : String → Handler} (segment : List Char)
    (h : ∀ id, (next id).SameFrom n (next' id)) :
    (withSessionId segment next).SameFrom n (withSessionId segment next') := by
  unfold withSessionId
  split
  · exact Handler.respond_same (h _)
  · exact .pure _

/-- So is a body that is taken as it is. -/
theorem withBody_same {next next' : Bytes → Handler} (request : Request)
    (h : ∀ body, (next body).SameFrom n (next' body)) :
    (withBody request next).SameFrom n (withBody request next') := by
  unfold withBody
  split
  · exact Handler.respond_same (h _)
  · exact .pure _

/-- **A route** does the same for servers that agree. -/
theorem dispatch_same (h : server.AgreesFrom n server') (route : Route) (action : Action)
    (request : Request) :
    (server.dispatch route action request).SameFrom n (server'.dispatch route action request) := by
  -- Three of the payloads are shown as they are.
  have hpayload {payload payload' : Json} (heq : payload' = payload) :
      Effect.SameFrom n (pure (Response.json 200 payload)) (pure (Response.json 200 payload')) := by
    rw [heq]
    exact .pure _
  cases route with
  | health => exact Handler.respond_same (getHealth_same h)
  | data =>
    cases action with
    | read => exact Handler.respond_same (getData_same h.supply h.data)
    | write => exact withBody_same request (postData_same h)
  | info => exact hpayload h.info
  | users => exact hpayload h.users
  | complexData => exact hpayload h.complexData
  | chatStart => exact Handler.respond_same (chatStart_same h)
  | chatMessage => exact Handler.respond_same (chatMessage_same h request)
  | chatDemo => exact Handler.respond_same (chatDemo_same h)
  | chatStatus => exact Handler.respond_same (chatStatus_same h)
  | sessions =>
    cases action with
    | read => exact Handler.respond_same (listSessions_same h)
    | write => exact Handler.respond_same (createSession_same h)
  | sessionMessages segment => exact withSessionId_same segment (listMessages_same h)
  | messages => exact Handler.respond_same (addMessage_same h request)
  | scenarios => exact Handler.respond_same (listScenarios_same h)
  | nluStatus => exact Handler.respond_same (nluStatus_same h)
  | nluAnalyze => exact Handler.respond_same (analyzeText_same h request)
  | orchestratorStatus => exact Handler.respond_same (orchestratorStatus_same h)
  | orchestratorProcess => exact Handler.respond_same (processMessage_same h request)
  | session | dialogs | document | pages | page =>
    -- Nothing of the server is looked at.
    exact .of_reports (server.dispatch_reports _ action request)

theorem routeOf_same (h : server'.config.enableSwagger = server.config.enableSwagger)
    (request : Request) : server'.routeOf request = server.routeOf request := by
  rw [routeOf, routeOf, h]

/-- **The routes** do the same for every request. -/
theorem route_same (h : server.AgreesFrom n server') (request : Request) :
    (server.route request).SameFrom n (server'.route request) := by
  unfold route
  rw [routeOf_same h.enableSwagger]
  split
  · exact .of_looks (ApiError.answer_looks _)
  · split
    · exact dispatch_same h _ _ request
    · exact .pure _

end Server

/-! ### Layers -/

section Layers

variable {n : Nat} {supply supply' : Supply} {inner inner' : Request → Effect Response}
  {request : Request}

/-- The answers to other origins are the same if the policy is, and the service inside. -/
theorem Http.Cors.around_same (policy : Cors.Policy)
    (h : (inner request).SameFrom n (inner' request)) :
    (Cors.around policy inner request).SameFrom n (Cors.around policy inner' request) := by
  unfold Cors.around
  split
  · exact .pure _
  · exact .bind h fun _ => .pure _

/-- A traced service does the same between the two lines in the log. -/
theorem Http.Trace.exchange_same
    (h : ∀ passed : Request, passed.method = request.method → passed.target = request.target →
      (inner passed).SameFrom n (inner' passed)) (value : Option Bytes) :
    (Trace.exchange value inner request).SameFrom n (Trace.exchange value inner' request) := by
  refine .bind (.of_reports (Trace.logBody_reports (.inl rfl) _ _)) fun result => ?_
  cases result with
  | error fault => exact .bind (.report _ _ _) fun _ => .pure _
  | ok body =>
    -- The service gets the body as it was handed on, with the same target and method.
    refine .bind (h _ rfl rfl) fun response =>
      .bind (.of_reports (Trace.logBody_reports (.inr rfl) _ _)) fun result => ?_
    cases result with
    | ok body => exact .pure _
    | error fault => exact .bind (.report _ _ _) fun _ => .pure _

/-- A traced service does the same if the service inside does, for all requests to the same target
    with the same method. -/
theorem Http.Trace.around_same (hsupply : supply.AgreesFrom n supply')
    (h : ∀ passed : Request, passed.method = request.method → passed.target = request.target →
      (inner passed).SameFrom n (inner' passed)) :
    (Trace.around supply inner request).SameFrom n (Trace.around supply' inner' request) := by
  have hrest (id : String) := Trace.exchange_same h (Trace.valueOf? id)
  unfold Trace.around
  -- The request brings its id with it, or it is given a fresh one.
  split
  · exact .bind (.pure _) fun id => .bind (.report _ _ _) fun _ => .bind (hrest id) fun _ =>
      .bind (.report _ _ _) fun _ => .pure _
  · exact .bind (.newId hsupply) fun id => .bind (.report _ _ _) fun _ => .bind (hrest id) fun _ =>
      .bind (.report _ _ _) fun _ => .pure _

end Layers

namespace Server

variable {n : Nat} {server server' : Server}

/-- A request is handled in the same way if its target is, by servers with the same layers. -/
theorem handle_same_of_route (supply : server.supply.AgreesFrom n server'.supply)
    (policy : server'.policy = server.policy)
    (enableSwagger : server'.config.enableSwagger = server.config.enableSwagger) {request : Request}
    (h : ∀ passed : Request, passed.method = request.method → passed.target = request.target →
      (server.route passed).SameFrom n (server'.route passed)) :
    (server.handle request).SameFrom n (server'.handle request) := by
  unfold handle
  rw [policy]
  refine .bind (Trace.around_same supply fun passed hmethod htarget => ?_) fun response => ?_
  · exact Cors.around_same _ (h passed hmethod htarget)
  · unfold finish
    rw [routeOf_same enableSwagger]
    exact .pure _

/-- **One request** is answered in the same way by servers that agree. -/
theorem handle_same (h : server.AgreesFrom n server') (request : Request) :
    (server.handle request).SameFrom n (server'.handle request) :=
  handle_same_of_route h.supply h.policy h.enableSwagger fun passed _ _ => route_same h passed

/-- **All requests** are, one after the other. By induction on the requests: when each of them is
    answered, at least as much was drawn as before. -/
theorem run_same (h : server.AgreesFrom n server') (requests : List Request) :
    (server.run requests).SameFrom n (server'.run requests) := by
  induction requests with
  | nil => exact .pure _
  | cons request rest ih => exact .bind (handle_same h request) fun _ => .bind ih fun _ => .pure _

/-! ### The log -/

/-- The server never reads its log. -/
theorem handle_onlyReports (server : Server) (request : Request) :
    (server.handle request).OnlyReports fun _ => True := by
  -- Between the two lines the log is only written to.
  have hexchange (value : Option Bytes) := (Trace.exchange_reports (server.around_route_reports ·)
    value request).mono fun _ _ => trivial
  unfold handle Trace.around
  refine .bind ?_ fun _ => .pure _
  split
  · exact .bind (.pure _) fun id => .bind (.report trivial) fun _ => .bind (hexchange _) fun _ =>
      .bind (.report trivial) fun _ => .pure _
  · exact .bind (.newId _) fun id => .bind (.report trivial) fun _ => .bind (hexchange _) fun _ =>
      .bind (.report trivial) fun _ => .pure _

/-- Nor does a run of requests read it. -/
theorem run_onlyReports (server : Server) (requests : List Request) :
    (server.run requests).OnlyReports fun _ => True := by
  induction requests with
  | nil => exact .pure _
  | cons request rest ih =>
    exact .bind (server.handle_onlyReports request) fun _ => .bind ih fun _ => .pure _

/-- **What was in the log before** has no part in the answers, nor in the rest of the world. -/
theorem run_withLog (server : Server) (requests : List Request) (w : World) (log : List Event) :
    ∃ log', server.run requests (w.withLog log) =
      ((server.run requests w).1, (server.run requests w).2.withLog log') := by
  obtain ⟨events, -, hadds⟩ := (server.run_onlyReports requests).adds w
  exact ⟨log ++ events, hadds log⟩

/-! ### What was drawn before -/

/-- **What was drawn before is forgotten.** Between two worlds with the same store and the same
    calls something was drawn and reported. Requests get the answers in the second that they would
    get in the first if as much had been drawn there, from a supply that gave other values up to
    then. -/
theorem run_of_beside {supply : Supply} {w after : World} (h : w.Beside after)
    (hsupply : server.supply.AgreesFrom after.drawn supply) (requests : List Request) :
    let outcome := { server with supply := supply }.run requests { w with drawn := after.drawn }
    ∃ log, server.run requests after = (outcome.1, outcome.2.withLog log) := by
  intro outcome
  -- The worlds differ in what was drawn and in the log, and the other supply has caught up.
  let skipped : World := { w with drawn := after.drawn }
  have hagrees : server.AgreesFrom after.drawn { server with supply := supply } :=
    { AgreesFrom.refl after.drawn server with supply := hsupply }
  have hsame : outcome = server.run requests skipped :=
    (run_same hagrees requests skipped (Nat.le_refl _)).1
  have hafter : after = skipped.withLog after.events := h.eq_withLog
  obtain ⟨log, hlog⟩ := server.run_withLog requests skipped after.events
  refine ⟨log, ?_⟩
  rw [hsame, ← hlog, ← hafter]

end Server

end DialogStub
