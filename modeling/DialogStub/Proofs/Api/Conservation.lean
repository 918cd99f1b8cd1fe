import DialogStub.Proofs.Api.Routing

/-!
# Conservation of messages

What was posted to a session, and answered with 200, is what the session holds, over runs of any
requests.

* `postedTo?` — the record that one exchange posts to a session;
* `Session.Follows` — a session after messages came to it, from the one that it was;
* `Server.Creates` — a request that makes a session;
* `Server.run_conserves` — at the end of a run, every history is the list of the posts to its
  session, and its session follows the one that was seeded or made.

Histories need no fresh ids: a new session never touches them. Sessions need them, since a session
under a known id would take the place of the one before.
-/

namespace DialogStub

open Http

/-! ### Posts -/

/-- The record that a message was posted as. -/
def Message.record (m : Message) : AddMessage :=
  ⟨some m.sessionId, some m.content, m.type, m.intent⟩

/-- The record that was posted to a session and answered with 200. -/
def postedTo? (id : String) (exchange : Request × Response) : Option AddMessage :=
  if exchange.1.PostsMessage ∧ exchange.2.status = 200 then
    match AddMessage.shape.ofBytes exchange.1.body.bytes with
    | .ok body => if body.sessionId = some id then some body else none
    | .error _ => none
  else none

variable {request : Request} {response : Response}

theorem postedTo?_eq_none (id : String) (h : request.PostsMessage → response.status ≠ 200) :
    postedTo? id (request, response) = none := by
  rw [postedTo?, if_neg (fun h' => h h'.1 h'.2)]

/-- A post that is answered with 200 has brought its record, for one session. -/
theorem postedTo?_of_record {body : AddMessage} (id : String) (posts : request.PostsMessage)
    (status_eq : response.status = 200)
    (record_eq : Content.record AddMessage.shape request = .ok body) :
    postedTo? id (request, response) = if body.sessionId = some id then some body else none := by
  rw [postedTo?, if_pos ⟨posts, status_eq⟩, Content.ofBytes_of_record record_eq]

/-- The record of a message says what the body said that it is made of. -/
theorem record_message {supply : Supply} {n : Nat} {body : AddMessage} {id content : String}
    (id_eq : present body.sessionId = some id) (content_eq : present body.content = some content) :
    (supply.message n id content body.type body.intent).record = body := by
  rw [Message.record, Supply.message]
  dsimp only
  rw [← eq_some_of_present id_eq, ← eq_some_of_present content_eq]

/-- A request for the history of a session, whose id its path spells in percent-encoded form. -/
def Http.Request.AsksForHistory (request : Request) (id : String) : Prop :=
  request.method = .get ∧ ∃ segment, '/' ∉ segment ∧ Content.sessionId segment = .ok id ∧
    request.target.path = String.ofList (Route.sessionPath ++ segment ++ Route.messagesPath)

/-! ### Sessions that follow others -/

/-- A session after messages came to it, from the one that it was. -/
structure Session.Follows (origin : Session) (messages : List Message) (s : Session) : Prop where
  id_eq : s.id = origin.id
  status_eq : s.status = origin.status
  startTime_eq : s.startTime = origin.startTime
  userId_eq : s.userId = origin.userId
  scenarioId_eq : s.scenarioId = origin.scenarioId
  messageCount_eq : s.messageCount = origin.messageCount + messages.length
  lastMessage_eq :
    s.lastMessage = (messages.getLast?.map Message.content).getD origin.lastMessage

namespace Session.Follows

theorem refl (s : Session) : s.Follows [] s := ⟨rfl, rfl, rfl, rfl, rfl, rfl, rfl⟩

theorem addMessage (s : Session) (m : Message) : s.Follows [m] (s.addMessage m.content) :=
  ⟨rfl, rfl, rfl, rfl, rfl, rfl, rfl⟩

/-- What follows from a later session follows from the first. -/
theorem trans {a b c : Session} {first second : List Message} (h : a.Follows first b)
    (h' : b.Follows second c) : a.Follows (first ++ second) c where
  id_eq := h'.id_eq.trans h.id_eq
  status_eq := h'.status_eq.trans h.status_eq
  startTime_eq := h'.startTime_eq.trans h.startTime_eq
  userId_eq := h'.userId_eq.trans h.userId_eq
  scenarioId_eq := h'.scenarioId_eq.trans h.scenarioId_eq
  messageCount_eq := by
    rw [h'.messageCount_eq, h.messageCount_eq, List.length_append, Nat.add_assoc]
  lastMessage_eq := by
    rw [h'.lastMessage_eq, h.lastMessage_eq, List.getLast?_append]
    cases second.getLast? <;> rfl

end Session.Follows

namespace Server

variable {server : Server} {w w' : World}

/-! ### One request -/

/-- **One history.** A request adds to every history what it posts to its session. -/
theorem Step.historyOf (step : server.Step request w response w') (id : String) :
    ∃ new, w'.store.historyOf id = w.store.historyOf id ++ new ∧
      new.map Message.record = (postedTo? id (request, response)).toList := by
  cases step with
  | quiet onward unread refused =>
    refine ⟨[], ?_, ?_⟩
    · rw [onward.store_eq, List.append_nil]
    · rw [postedTo?_eq_none id refused]
      rfl
  | created n time asks readable drawn_le lt_drawn status_eq bytes_eq store_eq =>
    refine ⟨[], ?_, ?_⟩
    · rw [store_eq, Store.historyOf_upsert, List.append_nil]
    · rw [postedTo?_eq_none id (fun posts => absurd posts asks.not_postsMessage)]
      rfl
  | appended n time body id' content posts drawn_le lt_drawn status_eq bytes_eq record_eq id_eq
      content_eq append_eq =>
    rw [Store.historyOf_append append_eq, postedTo?_of_record id posts status_eq record_eq,
      eq_some_of_present id_eq]
    -- The message goes to the session that it names, and to no other.
    by_cases heq : id = id'
    · subst heq
      refine ⟨[server.supply.message n id content body.type body.intent], ?_, ?_⟩
      · rw [if_pos (server.supply.message_sessionId ..).symm]
      · rw [if_pos rfl, List.map_singleton, record_message id_eq content_eq]
        rfl
    · refine ⟨[], ?_, ?_⟩
      · rw [Supply.message_sessionId, if_neg heq, List.append_nil]
      · rw [if_neg (fun h => heq (Option.some.inj h).symm)]
        rfl

/-- A request that makes a session: it is answered with 200, and the session, of which nothing was
    known, is there, fresh and without messages. -/
structure Creates (server : Server) (w : World) (request : Request) (s : Session) : Prop where
  asks : request.AsksForSession
  status_eq : (server.handle request w).1.status = 200
  unknown : w.store.get? s.id = none
  known : (server.handle request w).2.store.get? s.id = some s
  fresh : s = .fresh s.id s.startTime
  told : ∃ time, (server.handle request w).1.body.bytes =
    (SessionCreated.shape.toJson ⟨s.id, "created", time⟩).print

/-- **One session.** A session that is there after a request has followed one that was there before
    it, with what came to its history, or is made by this request. -/
theorem Step.session_follows (h : w.store.Sound) (fresh : w.Fresh server.supply)
    (request : Request) {id : String} {s : Session}
    (hs : (server.handle request w).2.store.get? id = some s) :
    (∃ origin new, w.store.get? id = some origin ∧
      (server.handle request w).2.store.historyOf id = w.store.historyOf id ++ new ∧
      origin.Follows new s) ∨
    (server.Creates w request s ∧ (server.handle request w).2.store.historyOf id = []) := by
  have hstep := server.handle_step request w
  have hstore : ∀ store, (server.handle request w).2.store = store → store.get? id = some s :=
    fun store heq => heq ▸ hs
  rcases hstep with ⟨onward, -, -⟩ |
    ⟨n, time, asks, -, drawn_le, -, status_eq, bytes_eq, store_eq⟩ |
    ⟨n, time, body, id', content, -, -, -, -, -, -, -, -, append_eq⟩
  · refine .inl ⟨s, [], hstore _ onward.store_eq, ?_, .refl s⟩
    rw [onward.store_eq, List.append_nil]
  · have hnew := hstore _ store_eq
    rw [h.get?_upsert] at hnew
    -- The session is the new one, or has nothing to do with it.
    by_cases heq : id = (server.supply.session n).id
    · rw [if_pos heq] at hnew
      have hsession := Option.some.inj hnew
      subst hsession heq
      refine .inr ⟨⟨asks, status_eq, fresh n drawn_le, hs, rfl, time, bytes_eq⟩, ?_⟩
      rw [store_eq, Store.historyOf_upsert]
      exact h.historyOf_eq_nil (fresh n drawn_le)
    · rw [if_neg heq] at hnew
      refine .inl ⟨s, [], hnew, ?_, .refl s⟩
      rw [store_eq, Store.historyOf_upsert, List.append_nil]
  · rw [h.get?_append append_eq] at hs
    rw [Store.historyOf_append append_eq]
    -- The session is the one that the message names, or has nothing to do with it.
    by_cases heq : id = (server.supply.message n id' content body.type body.intent).sessionId
    · rw [if_pos heq] at hs
      obtain ⟨origin, horigin, rfl⟩ := Option.map_eq_some_iff.mp hs
      exact .inl ⟨origin, _, horigin, if_pos heq, .addMessage origin _⟩
    · rw [if_neg heq] at hs
      refine .inl ⟨s, [], hs, ?_, .refl s⟩
      rw [if_neg heq, List.append_nil]

/-- A request adds ids at the end only. -/
theorem Step.ids_prefix (h : w.store.Sound) (fresh : w.Fresh server.supply)
    (step : server.Step request w response w') : w.store.ids <+: w'.store.ids := by
  cases step with
  | quiet onward => exact onward.store_eq ▸ List.prefix_refl _
  | created n time asks readable drawn_le _ _ _ store_eq =>
    rw [store_eq, h.ids_upsert_new (fresh n drawn_le)]
    exact List.prefix_append _ _
  | appended _ _ _ _ _ _ _ _ _ _ _ _ _ append_eq =>
    exact h.ids_append append_eq ▸ List.prefix_refl _

/-! ### Runs -/

/-- **All histories.** A run adds to every history what it posts to its session. -/
theorem run_historyOf (requests : List Request) (id : String) (w : World) :
    ∃ new, (server.run requests w).2.store.historyOf id = w.store.historyOf id ++ new ∧
      new.map Message.record = (server.run requests w).1.filterMap (postedTo? id) := by
  induction requests generalizing w with
  | nil => exact ⟨[], (List.append_nil _).symm, rfl⟩
  | cons request rest ih =>
    obtain ⟨first, hfirst, hposted⟩ := (server.handle_step request w).historyOf id
    obtain ⟨later, hlater, hrest⟩ := ih (server.handle request w).2
    refine ⟨first ++ later, ?_, ?_⟩
    · rw [run_cons, hlater, hfirst, List.append_assoc]
    · rw [run_cons, List.map_append, hposted, hrest]
      -- The first exchange is in the list of the posts if it is one of them.
      cases h : postedTo? id (request, (server.handle request w).1) with
      | none => rw [List.filterMap_cons_none h]; rfl
      | some body => rw [List.filterMap_cons_some h]; rfl

/-- **All sessions.** A session that is there after a run has followed one that was there before it,
    or one that was made on the way. -/
theorem Reachable.run_follows (new : server.supply.New server.fixtures.sessions)
    (requests : List Request) (h : server.Reachable w) {id : String} {s : Session}
    (hs : (server.run requests w).2.store.get? id = some s) :
    (∃ origin messages, w.store.get? id = some origin ∧
      (server.run requests w).2.store.historyOf id = w.store.historyOf id ++ messages ∧
      origin.Follows messages s) ∨
    ∃ before request after origin, requests = before ++ request :: after ∧
      server.Creates (server.run before w).2 request origin ∧
      origin.Follows ((server.run requests w).2.store.historyOf id) s := by
  induction requests generalizing w with
  | nil => exact .inl ⟨s, [], hs, (List.append_nil _).symm, .refl s⟩
  | cons request rest ih =>
    rw [run_cons] at hs ⊢
    -- The rest of the run leads back to a session behind the first request, or to one that is
    -- made later; in the first case this request leads further back.
    rcases ih (h.step request) hs with ⟨middle, later, hmiddle, hlater, hfollows⟩ |
      ⟨before, made, after, origin, rfl, hcreates, hfollows⟩
    · rcases Step.session_follows h.sound (h.fresh new) request hmiddle with
        ⟨origin, first, horigin, hfirst, hfollows'⟩ | ⟨hcreates, hempty⟩
      · refine .inl ⟨origin, first ++ later, horigin, ?_, hfollows'.trans hfollows⟩
        rw [hlater, hfirst, List.append_assoc]
      · refine .inr ⟨[], request, rest, middle, rfl, hcreates, ?_⟩
        rw [hlater, hempty]
        exact hfollows
    · exact .inr ⟨request :: before, made, after, origin, rfl, hcreates, hfollows⟩

/-- Ids are added at the end, over any run. -/
theorem Reachable.ids_prefix_run (new : server.supply.New server.fixtures.sessions)
    (requests : List Request) (h : server.Reachable w) :
    w.store.ids <+: (server.run requests w).2.store.ids := by
  induction requests generalizing w with
  | nil => exact List.prefix_refl _
  | cons request rest ih =>
    exact (Step.ids_prefix h.sound (h.fresh new) (server.handle_step request w)).trans
      (ih (h.step request))

/-! ### What is shown of a history -/

/-- The messages of a session are shown with their number. -/
theorem listMessages_respond (server : Server) {messages : List Message} {id : String}
    (h : w.store.history id = .ok messages) :
    ∃ time, (Handler.respond (server.listMessages id) w).1 =
      .json 200 (SessionMessages.shape.toJson ⟨id, messages, messages.length, time⟩) := by
  have hstore : Effect.ofStore (·.history id) w = (.ok messages, w) := by
    rw [← h]
    rfl
  rw [Handler.respond, Effect.bind_apply, listMessages, Effect.bind_apply, hstore]
  exact ⟨_, rfl⟩

/-- A request for a history is answered with it. -/
theorem handle_history (server : Server) {messages : List Message} {id : String}
    (asks : request.AsksForHistory id)
    (readable : Trace.isReadable request.headers request.body = true)
    (h : w.store.history id = .ok messages) :
    (server.handle request w).1.status = 200 ∧
      ∃ time, (server.handle request w).1.body.bytes =
        (SessionMessages.shape.toJson ⟨id, messages, messages.length, time⟩).print := by
  obtain ⟨hget, segment, hsegment, hid, hpath⟩ := asks
  obtain ⟨passed, w₁, hsame, hw₁, hstatus, hbytes, -⟩ :=
    server.exists_passes readable (by simp [hget]) w
  -- The request comes to the handler of histories, with the id that its path spells.
  have goes : request.GoesTo (.sessionMessages segment) .read :=
    ⟨⟨hsegment, hpath⟩, .inl hget, rfl⟩
  have hroute : server.route passed = (server.listMessages id).respond := by
    rw [route_of_goesTo (goes.of_same hsame), dispatch, withSessionId, hid]
  rw [← hw₁.store_eq] at h
  obtain ⟨time, hrespond⟩ := server.listMessages_respond h
  rw [hroute, hrespond] at hstatus hbytes
  exact ⟨hstatus, time, (hbytes (by simp [hget])).trans (Body.bytes_full _)⟩

/-! ### From the start -/

theorem initial_historyOf (server : Server) (id : String) :
    server.initial.store.historyOf id = [] :=
  Store.historyOf_seeded _ id

/-- **Messages are conserved.** At the end of any run, the history of each session is the list of
    the posts to it that were answered with 200, as they were posted and in their order, and this is
    what `GET` shows; the session follows, with this history, the one that was seeded or that a
    request of the run made; and the ids have only grown at their end. -/
theorem run_conserves (new : server.supply.New server.fixtures.sessions)
    (requests : List Request) :
    let log := (server.run requests server.initial).1
    let w := (server.run requests server.initial).2
    (∀ s ∈ w.store.sessions, ∃ origin history,
      w.store.history s.id = .ok history ∧
      (∀ request : Request, request.AsksForHistory s.id →
        Trace.isReadable request.headers request.body = true →
        (server.handle request w).1.status = 200 ∧
          ∃ time, (server.handle request w).1.body.bytes =
            (SessionMessages.shape.toJson ⟨s.id, history, history.length, time⟩).print) ∧
      history.map Message.record = log.filterMap (postedTo? s.id) ∧
      origin.Follows history s ∧
      (server.initial.store.get? s.id = some origin ∨
        ∃ before request after, requests = before ++ request :: after ∧
          server.Creates (server.run before server.initial).2 request origin)) ∧
    w.store.ids.Nodup ∧
    ∀ before after, requests = before ++ after →
      (server.run before server.initial).2.store.ids <+: w.store.ids := by
  dsimp only
  have hsound : (server.run requests server.initial).2.store.Sound :=
    (Reachable.initial.run requests).sound
  refine ⟨fun s hs => ?_, hsound.nodup_ids, ?_⟩
  · have hget := hsound.get?_eq_some_iff.mpr ⟨hs, rfl⟩
    have hhistory := hsound.history_of_get? hget
    obtain ⟨history, heq, hposted⟩ := server.run_historyOf requests s.id server.initial
    -- No seed has a history, so that all of it was posted in the run.
    rw [initial_historyOf, List.nil_append] at heq
    rw [heq] at hhistory
    have hshown (request : Request) (asks : request.AsksForHistory s.id) readable :=
      server.handle_history asks readable hhistory
    rcases Reachable.initial.run_follows new requests hget with
      ⟨origin, messages, horigin, hmessages, hfollows⟩ |
      ⟨before, request, after, origin, hsplit, hcreates, hfollows⟩
    · rw [initial_historyOf, List.nil_append, heq] at hmessages
      subst hmessages
      exact ⟨origin, history, hhistory, hshown, hposted, hfollows, .inl horigin⟩
    · rw [heq] at hfollows
      exact ⟨origin, history, hhistory, hshown, hposted, hfollows,
        .inr ⟨before, request, after, hsplit, hcreates⟩⟩
  · rintro before after rfl
    rw [run_append]
    exact (Reachable.initial.run before).ids_prefix_run new after

/-- A new session, a post to a seed, and a post to nobody. -/
theorem run_conserves_sample :
    let result := sample.run [⟨.post, ⟨"/api/v1/chat/sessions"⟩, [], .empty⟩, samplePost,
      { samplePost with body := .full (Utf8.bytes "\x7b\"content\":\"hi\"\x7d") }] sample.initial
    sample.supply.New sample.fixtures.sessions ∧
      result.1.map (fun exchange => exchange.2.status) = [200, 200, 400] ∧
      result.2.store.sessions.map Session.messageCount = [4, 0] ∧
      ∀ s ∈ result.2.store.sessions, ∃ history, result.2.store.history s.id = .ok history ∧
        history.map Message.record = result.1.filterMap (postedTo? s.id) := by
  dsimp only
  refine ⟨sample_new, by decide +kernel, by decide +kernel, fun s hs => ?_⟩
  obtain ⟨origin, history, hhistory, -, hposted, -⟩ := (run_conserves sample_new _).1 s hs
  exact ⟨history, hhistory, hposted⟩

end Server

end DialogStub
