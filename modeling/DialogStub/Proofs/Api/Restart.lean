import DialogStub.Proofs.Api.Conservation
import DialogStub.Proofs.Api.Endpoint
import DialogStub.Proofs.Chat.Seeds
import DialogStub.Proofs.Fixtures.Reload

/-!
# Dump and restart

The sessions and scenarios that a server lists are put into its fixtures document, and another
server is started from this document.

* `Server.shown` — what is answered on the routes that show sessions, their counts or scenarios;
* `Json.AgreesAside` — two bodies that agree but for the time in their envelope;
* `Server.Dumps` — a document with the sessions and scenarios of two answers;
* `Server.restart_shows` — the second server shows what the first one shows, without the messages.

What is shown depends on the sessions of the store and on the fixtures. The ids in a reachable store
differ, so that its sessions, taken as seeds, come back in their order.
-/

namespace DialogStub

open Http Json

/-! ### Answers that show the store -/

/-- A request that is answered with what is shown on a route. -/
structure Http.Request.Views (request : Request) (route : Route) : Prop where
  method_eq : request.method = .get
  isFor : request.IsFor route
  readable : Trace.isReadable request.headers request.body = true

theorem Http.Request.Views.goesTo {request : Request} {route : Route} (views : request.Views route)
    (hread : route.isRead = true) : request.GoesTo route .read :=
  ⟨views.isFor, .inl views.method_eq, hread⟩

/-- The routes that show the sessions, their counts, or the scenarios. -/
def Route.isShown : Route → Bool
  | .sessions | .session _ | .dialogs | .chatStatus | .scenarios => true
  | _ => false

/-- Two bodies that agree, but for the time at the end of an envelope. -/
inductive Json.AgreesAside : Bytes → Bytes → Prop where
  | same (bs : Bytes) : AgreesAside bs bs
  | stamped (members : List (String × Json)) (time time' : Int) :
    AgreesAside (Json.obj (members ++ [("timestamp", .int time)])).print
      (Json.obj (members ++ [("timestamp", .int time')])).print

namespace Server

/-- The answer on a route that shows the store, with the time that its envelope carries. -/
def shown (server : Server) (store : Store) (time : Int) : Route → Response
  | .sessions =>
    .json 200 (SessionList.shape.toJson ⟨store.sessions, store.sessions.length, time⟩)
  | .session segment => match Content.sessionId segment with
    | .error response => response
    | .ok id => match store.get? id with
      | some session => .json 200 (Session.shape.toJson session)
      | none => (ApiError.notFound "Session not found").response
  | .dialogs =>
    .json 200 (DialogList.shape.toJson
      ⟨store.sessions.map DialogSummary.ofSession,
        (store.sessions.map DialogSummary.ofSession).length⟩)
  | .chatStatus =>
    .json 200 (ServiceStatus.shape.toJson
      { ServiceStatus.running server.fixtures.services.chat time with
        activeSessions := some store.active
        totalSessions := some store.total })
  | .scenarios =>
    .json 200 (ScenarioList.shape.toJson
      ⟨server.fixtures.scenarios, server.fixtures.scenarios.length, time⟩)
  | _ => .bare 404

/-- **A view shows** what the route shows of the store at some time. -/
theorem dispatch_shown (server : Server) {route : Route} (h : route.isShown = true)
    (request : Request) (w : World) :
    ∃ time, (server.dispatch route .read request w).1 = server.shown w.store time route := by
  cases route with
  | sessions | chatStatus | scenarios => exact ⟨_, rfl⟩
  | dialogs => exact ⟨0, rfl⟩
  | session segment =>
    refine ⟨0, ?_⟩
    rw [dispatch, withSessionId, shown]
    cases Content.sessionId segment with
    | error response => rfl
    | ok id =>
      dsimp only
      -- The session is looked up once, and it is found or not.
      have hread : Effect.ofStore (·.get? id) w = (w.store.get? id, w) := rfl
      cases hget : w.store.get? id with
      | some session =>
        have hhandler : getSession id w = (.ok (Session.shape.toJson session), w) := by
          rw [getSession, Effect.bind_apply, hread, hget]
          rfl
        rw [Handler.respond_of_ok hhandler]
      | none =>
        have hhandler : getSession id w = (.error (.notFound "Session not found"), w) := by
          rw [getSession, Effect.bind_apply, hread, hget]
          rfl
        obtain ⟨w', heq, -⟩ := Handler.respond_of_error hhandler
        rw [heq]
  | health | data | info | users | complexData | chatStart | chatMessage | chatDemo => cases h
  | sessionMessages | messages | nluStatus | nluAnalyze => cases h
  | orchestratorStatus | orchestratorProcess | document | pages | page => cases h

/-- A request with `GET` for such a route is answered with what is shown on it. -/
theorem handle_shown (server : Server) {request : Request} {route : Route}
    (views : request.Views route) (hshown : route.isShown = true) (w : World) :
    ∃ time, (server.shown w.store time route).Alike (server.handle request w).1 := by
  have hread : route.isRead = true := by
    revert hshown
    cases route <;> simp [Route.isShown, Route.isRead]
  obtain ⟨passed, w₁, -, hw₁, alike, -⟩ :=
    server.exists_dispatch (views.goesTo hread) (.inl views.method_eq) views.readable w
  obtain ⟨time, hanswer⟩ := server.dispatch_shown hshown passed w₁
  rw [hanswer, hw₁.store_eq] at alike
  exact ⟨time, alike⟩

/-- An envelope at two times. -/
theorem stamped_agrees (members : List (String × Json)) (time time' : Int) :
    (Response.json 200 (.obj (members ++ [("timestamp", .int time')]))).status =
        (Response.json 200 (.obj (members ++ [("timestamp", .int time)]))).status ∧
      AgreesAside (Response.json 200 (.obj (members ++ [("timestamp", .int time')]))).body.bytes
        (Response.json 200 (.obj (members ++ [("timestamp", .int time)]))).body.bytes := by
  refine ⟨rfl, ?_⟩
  rw [Response.json, Response.json, Response.withBody, Response.withBody, Body.bytes_full,
    Body.bytes_full]
  exact .stamped members time' time

/-- **Only the time differs.** The same sessions and the same fixtures are shown in the same way. -/
theorem shown_agrees {server server' : Server} {store store' : Store}
    (hscenarios : server'.fixtures.scenarios = server.fixtures.scenarios)
    (hservices : server'.fixtures.services = server.fixtures.services)
    (hsessions : store'.sessions = store.sessions) (hget : ∀ id, store'.get? id = store.get? id)
    (time time' : Int) (route : Route) :
    (server'.shown store' time' route).status = (server.shown store time route).status ∧
      AgreesAside (server'.shown store' time' route).body.bytes
        (server.shown store time route).body.bytes := by
  have hstamped (members : List (String × Json)) := stamped_agrees members time time'
  -- Three of the bodies are envelopes with a time, and the others are the same.
  cases route with
  | sessions =>
    rw [shown, shown, hsessions]
    exact hstamped [("sessions", (Shape.list Session.shape).toJson store.sessions),
      ("total", .int store.sessions.length)]
  | scenarios =>
    rw [shown, shown, hscenarios]
    exact hstamped [("scenarios", (Shape.list Scenario.shape).toJson server.fixtures.scenarios),
      ("count", .int server.fixtures.scenarios.length)]
  | chatStatus =>
    rw [shown, shown, hservices, Store.active, Store.active, Store.total, Store.total, hsessions]
    generalize server.fixtures.services.chat = info
    obtain ⟨service, role, version⟩ := info
    cases version with
    | none =>
      exact hstamped [("service", .str service), ("status", .str "running"), ("role", .str role),
        ("active_sessions", .int (store.sessions.countP Session.isActive)),
        ("total_sessions", .int store.sessions.length)]
    | some version =>
      exact hstamped [("service", .str service), ("status", .str "running"), ("role", .str role),
        ("version", .str version),
        ("active_sessions", .int (store.sessions.countP Session.isActive)),
        ("total_sessions", .int store.sessions.length)]
  | session segment =>
    have hsame : server'.shown store' time' (.session segment) =
        server.shown store time (.session segment) := by
      simp only [shown, hget]
    rw [hsame]
    exact ⟨rfl, .same _⟩
  | dialogs =>
    rw [shown, shown, hsessions]
    exact ⟨rfl, .same _⟩
  | _ => exact ⟨rfl, .same _⟩

/-! ### Dumps -/

/-- A list in an envelope with its length and the time is held as it was printed, and is read back
    from whatever the envelope holds. -/
theorem holds_envelope {α : Type} {shape : Shape α} {a : α} (hrestores : shape.Restores 126 a)
    {key length : String} (hlength : length ≠ key) (htime : "timestamp" ≠ key) (n time : Int) :
    let body := (Json.obj [(key, shape.toJson a), (length, .int n), ("timestamp", .int time)]).print
    Holds body key (shape.toJson a).print ∧
      ∀ text, Holds body key text →
        Spells (fun fuel => shape.read fuel 126) text a ∧ Utf8.Valid text := by
  intro body
  -- Neither the length nor the time has the key of the list.
  have hothers : ∀ m ∈ [(length, Json.int n), ("timestamp", .int time)],
      m.1 ≠ key ∧ IsValue m.2.print ∧ Flush m.2.print := by
    simp [hlength, htime, isValue_print_int]
  refine ⟨holds_print ?_ List.mem_cons_self, fun text htext => ⟨?_, htext.valid (valid_print _)⟩⟩
  · exact List.forall_mem_cons.mpr ⟨hrestores.printed, fun m hm => (hothers m hm).2⟩
  · have hmember : Holds (Json.obj ([] ++ (key, shape.toJson a) ::
        [(length, Json.int n), ("timestamp", .int time)])).print key text := htext
    exact hmember.spells hrestores hothers

variable {server : Server} {w : World} {listing catalog : Request}

/-- What the list of the sessions holds. -/
theorem holds_sessions (h : listing.Views .sessions)
    (counts : ∀ s ∈ w.store.sessions, s.messageCount < 0x10000000000000000) :
    Holds (server.handle listing w).1.body.bytes "sessions"
        ((Shape.list Session.shape).toJson w.store.sessions).print ∧
      ∀ text, Holds (server.handle listing w).1.body.bytes "sessions" text →
        Spells (fun fuel => (Shape.list Session.shape).read fuel 126) text w.store.sessions ∧
          Utf8.Valid text := by
  obtain ⟨time, -, -, hbytes⟩ := server.handle_shown h rfl w
  rw [hbytes, shown, Response.json, Response.withBody, Body.bytes_full]
  exact holds_envelope (Session.restores_list counts) (by decide) (by decide) _ time

/-- What the list of the scenarios holds. -/
theorem holds_scenarios (h : catalog.Views .scenarios) :
    Holds (server.handle catalog w).1.body.bytes "scenarios"
        ((Shape.list Scenario.shape).toJson server.fixtures.scenarios).print ∧
      ∀ text, Holds (server.handle catalog w).1.body.bytes "scenarios" text →
        Spells (fun fuel => (Shape.list Scenario.shape).read fuel 126) text
            server.fixtures.scenarios ∧ Utf8.Valid text := by
  obtain ⟨time, -, -, hbytes⟩ := server.handle_shown h rfl w
  rw [hbytes, shown, Response.json, Response.withBody, Body.bytes_full]
  exact holds_envelope (Scenario.restores_list _) (by decide) (by decide) _ time

/-- A document with the sessions and the scenarios that a server lists: the texts of the two arrays
    take the places of those in the document. -/
def Dumps (server : Server) (w : World) (listing catalog : Request)
    (document document' : Bytes) : Prop :=
  ∃ sessions scenarios middle,
    Holds (server.handle listing w).1.body.bytes "sessions" sessions ∧
    Holds (server.handle catalog w).1.body.bytes "scenarios" scenarios ∧
    PutsIn "sessions" sessions document middle ∧ PutsIn "scenarios" scenarios middle document'

variable {document : Bytes}

/-- Into a document in the form of an object the lists can be put. -/
theorem exists_dumps {rest : Bytes} (hobject : skipBlank document = 0x7B :: rest)
    (hread : Fixtures.ofBytes document = .ok server.fixtures)
    (counts : ∀ s ∈ w.store.sessions, s.messageCount < 0x10000000000000000)
    (hlisting : listing.Views .sessions) (hcatalog : catalog.Views .scenarios) :
    ∃ document', server.Dumps w listing catalog document document' := by
  -- The sessions go in first, and then the catalog goes into what came of that.
  have hsessions := Session.restores_list counts
  have hscenarios := Scenario.restores_list server.fixtures.scenarios
  obtain ⟨middle, hmiddle⟩ : ∃ middle, PutsIn "sessions" _ document middle :=
    exists_putsIn hobject hread (by decide) hsessions.printed.1 hsessions.printed.2
  have hread' := Fixtures.ofBytes_putsIn_sessions hread hmiddle hsessions.spells
  obtain ⟨rest', hobject'⟩ := hmiddle.exists_object
  obtain ⟨document', hdocument'⟩ : ∃ document', PutsIn "scenarios" _ middle document' :=
    exists_putsIn hobject' hread' (by decide) hscenarios.printed.1 hscenarios.printed.2
  exact ⟨document', _, _, middle, (holds_sessions hlisting counts).1, (holds_scenarios hcatalog).1,
    hmiddle, hdocument'⟩

/-- Such a document is well-formed, and spells the sessions of the store. -/
theorem Dumps.ofBytes {document' : Bytes}
    (h : server.Dumps w listing catalog document document') (hvalid : Utf8.Valid document)
    (hread : Fixtures.ofBytes document = .ok server.fixtures)
    (counts : ∀ s ∈ w.store.sessions, s.messageCount < 0x10000000000000000)
    (hlisting : listing.Views .sessions) (hcatalog : catalog.Views .scenarios) :
    Utf8.Valid document' ∧
      Fixtures.ofBytes document' = .ok { server.fixtures with sessions := w.store.sessions } := by
  obtain ⟨sessions, scenarios, middle, hsessions, hscenarios, hmiddle, hdocument'⟩ := h
  obtain ⟨hspells, htext⟩ := (holds_sessions hlisting counts).2 sessions hsessions
  obtain ⟨hspells', htext'⟩ := (holds_scenarios hcatalog).2 scenarios hscenarios
  have hread' := Fixtures.ofBytes_putsIn_sessions hread hmiddle hspells
  exact ⟨hdocument'.valid (hmiddle.valid hvalid htext) htext',
    Fixtures.ofBytes_putsIn_scenarios hread' hdocument' hspells'⟩

/-! ### The second server -/

/-- A server with the sessions of a store begins with the store that they seed. -/
theorem initial_store {server' : Server}
    (hfixtures : server'.fixtures = { server.fixtures with sessions := w.store.sessions }) :
    server'.initial.store = .seeded w.store.sessions := by
  show Store.seeded server'.fixtures.sessions = _
  rw [hfixtures]

/-- A server that begins with the sessions of another shows what this one shows. -/
theorem handle_agrees {server' : Server} (hsound : w.store.Sound)
    (hfixtures : server'.fixtures = { server.fixtures with sessions := w.store.sessions })
    {request : Request} {route : Route} (hget : request.method = .get) (hfor : request.IsFor route)
    (hshown : route.isShown = true) :
    (server'.handle request server'.initial).1.status = (server.handle request w).1.status ∧
      AgreesAside (server'.handle request server'.initial).1.body.bytes
        (server.handle request w).1.body.bytes := by
  cases readable : Trace.isReadable request.headers request.body with
  | false =>
    -- Neither server looks at its store.
    have hhead : request.method ≠ .head := by simp [hget]
    obtain ⟨hstatus, hbytes, -⟩ := server.handle_of_not_readable_fields readable w
    obtain ⟨hstatus', hbytes', -⟩ :=
      server'.handle_of_not_readable_fields readable server'.initial
    rw [hstatus, hstatus', hbytes hhead, hbytes' hhead]
    exact ⟨rfl, .same _⟩
  | true =>
    have views : request.Views route := ⟨hget, hfor, readable⟩
    obtain ⟨time, hstatus, -, hbytes⟩ := server.handle_shown views hshown w
    obtain ⟨time', hstatus', -, hbytes'⟩ := server'.handle_shown views hshown server'.initial
    have hinitial := initial_store hfixtures
    obtain ⟨hsessions, hfound⟩ := hsound.reseeded
    rw [hstatus, hstatus', hbytes, hbytes', hinitial]
    exact shown_agrees (by rw [hfixtures]) (by rw [hfixtures]) hsessions hfound time time' route

/-- **Dump and restart.** Whatever requests came to a server whose fixtures are those of a document
    in the form of an object, the sessions and the scenarios that it lists can be put into this
    document, and every document in which they are is loaded. A server that is started from it shows
    the same sessions, dialogs, counts and scenarios, but for the time in the envelopes, and the
    history of each session is empty. -/
theorem restart_shows {files : Files} {path : String} {rest : Bytes}
    (hfile : files path = .ok document) (hobject : skipBlank document = 0x7B :: rest)
    (hload : Fixtures.load files (some path) = .ok server.fixtures) (h : server.Reachable w)
    (counts : ∀ s ∈ w.store.sessions, s.messageCount < 0x10000000000000000)
    (hlisting : listing.Views .sessions) (hcatalog : catalog.Views .scenarios) :
    (∃ document', server.Dumps w listing catalog document document') ∧
    ∀ document', server.Dumps w listing catalog document document' →
      ∀ (files' : Files) (path' : String), files' path' = .ok document' →
        ∃ fixtures', Fixtures.load files' (some path') = .ok fixtures' ∧
          ∀ server' : Server, server'.fixtures = fixtures' →
            (∀ (request : Request) (route : Route), request.method = .get → request.IsFor route →
              route.isShown = true →
              (server'.handle request server'.initial).1.status =
                  (server.handle request w).1.status ∧
                AgreesAside (server'.handle request server'.initial).1.body.bytes
                  (server.handle request w).1.body.bytes) ∧
            ∀ s ∈ w.store.sessions, server'.initial.store.history s.id = .ok [] ∧
              ∀ request : Request, request.AsksForHistory s.id →
                Trace.isReadable request.headers request.body = true →
                (server'.handle request server'.initial).1.status = 200 ∧
                  ∃ time, (server'.handle request server'.initial).1.body.bytes =
                    (SessionMessages.shape.toJson ⟨s.id, [], 0, time⟩).print := by
  obtain ⟨hvalid, hread⟩ := (Fixtures.load_eq_ok_iff hfile).mp hload
  refine ⟨exists_dumps hobject hread counts hlisting hcatalog,
    fun document' hdumps files' path' hfile' => ?_⟩
  have hdocument' := hdumps.ofBytes hvalid hread counts hlisting hcatalog
  refine ⟨_, (Fixtures.load_eq_ok_iff hfile').mpr hdocument', fun server' hfixtures =>
    ⟨fun request route hget hfor hshown => handle_agrees h.sound hfixtures hget hfor hshown,
      fun s hs => ?_⟩⟩
  -- The sessions are seeds now, and no seed has messages.
  have hinitial := initial_store hfixtures
  have hget : server'.initial.store.get? s.id = some s := by
    rw [hinitial, (h.sound.reseeded).2]
    exact h.sound.get?_eq_some_iff.mpr ⟨hs, rfl⟩
  have hsound : server'.initial.store.Sound := .seeded _
  have hhistory : server'.initial.store.history s.id = .ok [] := by
    rw [hsound.history_of_get? hget, initial_historyOf]
  exact ⟨hhistory, fun request asks readable => server'.handle_history asks readable hhistory⟩

/-- A document in which the key of the sessions is spelt with an escape, some records are arrays,
    and a time is not in universal time. -/
def sampleDocument : Bytes :=
  [" \x7b\"sess\\u0069ons\": [\x7b\"session_id\":\"a\",", "\"status\":\"completed\",",
    "\"start_time\":", "\"1970-01-01 01:00:00.5+01:00\",", "\"message_count\":3\x7d],",
    "\"replies\":[\"hi\",\"wait\",\"ok\"],", "\"services\":[[\"chat\",\"c\"],",
    "[\"nlu\",\"n\"],[\"bot\",\"b\"]],", "\"external\":[0,0,0,0],", "\"demo\":[[]], \"x\":[1e9],",
    "\"scenarios\":[]\x7d\n"].flatMap Utf8.bytes

/-- The small server with the fixtures of this document. -/
def sampleLoaded : Server :=
  match Fixtures.ofBytes sampleDocument with
  | .ok fixtures => { sample with fixtures := fixtures }
  | .error _ => sample

/-- After a new session and a message to the seed, the server is dumped and started again. -/
theorem restart_shows_sampleLoaded :
    let w := (sampleLoaded.run [⟨.post, ⟨"/api/v1/chat/sessions"⟩, [], .empty⟩, samplePost]
      sampleLoaded.initial).2
    let listing : Request := ⟨.get, ⟨"/api/v1/chat/sessions"⟩, [], .empty⟩
    let catalog : Request := ⟨.get, ⟨"/api/v1/scenarios"⟩, [], .empty⟩
    w.store.sessions.map Session.messageCount = [4, 0] ∧
      (∃ document', sampleLoaded.Dumps w listing catalog sampleDocument document') ∧
      ∀ document', sampleLoaded.Dumps w listing catalog sampleDocument document' →
        ∃ fixtures', Fixtures.load (fun _ => .ok document') (some "f") = .ok fixtures' := by
  intro w listing catalog
  -- The document is read: this is what the small server was made of.
  have hread : Fixtures.ofBytes sampleDocument = .ok sampleLoaded.fixtures := by
    have hok : (Fixtures.ofBytes sampleDocument).isOk = true := by decide +kernel
    unfold sampleLoaded
    cases h : Fixtures.ofBytes sampleDocument with
    | error failure =>
      rw [h] at hok
      cases hok
    | ok fixtures => rfl
  have hload : Fixtures.load (fun _ => .ok sampleDocument) (some "f")
      = .ok sampleLoaded.fixtures :=
    (Fixtures.load_eq_ok_iff rfl).mpr ⟨Utf8.valid_iff.mpr (by decide +kernel), hread⟩
  have hobject : skipBlank sampleDocument = 0x7B :: (skipBlank sampleDocument).tail := by
    decide +kernel
  have hlisting : listing.Views .sessions := ⟨rfl, ⟨trivial, rfl⟩, by decide⟩
  have hcatalog : catalog.Views .scenarios := ⟨rfl, ⟨trivial, rfl⟩, by decide⟩
  have hcounts : w.store.sessions.map Session.messageCount = [4, 0] := by decide +kernel
  -- The counts of its two sessions fit into 64 bits.
  have counts : ∀ s ∈ w.store.sessions, s.messageCount < 0x10000000000000000 := by
    intro s hs
    have hcount : s.messageCount ∈ [4, 0] := hcounts ▸ List.mem_map_of_mem hs
    rcases List.mem_pair.mp hcount with h | h <;> omega
  have hfile : (fun _ => .ok sampleDocument : Files) "f" = .ok sampleDocument := rfl
  have hreachable : sampleLoaded.Reachable w := Reachable.initial.run _
  obtain ⟨hexists, hall⟩ := restart_shows hfile hobject hload hreachable counts hlisting hcatalog
  refine ⟨hcounts, hexists, fun document' hdumps => ?_⟩
  obtain ⟨fixtures', hfixtures', -⟩ := hall document' hdumps (fun _ => .ok document') "f" rfl
  exact ⟨fixtures', hfixtures'⟩

end Server

end DialogStub
