import DialogStub.Proofs.Api.Restart
import DialogStub.Proofs.Api.StoreFrame
import DialogStub.Proofs.Api.Validation
import DialogStub.Proofs.Text.Percent

/-!
# Sessions by their ids

A session is found by its id, which a path spells in percent-encoded form and a body spells as a
text of JSON. The lists show the same sessions.

* `Percent.Names.parse_path` — the path of a named session is a target;
* `Request.PostsTo` — a post to the session with an id;
* `Server.Finds`, `Server.Misses` — what is answered where a session is asked for by its id;
* `Server.handle_addresses` — every session that is listed is found, in all places, and no other.

Whatever its letters are, an id has names in percent-encoded form, and only one text has this name.
So a name leads to the same session as the id.
-/

namespace DialogStub

open Http Json

/-! ### Paths with a name in them -/

namespace Http.Target

/-- A path of characters that may stand in a path is read up to its end. -/
theorem pathOf_eq {cs : List Char} (h : ∀ c ∈ cs, isPathChar c = true) (done : List Char) :
    pathOf done cs = .ok (done.reverse ++ cs) := by
  induction cs generalizing done with
  | nil => rw [pathOf, List.append_nil]
  | cons c cs ih =>
    obtain ⟨hc, hcs⟩ := List.forall_mem_cons.mp h
    -- Neither mark may stand in a path, so the loop does not end before it has read all.
    have hquery : c ≠ '?' := by
      rintro rfl
      revert hc
      decide
    have hfragment : c ≠ '#' := by
      rintro rfl
      revert hc
      decide
    rw [pathOf, if_neg hquery, if_neg hfragment, if_pos hc, ih hcs, List.reverse_cons,
      List.append_assoc]
    rfl

/-- Such a path is a target, if it begins with a slash and is not too long. -/
theorem parse_path {path : String} {cs : List Char} (hpath : path.toList = '/' :: cs)
    (h : ∀ c ∈ cs, isPathChar c = true) (hlength : (Utf8.bytes path).length ≤ maxLength) :
    parse path = .ok ⟨path⟩ := by
  have hall : ∀ c ∈ '/' :: cs, isPathChar c = true :=
    List.forall_mem_cons.mpr ⟨by decide, h⟩
  rw [parse, if_neg (Nat.not_lt.mpr hlength), hpath]
  show ofPath ('/' :: cs) = _
  rw [ofPath, pathOf_eq hall]
  show Except.ok (Target.mk (String.ofList ('/' :: cs))) = _
  rw [← hpath, String.ofList_toList]

end Http.Target

namespace Percent.Names

variable {segment : List Char} {id : String}

/-- Escapes and the characters that need none may stand in a path. -/
theorem isPathChar (h : Names segment id) : ∀ c ∈ segment, Target.isPathChar c = true := by
  have hbytes : ∀ b : UInt8, b = 0x25 ∨ isUnreserved b = true →
      Target.isPathChar (Utf8.asciiChar b) = true :=
    forall_byte (by decide +kernel)
  intro c hc
  obtain ⟨b, hb, rfl⟩ := h.exists_of_mem hc
  exact hbytes b hb

theorem sessionId_eq (h : Names segment id) : Content.sessionId segment = .ok id := by
  rw [Content.sessionId, h.text?_eq]

/-- **The path of a named session**, or of its messages, is a target. -/
theorem parse_path (h : Names segment id) {route : Route}
    (hroute : route = .session segment ∨ route = .sessionMessages segment)
    (hlength : (Utf8.bytes route.path).length ≤ Target.maxLength) :
    Target.parse route.path = .ok ⟨route.path⟩ := by
  have hbefore : ∀ c ∈ Route.sessionPath.tail, Target.isPathChar c = true :=
    List.all_eq_true.mp (by decide)
  have hbehind : ∀ c ∈ Route.messagesPath, Target.isPathChar c = true :=
    List.all_eq_true.mp (by decide)
  have hnamed : ∀ c ∈ Route.sessionPath.tail ++ segment, Target.isPathChar c = true :=
    List.forall_mem_append.mpr ⟨hbefore, h.isPathChar⟩
  -- Both paths are the name between fixed characters.
  rcases hroute with rfl | rfl
  · exact Target.parse_path (by rw [Route.path, String.toList_ofList]; rfl) hnamed hlength
  · exact Target.parse_path (by rw [Route.path, String.toList_ofList]; rfl)
      (List.forall_mem_append.mpr ⟨hnamed, hbehind⟩) hlength

end Percent.Names

/-! ### Requests about one session -/

/-- A post to the session with an id: the body is a record with this id and a content, neither of
    which is empty. -/
def Http.Request.PostsTo (request : Request) (id content : String) : Prop :=
  Server.messageEndpoint.ReceivesTexts AddMessage.sessionId AddMessage.content request id content

namespace Server

/-- What is answered where a session is asked for by its id, or by a name of it, and is known. -/
structure Finds (server : Server) (w : World) (segment : List Char) (id : String) (s : Session) :
    Prop where
  /-- The record of the session. -/
  record : ∀ request : Request, request.Views (.session segment) →
    (server.handle request w).1.status = 200 ∧
      (server.handle request w).1.body.bytes = (Session.shape.toJson s).print
  /-- Its messages, with its id and their number. -/
  messages : ∀ request : Request, request.Views (.sessionMessages segment) →
    (server.handle request w).1.status = 200 ∧
      ∃ time, (server.handle request w).1.body.bytes = (SessionMessages.shape.toJson
        ⟨id, w.store.historyOf id, (w.store.historyOf id).length, time⟩).print
  /-- A message that is posted to it changes this session, and no other. -/
  posts : ∀ (request : Request) (content : String), request.PostsTo id content →
    (server.handle request w).1.status = 200 ∧
      ∃ before after, w.store.sessions = before ++ s :: after ∧
        (server.handle request w).2.store.sessions = before ++ s.addMessage content :: after

/-- What is answered where a session is asked for by its id, or by a name of it, and is unknown. -/
structure Misses (server : Server) (w : World) (segment : List Char) (id : String) : Prop where
  record : ∀ request : Request, request.Views (.session segment) →
    (ApiError.notFound "Session not found").Tells (server.handle request w).1
  messages : ∀ request : Request, request.Views (.sessionMessages segment) →
    (ApiError.notFound "Session not found").Tells (server.handle request w).1
  posts : ∀ (request : Request) (content : String), request.PostsTo id content →
    (ApiError.notFound "Session not found").Tells (server.handle request w).1 ∧
      (server.handle request w).2.store = w.store

variable {server : Server} {request : Request} {w : World} {segment : List Char}
  {id content : String}

/-- A request for the messages of an unknown session. -/
theorem handle_messages_of_unknown (views : request.Views (.sessionMessages segment))
    (hid : Content.sessionId segment = .ok id)
    (unknown : w.store.history id = .error (.sessionNotFound id)) :
    (ApiError.notFound "Session not found").Tells (server.handle request w).1 := by
  obtain ⟨passed, w₁, -, hw₁, alike, -⟩ :=
    server.exists_dispatch (views.goesTo rfl) (.inl views.method_eq) views.readable w
  -- The layers come first and leave the store as it is, so that the id is unknown to the handler.
  have hhandler : server.listMessages id w₁ = (.error (.notFound "Session not found"), w₁) := by
    have hread : Effect.ofStore (·.history id) w₁ = (.error (.sessionNotFound id), w₁) := by
      rw [← unknown, ← hw₁.store_eq]
      rfl
    rw [listMessages, Effect.bind_apply, hread]
    rfl
  rw [dispatch, withSessionId, hid] at alike
  exact (Handler.tells_of_error hhandler).1.of_alike alike

/-- A post to a session saves its content there if the session is known, and nothing otherwise. -/
theorem handle_posts (server : Server) (posts : request.PostsTo id content) (w : World) :
    (w.store.get? id = none →
      (ApiError.notFound "Session not found").Tells (server.handle request w).1 ∧
        (server.handle request w).2.store = w.store) ∧
    ∀ s, w.store.get? id = some s → (server.handle request w).1.status = 200 ∧
      ∃ n type intent, w.store.append (server.supply.message n id content type intent) =
        .ok (server.handle request w).2.store := by
  obtain ⟨a, ha, hcontent, hsaves⟩ := Endpoint.ReceivesTexts.served server posts rfl w
  obtain ⟨id', content', ha', hcontent', hunknown, hknown⟩ := hsaves
  -- The record holds one id and one content.
  obtain rfl : id' = id := Option.some.inj (ha'.symm.trans ha)
  obtain rfl : content' = content := Option.some.inj (hcontent'.symm.trans hcontent)
  refine ⟨fun hget => ?_, fun s hget => ?_⟩
  · obtain ⟨htells, hbeside⟩ := hunknown hget
    exact ⟨htells, hbeside.store_eq⟩
  · obtain ⟨hstatus, -, n, happend⟩ := hknown s hget
    exact ⟨hstatus, n, _, _, happend⟩

/-- **A known session** is found in all places. -/
theorem finds_of_mem (sound : w.store.Sound) (names : Percent.Names segment id) {s : Session}
    (hs : s ∈ w.store.sessions) (hid : s.id = id) : server.Finds w segment id s := by
  have hget : w.store.get? id = some s := sound.get?_eq_some_iff.mpr ⟨hs, hid⟩
  refine ⟨fun request views => ?_, fun request views => ?_, fun request content posts => ?_⟩
  · obtain ⟨time, alike⟩ := server.handle_shown views rfl w
    rw [shown, names.sessionId_eq] at alike
    dsimp only at alike
    rw [hget] at alike
    exact ⟨alike.status_eq, alike.bytes_eq.trans (Body.bytes_full _)⟩
  · have asks : request.AsksForHistory id :=
      ⟨views.method_eq, segment, names.not_mem_slash, names.sessionId_eq, views.isFor.2⟩
    exact server.handle_history asks views.readable (sound.history_of_get? hget)
  · obtain ⟨hstatus, n, type, intent, happend⟩ := (server.handle_posts posts w).2 s hget
    obtain ⟨before, old, after, hsessions, hold, hadded⟩ := (sound.addsMessage happend).sessions_eq
    -- The session with this id is the one that is found.
    have hsame : w.store.get? id = some old :=
      sound.get?_eq_some_iff.mpr ⟨by rw [hsessions]; simp, hold⟩
    obtain rfl : s = old := Option.some.inj (hget.symm.trans hsame)
    exact ⟨hstatus, before, after, hsessions, hadded⟩

/-- **An unknown session** is found in none. -/
theorem misses_of_not_mem (sound : w.store.Sound) (names : Percent.Names segment id)
    (hid : ∀ s ∈ w.store.sessions, s.id ≠ id) : server.Misses w segment id := by
  -- What is found under an id has this id.
  have hget : w.store.get? id = none := by
    refine Option.eq_none_iff_forall_ne_some.mpr fun s hs => ?_
    obtain ⟨hmem, heq⟩ := sound.get?_eq_some_iff.mp hs
    exact hid s hmem heq
  refine ⟨fun request views => ?_, fun request views => ?_, fun request content posts => ?_⟩
  · obtain ⟨time, alike⟩ := server.handle_shown views rfl w
    rw [shown, names.sessionId_eq] at alike
    dsimp only at alike
    rw [hget] at alike
    exact (ApiError.tells_response _).of_alike alike
  · exact handle_messages_of_unknown views names.sessionId_eq
      (Store.history_eq_error (sound.get?_eq_none_iff.mp hget))
  · exact (server.handle_posts posts w).1 hget

/-! ### All places -/

/-- **Every session has its address.** In every reachable world the lists of sessions and of dialogs
    show the same sessions, in their order and with their number, which is the number that the
    status tells, besides how many of them go on. Their ids differ. A session that is listed is
    found by its id, and by every name of it in a path; an id that is not listed is found nowhere.
    Every id has such a name, and makes a target of the path that it stands in, as far as this is
    not too long; and it can be spelled in the body of a message. -/
theorem handle_addresses (reachable : server.Reachable w) :
    let sessions := w.store.sessions
    (sessions.map Session.id).Nodup ∧
    (∀ request : Request, request.Views .sessions →
      (server.handle request w).1.status = 200 ∧
        ∃ time, (server.handle request w).1.body.bytes =
          (SessionList.shape.toJson ⟨sessions, sessions.length, time⟩).print) ∧
    (∀ request : Request, request.Views .dialogs →
      (server.handle request w).1.status = 200 ∧
        (server.handle request w).1.body.bytes = (DialogList.shape.toJson
          ⟨sessions.map fun s => ⟨s.id, s.status, s.messageCount, s.lastMessage⟩,
            sessions.length⟩).print) ∧
    (∀ request : Request, request.Views .chatStatus →
      (server.handle request w).1.status = 200 ∧
        ∃ time, (server.handle request w).1.body.bytes = (ServiceStatus.shape.toJson
          { ServiceStatus.running server.fixtures.services.chat time with
            activeSessions := some (sessions.countP (·.status = .active))
            totalSessions := some sessions.length }).print) ∧
    (∀ segment id, id ≠ "" → Percent.Names segment id →
      (∀ s ∈ sessions, s.id = id → server.Finds w segment id s) ∧
      ((∀ s ∈ sessions, s.id ≠ id) → server.Misses w segment id) ∧
      ∀ route : Route, route = .session segment ∨ route = .sessionMessages segment →
        route.IsServed ∧ ((Utf8.bytes route.path).length ≤ Target.maxLength →
          Target.parse route.path = .ok ⟨route.path⟩)) ∧
    ∀ id, (∃ segment, Percent.Names segment id) ∧
      ∀ content, AddMessage.shape.ofBytes (Wire.messageBody id content).print
        = .ok ⟨some id, some content, .user, none⟩ := by
  intro sessions
  have sound := reachable.sound
  refine ⟨sound.nodup_ids, fun request views => ?_, fun request views => ?_,
    fun request views => ?_, fun segment id hid names => ⟨fun s hs heq => ?_, fun hunknown => ?_,
      fun route hroute => ⟨?_, names.parse_path hroute⟩⟩,
    fun id => ⟨Percent.exists_names id, Wire.addMessage_ofBytes id⟩⟩
  -- The three routes that show all sessions are answered from one function of the store.
  · obtain ⟨time, alike⟩ := server.handle_shown views rfl w
    exact ⟨alike.status_eq, time, alike.bytes_eq.trans (Body.bytes_full _)⟩
  · obtain ⟨time, alike⟩ := server.handle_shown views rfl w
    rw [shown, List.length_map] at alike
    exact ⟨alike.status_eq, alike.bytes_eq.trans (Body.bytes_full _)⟩
  · obtain ⟨time, alike⟩ := server.handle_shown views rfl w
    exact ⟨alike.status_eq, time, alike.bytes_eq.trans (Body.bytes_full _)⟩
  · exact finds_of_mem sound names hs heq
  · exact misses_of_not_mem sound names hunknown
  · rcases hroute with rfl | rfl
    · exact ⟨names.ne_nil hid, names.not_mem_slash⟩
    · exact names.not_mem_slash

/-- The small server with an id that has a slash and a percent sign. -/
def sampleSigns : Server :=
  { sample with
    fixtures := { sample.fixtures with
      sessions := [⟨"a/%", .active, .epoch, 0, "", none, none⟩] } }

/-- A name with small letters leads to the session, and the name of a part of the id does not. -/
theorem handle_addresses_sampleSigns :
    let w := sampleSigns.initial
    let visit (path : String) : Request := ⟨.get, ⟨path⟩, [], .empty⟩
    sampleSigns.Reachable w ∧
      (sampleSigns.handle (visit "/api/v1/chat/sessions/a%2f%25") w).1.status = 200 ∧
      (sampleSigns.handle (visit "/api/v1/chat/sessions/%61%2F/messages") w).1.status = 404 := by
  intro w visit
  have reachable : sampleSigns.Reachable w := .initial
  obtain ⟨-, -, -, -, haddresses, -⟩ := handle_addresses reachable
  have names : Percent.Names "a%2f%25".toList "a/%" := by
    have hspells : Percent.Spells [0x61, 0x25, 0x32, 0x66, 0x25, 0x32, 0x35] [0x61, 0x2F, 0x25] :=
      .plain (by decide) (.escaped (by decide) (by decide) (.escaped (by decide) (by decide) .nil))
    exact hspells
  have names' : Percent.Names "%61%2F".toList "a/" := by
    have hspells : Percent.Spells [0x25, 0x36, 0x31, 0x25, 0x32, 0x46] [0x61, 0x2F] :=
      .escaped (by decide) (by decide) (.escaped (by decide) (by decide) .nil)
    exact hspells
  obtain ⟨hfinds, -, hserved⟩ := haddresses _ _ (by decide) names
  obtain ⟨-, hmisses, hserved'⟩ := haddresses _ _ (by decide) names'
  have hstore : w.store.sessions = [⟨"a/%", .active, .epoch, 0, "", none, none⟩] := rfl
  refine ⟨reachable, ?_, ?_⟩
  · have found := hfinds ⟨"a/%", .active, .epoch, 0, "", none, none⟩ (by simp [hstore]) rfl
    exact (found.record _ ⟨rfl, ⟨(hserved _ (.inl rfl)).1, rfl⟩, by decide⟩).1
  · have missed := hmisses (by simp [hstore])
    exact (missed.messages _ ⟨rfl, ⟨(hserved' _ (.inr rfl)).1, rfl⟩, by decide⟩).status_eq

end Server

end DialogStub
