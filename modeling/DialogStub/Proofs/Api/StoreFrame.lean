import DialogStub.Proofs.Api.Run

/-!
# What requests leave alone

* `Store.AddsSession`, `Store.AddsMessage` — a store with one more session, or one more message, and
  nothing else;
* `Server.handle_frame` — all of the store that a request may change, for every request.

A body that the trace cannot read keeps a request for a new session from the service, as
`handle_broken_body` shows: then there is neither a session nor the status 200.
-/

namespace DialogStub

open Http

/-! ### Two stores -/

namespace Store

/-- One more session at the end, under an id that was not there; all else is the same. -/
structure AddsSession (store : Store) (session : Session) (store' : Store) : Prop where
  unknown : store.get? session.id = none
  sessions_eq : store'.sessions = store.sessions ++ [session]
  index_eq : store'.index = store.index ++ [(session.id, store.sessions.length)]
  messages_eq : store'.messages = store.messages

/-- One more message in one history, counted in its session; all else is the same. -/
structure AddsMessage (store : Store) (message : Message) (store' : Store) : Prop where
  sessions_eq : ∃ before s after, store.sessions = before ++ s :: after ∧
    s.id = message.sessionId ∧
    store'.sessions = before ++
      { s with messageCount := s.messageCount + 1, lastMessage := message.content } :: after
  index_eq : store'.index = store.index
  messages_eq : ∀ id, store'.messages.lookup id =
    if id = message.sessionId then some (store.historyOf id ++ [message])
    else store.messages.lookup id

variable {store : Store}

/-- A session under an unknown id is put at the end. -/
theorem Sound.addsSession (h : store.Sound) {session : Session}
    (hid : store.get? session.id = none) : store.AddsSession session (store.upsert session) := by
  have hnone := h.get?_eq_none_iff.mp hid
  rw [upsert_eq_add hnone]
  exact ⟨hid, rfl, rfl, rfl⟩

/-- A message to a known session changes this session in its place. -/
theorem Sound.addsMessage (h : store.Sound) {message : Message} {store' : Store}
    (happend : store.append message = .ok store') : store.AddsMessage message store' := by
  rcases h.unknown_or_holds message.sessionId with hid | ⟨before, s, after, hs⟩
  · rw [append_eq_error hid] at happend
    cases happend
  · rw [hs.append_eq] at happend
    cases happend
    refine ⟨⟨before, s, after, hs.sessions_eq, hs.id_eq, rfl⟩, rfl, fun id => ?_⟩
    rw [lookup_assign]
    by_cases heq : id = message.sessionId
    · rw [if_pos heq, if_pos heq, heq]
    · rw [if_neg heq, if_neg heq]

end Store

/-! ### One request -/

/-- The record in the body of a request says what the message says. -/
def Http.Request.Spells (request : Request) (message : Message) : Prop :=
  ∃ body, AddMessage.shape.ofBytes request.body.bytes = .ok body ∧
    body.sessionId = some message.sessionId ∧ body.content = some message.content ∧
    body.type = message.type ∧ body.intent = message.intent

namespace Server

variable {server : Server} {w : World}

/-- **What a request may change.** In every reachable world, and for every request:
a request for a new session, the body of which can be read, is answered with 200 and adds one fresh
session at the end; a post of a message that is answered with 200 adds this one message to the
session that it names; and all other requests, those of the first kind with a body that cannot be
read included, leave the store as it is. So does every answer but 200, and every method but
`POST`. -/
theorem handle_frame (reachable : server.Reachable w) (fresh : w.Fresh server.supply)
    (request : Request) :
    let result := server.handle request w
    (request.AsksForSession → Trace.isReadable request.headers request.body = true →
      result.1.status = 200 ∧
        ∃ id time, w.store.AddsSession ⟨id, .active, time, 0, "", none, none⟩ result.2.store) ∧
    (request.AsksForSession → Trace.isReadable request.headers request.body = false →
      result.1.status = 400) ∧
    (request.PostsMessage → result.1.status = 200 →
      ∃ message, request.Spells message ∧ w.store.AddsMessage message result.2.store) ∧
    (¬(request.AsksForSession ∧ result.1.status = 200) →
      ¬(request.PostsMessage ∧ result.1.status = 200) → result.2.store = w.store) ∧
    (result.1.status ≠ 200 ∨ request.method ≠ .post → result.2.store = w.store) := by
  dsimp only
  have hsound := reachable.sound
  have hstep := server.handle_step request w
  generalize server.handle request w = result at hstep
  -- Each of the three steps contradicts what is assumed for the two others.
  cases hstep with
  | quiet onward unread refused =>
    refine ⟨fun hasks hread => ?_, fun hasks _ => (unread hasks).2,
      fun hposts hstatus => absurd hstatus (refused hposts), fun _ _ => onward.store_eq,
      fun _ => onward.store_eq⟩
    rw [(unread hasks).1] at hread
    cases hread
  | created n time asks readable drawn_le lt_drawn status_eq bytes_eq store_eq =>
    refine ⟨fun _ _ => ⟨status_eq, server.supply.id n, server.supply.time (n + 1), ?_⟩,
      fun _ hread => ?_, fun hposts => absurd hposts asks.not_postsMessage,
      fun hcreated _ => absurd ⟨asks, status_eq⟩ hcreated,
      fun hother => absurd asks.1 (hother.resolve_left (absurd status_eq))⟩
    · rw [store_eq]
      exact hsound.addsSession (fresh n drawn_le)
    · rw [readable] at hread
      cases hread
  | appended n time body id content posts drawn_le lt_drawn status_eq bytes_eq record_eq id_eq
      content_eq append_eq =>
    refine ⟨fun hasks => absurd posts hasks.not_postsMessage,
      fun hasks => absurd posts hasks.not_postsMessage,
      fun _ _ => ⟨_, ⟨body, Content.ofBytes_of_record record_eq, eq_some_of_present id_eq,
        eq_some_of_present content_eq, rfl, rfl⟩, hsound.addsMessage append_eq⟩,
      fun _ hposted => absurd ⟨posts, status_eq⟩ hposted,
      fun hother => absurd posts.1 (hother.resolve_left (absurd status_eq))⟩

/-- The post adds its message to the seed. -/
theorem handle_frame_samplePost :
    sample.Reachable sample.initial ∧ sample.initial.Fresh sample.supply ∧
      ∃ message, samplePost.Spells message ∧
        sample.initial.store.AddsMessage message
          (sample.handle samplePost sample.initial).2.store :=
  have fresh := Reachable.initial.fresh sample_new
  ⟨.initial, fresh, (handle_frame .initial fresh samplePost).2.2.1 ⟨rfl, rfl⟩ (by decide +kernel)⟩

/-- A request for a new session that announces five bytes of JSON and breaks after one. -/
def brokenRequest : Request where
  method := .post
  target := ⟨"/api/v1/chat/sessions"⟩
  headers := [("content-type", Utf8.bytes "application/json")]
  body := ⟨[[0x7B]], some 5, true⟩

/-- **A body that breaks.** A request for a new session is not answered with 200 whatever its body:
    this one is answered with 400, and makes no session. -/
theorem handle_broken_body :
    sample.Reachable sample.initial ∧ sample.initial.Fresh sample.supply ∧
      brokenRequest.AsksForSession ∧
      (sample.handle brokenRequest sample.initial).1.status = 400 ∧
      (sample.handle brokenRequest sample.initial).2.store = sample.initial.store :=
  ⟨.initial, Reachable.initial.fresh sample_new, ⟨rfl, rfl⟩, by decide +kernel,
    by decide +kernel⟩

end Server

end DialogStub
