import DialogStub.Proofs.Api.Conservation
import DialogStub.Proofs.Platform.Client
import DialogStub.Proofs.Platform.Wire

/-!
# A server as the platform of another

* `Call.Delivers` — how a call comes to a server as a request;
* `Store.Opened` — a store with one more session, and with the messages of this session;
* `Server.handle_opens`, `Server.handle_adds`, `Server.handle_refuses` — what the server does for
  a new session, for a message, and for a message without content;
* `Peer.platform` — what a server answers to the calls of another one;
* `Peer.serves_ofAddress` — the addresses under which a client calls the server;
* `Peer.Serves.createSession_eq`, `Peer.Serves.sendMessage_eq`, `Peer.Serves.sendMessage_empty` —
  what the client gets.

Client and server share nothing but the calls. `Peer.At` says where the server stands once it has
answered all of them, and is what each call keeps.
-/

namespace DialogStub

open Http Json

/-! ### Delivery -/

/-- The body of a call is no longer than a body may be. -/
def Call.IsShort (call : Call) : Prop :=
  (call.body.getD []).length ≤ Content.maxLength

instance (call : Call) : Decidable call.IsShort :=
  inferInstanceAs (Decidable (_ ≤ _))

/-- A request brings a call: it has its method and its path, and its body, which is declared as
    JSON. What else stands in its head is free. -/
structure Call.Delivers (call : Call) (request : Request) : Prop where
  method_eq : ∀ method, Method.ofName? call.method = some method → request.method = method
  path_eq : request.target.path = call.url.path
  declared : ∀ bytes, call.body = some bytes →
    request.headers.get? "content-type" = some (Utf8.bytes "application/json")
  body_eq : ∀ bytes, call.body = some bytes → request.body = .full bytes

namespace Call.Delivers

variable {call : Call} {request : Request} {bytes : Bytes}

/-- A request whose body is complete is readable. -/
theorem isReadable (h : call.Delivers request) (hbody : call.body = some bytes) :
    Trace.isReadable request.headers request.body = true := by
  rw [h.body_eq bytes hbody]
  exact Trace.isReadable_of_complete _ (Body.complete_full bytes)

/-- The record in a body that is not too long is what its bytes spell. -/
theorem record_eq {α : Type} {shape : Shape α} {a : α} (h : call.Delivers request)
    (hbody : call.body = some bytes) (hshort : bytes.length ≤ Content.maxLength)
    (hread : shape.ofBytes bytes = .ok a) : Content.record shape request = .ok a := by
  have hdeclare : request.headers.declareJson = true := by
    rw [Headers.declareJson, Headers.text?, h.declared bytes hbody]
    decide +kernel
  have hcollect : (Body.full bytes).collect Content.maxLength = .ok bytes := by
    rw [Body.collect, Body.bytes_full, if_neg (Nat.not_lt.mpr hshort)]
    rfl
  rw [Content.record, hdeclare, h.body_eq bytes hbody, hcollect]
  dsimp only
  rw [if_pos rfl, hread]

end Call.Delivers

/-- The request that brings a call and says nothing else. -/
def Call.request (call : Call) : Request where
  method := (Method.ofName? call.method).getD .get
  target := ⟨call.url.path⟩
  headers := [("content-type", Utf8.bytes "application/json")]
  body := .full (call.body.getD [])

/-- A call is delivered by the request that was made of it. -/
theorem Call.delivers_request (call : Call) : call.Delivers call.request where
  method_eq method h := by rw [request, h]; rfl
  path_eq := rfl
  declared _ _ := rfl
  body_eq bytes h := by rw [request, h]; rfl

/-! ### One more session -/

/-- A store that another one has become through one more session and the messages of it. -/
structure Store.Opened (old : Store) (id : String) (messages : List Message) (store : Store) :
    Prop where
  sound : store.Sound
  sessions_eq : ∃ time s, store.sessions = old.sessions ++ [s] ∧
    (Session.fresh id time).Follows messages s
  historyOf_eq : ∀ id', store.historyOf id' = if id' = id then messages else old.historyOf id'

namespace Store.Opened

variable {old store : Store} {id : String} {messages : List Message}

/-- A new session is opened at the end. -/
theorem upsert (h : old.Sound) {s : Session} {time : Timestamp} (hs : s = .fresh id time)
    (hid : old.get? id = none) : old.Opened id [] (old.upsert s) where
  sound := h.upsert s
  sessions_eq := by
    subst hs
    rw [upsert_eq_add (h.get?_eq_none_iff.mp hid)]
    exact ⟨time, _, rfl, .refl _⟩
  historyOf_eq id' := by
    rw [historyOf_upsert]
    by_cases heq : id' = id
    · rw [if_pos heq, heq, h.historyOf_eq_nil hid]
    · rw [if_neg heq]

theorem exists_get? (h : old.Opened id messages store) : ∃ s, store.get? id = some s := by
  obtain ⟨time, s, hs, hfollows⟩ := h.sessions_eq
  exact ⟨s, h.sound.get?_eq_some_iff.mpr ⟨by simp [hs], hfollows.id_eq⟩⟩

/-- A message behind an opened session is one of its messages. -/
theorem append (h : old.Opened id messages store) {m : Message} {store' : Store}
    (hm : m.sessionId = id) (happend : store.append m = .ok store') :
    old.Opened id (messages ++ [m]) store' where
  sound := h.sound.append happend
  sessions_eq := by
    obtain ⟨time, s, hs, hfollows⟩ := h.sessions_eq
    -- The session stands at the end, where the message finds it.
    have hsid : s.id = m.sessionId := hfollows.id_eq.trans hm.symm
    have hholds := hsid ▸ h.sound.holds_last hs
    rw [hholds.append_eq] at happend
    cases happend
    exact ⟨time, _, rfl, hfollows.trans (.addMessage s m)⟩
  historyOf_eq id' := by
    rw [historyOf_append happend, h.historyOf_eq, hm]
    by_cases heq : id' = id
    · rw [if_pos heq, if_pos heq, if_pos heq]
    · rw [if_neg heq, if_neg heq, if_neg heq]

end Store.Opened

/-! ### The server -/

namespace Server

variable {peer : Server} {call : Call} {request : Request} {v : World}

/-- **New sessions.** The server opens a session and tells its id. -/
theorem handle_opens (h : v.store.Sound) (fresh : v.Fresh peer.supply)
    (delivers : call.Delivers request) {bytes : Bytes} (hmethod : call.method = "POST")
    (hpath : call.url.path = "/api/v1/chat/sessions") (hbody : call.body = some bytes) :
    (peer.handle request v).1.status = 200 ∧ ∃ n time,
      (peer.handle request v).1.body.bytes =
        (SessionCreated.shape.toJson ⟨peer.supply.id n, "created", time⟩).print ∧
      v.store.get? (peer.supply.id n) = none ∧
      v.store.Opened (peer.supply.id n) [] (peer.handle request v).2.store := by
  have asks : request.AsksForSession :=
    ⟨delivers.method_eq .post (by rw [hmethod]; rfl), delivers.path_eq.trans hpath⟩
  have hstep := peer.handle_step request v
  generalize peer.handle request v = result at hstep
  cases hstep with
  | quiet onward unread =>
    -- The body of a call is whole, and so it can be read.
    have hread := delivers.isReadable hbody
    rw [(unread asks).1] at hread
    cases hread
  | created n time _ _ drawn_le _ status_eq bytes_eq store_eq =>
    refine ⟨status_eq, n, time, bytes_eq, fresh n drawn_le, ?_⟩
    rw [store_eq]
    exact .upsert h rfl (fresh n drawn_le)
  | appended _ _ _ _ _ posts => exact absurd posts asks.not_postsMessage

section Messages

variable {old : Store} {id content : String} {messages : List Message}

/-- **Messages.** The server adds a message with a content to the session that was opened. -/
theorem handle_adds (opened : old.Opened id messages v.store) (hid : id ≠ "")
    (delivers : call.Delivers request) (hmethod : call.method = "POST")
    (hpath : call.url.path = "/api/v1/chat/messages")
    (hbody : call.body = some (Wire.messageBody id content).print)
    (hshort : (Wire.messageBody id content).print.length ≤ Content.maxLength)
    (hcontent : content ≠ "") :
    (peer.handle request v).1.status = 200 ∧ ∃ time m,
      (peer.handle request v).1.body.bytes =
        (MessageSaved.shape.toJson ⟨id, true, time⟩).print ∧
      m.record = ⟨some id, some content, .user, none⟩ ∧
      old.Opened id (messages ++ [m]) (peer.handle request v).2.store := by
  have posts : request.PostsMessage :=
    ⟨delivers.method_eq .post (by rw [hmethod]; rfl), delivers.path_eq.trans hpath⟩
  have hrecord := delivers.record_eq hbody hshort (Wire.addMessage_ofBytes id content)
  obtain ⟨s, known⟩ := opened.exists_get?
  have hpresent : present (some id) = some id := by simp [present, hid]
  have hpresent' : present (some content) = some content := by simp [present, hcontent]
  have hstatus :=
    peer.handle_accepts posts (delivers.isReadable hbody) hrecord hpresent hpresent' known
  -- The request is accepted, and a step that answers a post of a message with 200 adds this
  -- message.
  have hstep := peer.handle_step request v
  generalize peer.handle request v = result at hstatus hstep
  cases hstep with
  | quiet _ _ refused => exact absurd hstatus (refused posts)
  | created _ _ asks => exact absurd posts asks.not_postsMessage
  | appended n time body id' content' _ _ _ _ bytes_eq record_eq id_eq content_eq append_eq =>
    rw [hrecord] at record_eq
    cases record_eq
    cases eq_some_of_present id_eq
    cases eq_some_of_present content_eq
    exact ⟨hstatus, time, _, bytes_eq, rfl, opened.append rfl append_eq⟩

/-- **Messages without content.** The server refuses them, and stays as it is. -/
theorem handle_refuses (opened : old.Opened id messages v.store)
    (delivers : call.Delivers request) (hmethod : call.method = "POST")
    (hpath : call.url.path = "/api/v1/chat/messages")
    (hbody : call.body = some (Wire.messageBody id "").print)
    (hshort : (Wire.messageBody id "").print.length ≤ Content.maxLength) :
    (peer.handle request v).1.status ≠ 200 ∧
      old.Opened id messages (peer.handle request v).2.store := by
  have posts : request.PostsMessage :=
    ⟨delivers.method_eq .post (by rw [hmethod]; rfl), delivers.path_eq.trans hpath⟩
  have hrecord := delivers.record_eq hbody hshort (Wire.addMessage_ofBytes id "")
  have hstep := peer.handle_step request v
  generalize peer.handle request v = result at hstep
  -- The step is none that posts: the content was read back, and it is empty.
  cases hstep with
  | quiet onward _ refused => exact ⟨refused posts, onward.store_eq ▸ opened⟩
  | created _ _ asks => exact absurd posts asks.not_postsMessage
  | appended n time body id' content' _ _ _ _ _ record_eq _ content_eq =>
    rw [hrecord] at record_eq
    cases record_eq
    cases content_eq

end Messages

end Server

/-! ### The client -/

/-- A server that is the platform of another one: how calls come to it, the calls before, and the
    world in which it stands behind them. -/
structure Peer where
  server : Server
  deliver : Call → Request
  past : List Call
  start : World

namespace Peer

variable (peer : Peer)

/-- The world of the server behind the calls that followed those of the past. -/
def after (calls : List Call) : World :=
  (peer.server.run (calls.map peer.deliver) peer.start).2

/-- The server as a platform: it answers the calls behind those of the past, one after the other. -/
def platform : Platform := fun calls =>
  match (peer.server.run ((calls.drop peer.past.length).map peer.deliver)
      peer.start).1.getLast? with
  | some (_, response) => .answered response.status response.body.bytes
  | none => .failed

/-- A client calls the server under an address that leads to it. -/
structure Serves (client : Platform.Client) : Prop where
  platform_eq : client.platform = peer.platform
  delivers : ∀ call : Call, call.Delivers (peer.deliver call)
  reaches : ∀ path ∈ ["chat/sessions", "chat/messages"],
    ∃ u, Url.parse (client.address path) = some u ∧ u.isWeb = true ∧ u.path = "/api/v1/" ++ path

/-- Calls that are short from the end of the past on. -/
def Short (calls : List Call) : Prop :=
  ∀ call ∈ calls.drop peer.past.length, call.IsShort

instance (calls : List Call) : Decidable (peer.Short calls) :=
  inferInstanceAs (Decidable (∀ call ∈ _, Call.IsShort call))

/-- The server stands behind all calls of the client. -/
def At (w v : World) : Prop :=
  ∃ calls, w.calls = peer.past ++ calls ∧ v = peer.after calls

variable {peer} {w w' v : World}

/-- If all calls are short, so are the first ones. -/
theorem Short.mono {calls calls' : List Call} (h : peer.Short calls')
    (hbegins : calls <+: calls') : peer.Short calls := by
  obtain ⟨more, rfl⟩ := hbegins
  intro call hcall
  refine h call ?_
  rw [List.drop_append]
  exact List.mem_append_left _ hcall

/-- A path of the service is written as it is kept. -/
theorem plainPath_chat : ∀ path ∈ ["chat/sessions", "chat/messages"],
    Url.PlainPath ("/api/v1/" ++ path) := by
  intro path hpath
  simp only [List.mem_cons, List.not_mem_nil, or_false] at hpath
  rcases hpath with rfl | rfl
  · exact ⟨⟨_, rfl⟩, by simp, by decide +kernel⟩
  · exact ⟨⟨_, rfl⟩, by simp, by decide +kernel⟩

/-- The address of a server, with the path of its service and any number of slashes behind it,
    leads to the server. -/
theorem serves_ofAddress {scheme authority : String} (origin : Url.Origin scheme authority)
    (delivers : ∀ call : Call, call.Delivers (peer.deliver call)) (n : Nat) :
    peer.Serves (.ofAddress peer.platform
      (scheme ++ "://" ++ authority ++ "/api/v1" ++ String.ofList (List.replicate n '/'))) where
  platform_eq := rfl
  delivers := delivers
  reaches path hpath := by
    -- Neither part has a slash where they are put together.
    have hbase : (scheme ++ "://" ++ authority ++ "/api/v1").toList.getLast? ≠ some '/' := by
      have hsplit : (scheme ++ "://" ++ authority ++ "/api/v1").toList
          = (scheme ++ "://" ++ authority ++ "/api/v").toList ++ ['1'] := by
        simp [String.toList_append]
      rw [hsplit, List.getLast?_concat]
      decide
    have hhead : ∀ path ∈ ["chat/sessions", "chat/messages"], path.toList.head? ≠ some '/' := by
      decide
    have htext : scheme ++ "://" ++ authority ++ "/api/v1" ++ "/" ++ path
        = scheme ++ "://" ++ authority ++ ("/api/v1/" ++ path) := by
      simp [String.append_assoc]
    rw [Platform.Client.address_ofAddress _ n hbase (hhead path hpath), htext]
    exact Url.parse_origin origin (plainPath_chat path hpath)

namespace At

theorem beside (h : peer.At w v) (hw : w.Beside w') : peer.At w' v := by
  obtain ⟨calls, hcalls, hv⟩ := h
  exact ⟨calls, hw.calls_eq.trans hcalls, hv⟩

/-- One more call brings the server one request further. -/
theorem calling (h : peer.At w v) (call : Call) :
    peer.At (w.calling call) (peer.server.handle (peer.deliver call) v).2 := by
  obtain ⟨calls, hcalls, rfl⟩ := h
  refine ⟨calls ++ [call], ?_, ?_⟩
  · rw [World.calling, hcalls, List.append_assoc]
  · rw [after, after, List.map_append, Server.run_append]
    rfl

/-- The answer to a call is the answer of the server to the request that brings it. -/
theorem platform_eq (h : peer.At w v) (call : Call) :
    peer.platform (w.calls ++ [call]) =
      .answered (peer.server.handle (peer.deliver call) v).1.status
        (peer.server.handle (peer.deliver call) v).1.body.bytes := by
  obtain ⟨calls, hcalls, rfl⟩ := h
  rw [platform, hcalls, List.append_assoc, List.drop_left, List.map_append, Server.run_append,
    List.map_singleton, Server.run_cons, Server.run_nil, List.getLast?_concat]
  rfl

/-- Of short calls the next one is short. -/
theorem isShort (h : peer.At w v) {call : Call} (short : peer.Short (w.calls ++ [call])) :
    call.IsShort := by
  obtain ⟨calls, hcalls, -⟩ := h
  refine short call ?_
  rw [hcalls, List.append_assoc, List.drop_left]
  simp

end At

namespace Serves

variable {client : Platform.Client} (serves : peer.Serves client)

include serves

/-- **New sessions.** The client gets the id of the session that the server opens. -/
theorem createSession_eq (h : peer.At w v) (sound : v.store.Sound)
    (fresh : v.Fresh peer.server.supply) :
    ∃ n w' v', client.createSession w = (.ok ⟨some (peer.server.supply.id n), none, none⟩, w') ∧
      peer.At w' v' ∧ v.store.get? (peer.server.supply.id n) = none ∧
      v.store.Opened (peer.server.supply.id n) [] v'.store := by
  obtain ⟨u, hurl, hweb, hpath⟩ := serves.reaches "chat/sessions" (by simp)
  let call : Call := ⟨"POST", u, some (Json.obj []).print⟩
  obtain ⟨hstatus, n, time, hbytes, hnone, hopened⟩ :=
    Server.handle_opens sound fresh (serves.delivers call) rfl hpath rfl
  have hreply := h.platform_eq call
  rw [← serves.platform_eq, hstatus, hbytes] at hreply
  exact ⟨n, _, _, Platform.Client.post_of_answer hurl hweb hreply (Wire.sessionStarted_ofBytes _),
    h.calling call, hnone, hopened⟩

section Messages

variable {old : Store} {id content : String} {messages : List Message}

/-- A message is sent in one call, and it is short if that call is. -/
theorem length_le_of_short (h : peer.At w v)
    (short : peer.Short (client.sendMessage id content w).2.calls) :
    (Wire.messageBody id content).print.length ≤ Content.maxLength := by
  obtain ⟨u, hurl, hweb, -⟩ := serves.reaches "chat/messages" (by simp)
  have hcalls : (client.sendMessage id content w).2.calls =
      w.calls ++ [⟨"POST", u, some (Wire.messageBody id content).print⟩] :=
    Platform.Client.post_calls hurl hweb
  rw [hcalls] at short
  exact h.isShort short

/-- **Messages.** The client gets an empty turn for a message with a content. -/
theorem sendMessage_eq (h : peer.At w v) (opened : old.Opened id messages v.store) (hid : id ≠ "")
    (short : peer.Short (client.sendMessage id content w).2.calls) (hcontent : content ≠ "") :
    ∃ w' v' m, client.sendMessage id content w = (.ok ⟨none, none⟩, w') ∧ peer.At w' v' ∧
      m.record = ⟨some id, some content, .user, none⟩ ∧
      old.Opened id (messages ++ [m]) v'.store := by
  have hshort := serves.length_le_of_short h short
  obtain ⟨u, hurl, hweb, hpath⟩ := serves.reaches "chat/messages" (by simp)
  let call : Call := ⟨"POST", u, some (Wire.messageBody id content).print⟩
  -- The server answers the call, and the client reads its answer.
  obtain ⟨hstatus, time, m, hbytes, hrecord, hopened⟩ :=
    Server.handle_adds opened hid (serves.delivers call) rfl hpath rfl hshort hcontent
  have hreply := h.platform_eq call
  rw [← serves.platform_eq, hstatus, hbytes] at hreply
  exact ⟨_, _, m, Platform.Client.post_of_answer hurl hweb hreply (Wire.botTurn_ofBytes _),
    h.calling call, hrecord, hopened⟩

/-- **Messages without content.** The client gets an error that names a status. -/
theorem sendMessage_empty (h : peer.At w v) (opened : old.Opened id messages v.store)
    (short : peer.Short (client.sendMessage id "" w).2.calls) :
    ∃ w' v' url code, client.sendMessage id "" w = (.error (.status url code), w') ∧
      peer.At w' v' ∧ old.Opened id messages v'.store := by
  have hshort := serves.length_le_of_short h short
  obtain ⟨u, hurl, hweb, hpath⟩ := serves.reaches "chat/messages" (by simp)
  let call : Call := ⟨"POST", u, some (Wire.messageBody id "").print⟩
  obtain ⟨hstatus, hopened⟩ :=
    Server.handle_refuses opened (serves.delivers call) rfl hpath rfl hshort
  have hreply := h.platform_eq call
  rw [← serves.platform_eq] at hreply
  exact ⟨_, _, _, _, Platform.Client.post_of_status hurl hweb hreply hstatus, h.calling call,
    hopened⟩

end Messages

end Serves

end Peer

end DialogStub
