import DialogStub.Proofs.Platform.Peer
import DialogStub.Proofs.Platform.Turns

/-!
# The demo against a server of the same kind

* `Peer.Serves.demoTurns_eq` — the messages of a script go to the server one after the other, those
  without content left out;
* `Server.demo_agrees` — the demo as a whole: what is answered, and what the server holds then.

The induction is on the script. `Peer.At` and `Store.Opened` carry it: the server stands behind the
calls so far, and holds its old store with one more session and the messages so far.
-/

namespace DialogStub

open Http Json

/-- The record of a message that a client sends. -/
def Wire.posted (id content : String) : AddMessage :=
  ⟨some id, some content, .user, none⟩

/-! ### Calls of the demo -/

namespace Server

variable (server : Server)

/-- What follows the first message takes no call back, whatever came back for it. -/
theorem demoTurns_cons_calls (id content : String) (rest : List String) (w : World) :
    (server.client.sendMessage id content w).2.calls <+:
      (server.demoTurns id (content :: rest) w).2.calls := by
  have hrest : (server.demoTurns id rest).AddsCalls := (server.demoTurns_looks id rest).addsCalls
  generalize hsend : server.client.sendMessage id content w = result
  obtain ⟨answer, w₁⟩ := result
  -- A message is taken, refused, or lost; only then no other is sent.
  cases answer with
  | ok turn =>
    rw [demoTurns_of_taken hsend]
    exact ((Effect.Looks.nowSeconds server.supply).addsCalls w₁).trans (hrest _)
  | error e =>
    cases e with
    | status url code =>
      rw [demoTurns_of_refused hsend]
      exact hrest (w₁.logging _)
    | request url fault =>
      rw [demoTurns_of_lost hsend]
      exact List.prefix_refl _

end Server

/-- An answer takes no call back. -/
theorem Handler.respond_calls (handler : Handler) (w : World) :
    (handler w).2.calls <+: (Handler.respond handler w).2.calls := by
  rw [respond, Effect.bind_apply]
  generalize handler w = result
  obtain ⟨answer, w'⟩ := result
  cases answer with
  | ok value => exact List.prefix_refl _
  | error e => cases e <;> exact List.prefix_refl _

/-! ### The demo step by step -/

namespace Peer.Serves

variable {server : Server} {peer : Peer} (serves : peer.Serves server.client) {w v : World}

include serves

/-- **Scripts.** By induction on the script: a message with a content becomes a turn and one more
    message of the session, and a message without one leaves no trace but its call. -/
theorem demoTurns_eq {old : Store} {id : String} (hid : id ≠ "") {script : List String}
    {messages : List Message} (h : peer.At w v) (opened : old.Opened id messages v.store)
    (short : peer.Short (server.demoTurns id script w).2.calls) :
    ∃ turns w' v' new, server.demoTurns id script w = (.ok turns, w') ∧ peer.At w' v' ∧
      old.Opened id (messages ++ new) v'.store ∧
      turns.map DemoTurn.user = script.filter (· ≠ "") ∧ (∀ turn ∈ turns, turn.bot = none) ∧
      new.map Message.record = (script.filter (· ≠ "")).map (Wire.posted id) := by
  induction script generalizing w v messages with
  | nil =>
    refine ⟨[], w, v, [], rfl, h, ?_, rfl, List.forall_mem_nil _, rfl⟩
    rw [List.append_nil]
    exact opened
  | cons content rest ih =>
    -- The first call is one of the calls of the demo, and so it is short.
    have short₁ := short.mono (server.demoTurns_cons_calls id content rest w)
    by_cases hcontent : content = ""
    · -- The server refuses the message, the demo reports this and goes on.
      subst hcontent
      obtain ⟨w₁, v₁, url, code, hsend, h₁, opened₁⟩ := serves.sendMessage_empty h opened short₁
      rw [Server.demoTurns_of_refused hsend] at short ⊢
      obtain ⟨turns, w', v', new, hturns, h', opened', husers, hbots, hnew⟩ :=
        ih (h₁.beside (.logging w₁ _)) opened₁ short
      refine ⟨turns, w', v', new, hturns, h', opened', ?_, hbots, ?_⟩
      · rw [husers, List.filter_cons_of_neg (by simp)]
      · rw [hnew, List.filter_cons_of_neg (by simp)]
    · -- The server takes the message, and the demo notes the turn and the time.
      obtain ⟨w₁, v₁, m, hsend, h₁, hrecord, opened₁⟩ :=
        serves.sendMessage_eq h opened hid short₁ hcontent
      rw [Server.demoTurns_of_taken hsend] at short ⊢
      have hbeside : w₁.Beside (Effect.nowSeconds server.supply w₁).2 := .draw server.supply.time w₁
      obtain ⟨turns, w', v', new, hturns, h', opened', husers, hbots, hnew⟩ :=
        ih (h₁.beside hbeside) opened₁ short
      rw [hturns]
      refine ⟨_, w', v', m :: new, rfl, h', ?_, ?_, ?_, ?_⟩
      · rw [List.append_assoc] at opened'
        exact opened'
      · rw [List.map_cons, husers, List.filter_cons_of_pos (by simpa using hcontent)]
      · exact List.forall_mem_cons.mpr ⟨rfl, hbots⟩
      · rw [List.map_cons, hnew, hrecord, List.filter_cons_of_pos (by simpa using hcontent)]
        rfl

/-- A new session takes no announcement, so that the demo begins at once. -/
theorem playDemo_eq {old : Store} {id : String} (hid : id ≠ "") (h : peer.At w v)
    (opened : old.Opened id [] v.store) (short : peer.Short (server.playDemo id none w).2.calls) :
    ∃ turns w' v' messages,
      server.playDemo id none w =
        (.ok (DemoResult.shape.toJson ⟨"demo_completed", some id, turns, turns.length⟩), w') ∧
      peer.At w' v' ∧ old.Opened id messages v'.store ∧
      turns.map DemoTurn.user = server.fixtures.demo.messages.filter (· ≠ "") ∧
      (∀ turn ∈ turns, turn.bot = none) ∧
      messages.map Message.record
        = (server.fixtures.demo.messages.filter (· ≠ "")).map (Wire.posted id) := by
  have hstart : w.Beside (server.announced id none w) := .logging w _
  rw [Server.playDemo_eq, Server.told_calls] at short
  obtain ⟨turns, w', v', messages, hturns, h', opened', hrest⟩ :=
    serves.demoTurns_eq hid (h.beside hstart) opened short
  have hdemo : server.playDemo id none w = Server.told id (.ok turns, w') := by
    rw [Server.playDemo_eq, hturns]
  exact ⟨turns, _, v', messages, hdemo, h'.beside (.logging w' _), opened', hrest⟩

/-- The demo opens a session of the server, and plays in it. -/
theorem chatDemo_eq (named : ∀ n, peer.server.supply.id n ≠ "") (h : peer.At w v)
    (sound : v.store.Sound) (fresh : v.Fresh peer.server.supply)
    (short : peer.Short (server.chatDemo w).2.calls) :
    ∃ id turns w' v' messages,
      server.chatDemo w =
        (.ok (DemoResult.shape.toJson ⟨"demo_completed", some id, turns, turns.length⟩), w') ∧
      peer.At w' v' ∧ v.store.get? id = none ∧ v.store.Opened id messages v'.store ∧
      turns.map DemoTurn.user = server.fixtures.demo.messages.filter (· ≠ "") ∧
      (∀ turn ∈ turns, turn.bot = none) ∧
      messages.map Message.record
        = (server.fixtures.demo.messages.filter (· ≠ "")).map (Wire.posted id) := by
  obtain ⟨n, w₁, v₁, hcreate, h₁, hnone, opened⟩ := serves.createSession_eq h sound fresh
  have hpresent : present (some (peer.server.supply.id n)) = some (peer.server.supply.id n) := by
    -- The session has an id that is not empty, so the demo is played in it.
    simp [present, named n]
  have hplay : server.chatDemo w = server.playDemo (peer.server.supply.id n) none w₁ := by
    rw [Server.chatDemo, Effect.bind_apply, hcreate]
    dsimp only
    rw [hpresent]
  rw [hplay] at short ⊢
  obtain ⟨turns, w', v', messages, hdemo, h', opened', hrest⟩ :=
    serves.playDemo_eq (named n) h₁ opened short
  exact ⟨_, turns, w', v', messages, hdemo, h', hnone, opened', hrest⟩

end Peer.Serves

/-! ### What the server holds -/

namespace Store.Opened

variable {old store : Store} {id : String} {messages : List Message} {sent : List String}

/-- What a server holds of the messages that were sent: as many as there are, the last of them, and
    all of them in order. -/
theorem holds_sent (h : old.Opened id messages store)
    (hsent : messages.map Message.record = sent.map (Wire.posted id)) :
    ∃ s, store.sessions = old.sessions ++ [s] ∧ s.id = id ∧ s.messageCount = sent.length ∧
      s.lastMessage = sent.getLast?.getD "" ∧ store.history id = .ok messages := by
  obtain ⟨time, s, hs, hfollows⟩ := h.sessions_eq
  have hget : store.get? id = some s :=
    h.sound.get?_eq_some_iff.mpr ⟨by simp [hs], hfollows.id_eq⟩
  have hlength : messages.length = sent.length := by
    simpa using congrArg List.length hsent
  -- The records say the contents, and so the history says what was sent.
  have hcontent : messages.map Message.content = sent := by
    have := congrArg (List.map fun body : AddMessage => body.content.getD "") hsent
    simpa [Function.comp_def, Message.record, Wire.posted] using this
  refine ⟨s, hs, hfollows.id_eq, ?_, ?_, ?_⟩
  · rw [hfollows.messageCount_eq, hlength]
    exact Nat.zero_add _
  · rw [hfollows.lastMessage_eq, ← hcontent, List.getLast?_map]
    rfl
  · rw [h.sound.history_of_get? hget, h.historyOf_eq, if_pos rfl]

/-- Nothing has happened to the sessions that were there before. -/
theorem history_old (h : old.Opened id messages store) (sound : old.Sound)
    (hid : old.get? id = none) {s : Session} (hs : s ∈ old.sessions) :
    store.history s.id = old.history s.id := by
  obtain ⟨time, new, hnew, -⟩ := h.sessions_eq
  have hold := sound.get?_eq_some_iff.mpr ⟨hs, rfl⟩
  have hget := h.sound.get?_eq_some_iff.mpr ⟨hnew ▸ List.mem_append_left [new] hs, rfl⟩
  have hne : s.id ≠ id := by
    intro heq
    rw [heq, hid] at hold
    cases hold
  rw [h.sound.history_of_get? hget, sound.history_of_get? hold, h.historyOf_eq, if_neg hne]

end Store.Opened

/-- **The demo agrees with the server that it talks to.** Let the platform of a server be another
server, under an address with any number of slashes at its end, in any reachable world. Then the
demo is completed: its conversation is the script without empty messages, and the other server has
one more session, the last one, which holds the same messages and is the one that the answer names;
its older sessions and their histories are as they were.

Requests, calls and answers come as they were sent, and the calls are short enough for a body. By
`Trace.isReadable_of_complete` such a request can be read, and by `Server.Reachable.fresh` a
reachable world has fresh ids if ids are new; none of them is empty. -/
theorem Server.demo_agrees {server : Server} {w : World} {peer : Peer} (past : peer.past = w.calls)
    (reachable : peer.server.Reachable peer.start) (fresh : peer.start.Fresh peer.server.supply)
    (named : ∀ n, peer.server.supply.id n ≠ "")
    (delivers : ∀ call : Call, call.Delivers (peer.deliver call))
    {scheme authority : String} (origin : Url.Origin scheme authority) (slashes : Nat)
    (client : server.client = .ofAddress peer.platform
      (scheme ++ "://" ++ authority ++ "/api/v1" ++ String.ofList (List.replicate slashes '/')))
    {request : Request} (method_eq : request.method = .post)
    (path_eq : request.target.path = "/chat/demo")
    (readable : Trace.isReadable request.headers request.body = true)
    (short : peer.Short (server.handle request w).2.calls) :
    let result := server.handle request w
    let sent := server.fixtures.demo.messages.filter (· ≠ "")
    result.1.status = 200 ∧ ∃ id turns calls,
      result.1.body.bytes =
        (DemoResult.shape.toJson ⟨"demo_completed", some id, turns, turns.length⟩).print ∧
      turns.map DemoTurn.user = sent ∧ (∀ turn ∈ turns, turn.bot = none) ∧
      result.2.calls = w.calls ++ calls ∧ id ∉ peer.start.store.ids ∧
      ∃ s history, (peer.after calls).store.sessions = peer.start.store.sessions ++ [s] ∧
        s.id = id ∧ s.messageCount = turns.length ∧ s.lastMessage = sent.getLast?.getD "" ∧
        (peer.after calls).store.history id = .ok history ∧
        history.map Message.record = sent.map (Wire.posted id) ∧
        ∀ old ∈ peer.start.store.sessions,
          (peer.after calls).store.history old.id = peer.start.store.history old.id := by
  dsimp only
  have serves : peer.Serves server.client := client ▸ Peer.serves_ofAddress origin delivers slashes
  obtain ⟨passed, w₁, hsame, hw₁, hstatus, hbytes, hw'⟩ :=
    server.exists_passes readable (by simp [method_eq]) w
  have goes : request.GoesTo .chatDemo .write := ⟨⟨trivial, path_eq⟩, method_eq, rfl⟩
  have hroute : server.route passed = server.chatDemo.respond :=
    route_of_goesTo (goes.of_same hsame)
  -- The server has answered nothing yet, and is where it was at the start.
  have hstart : peer.At w₁ peer.start :=
    ⟨[], by rw [hw₁.calls_eq, past, List.append_nil], rfl⟩
  have hshort : peer.Short (server.chatDemo w₁).2.calls := by
    rw [hw'.calls_eq, hroute] at short
    exact short.mono (Handler.respond_calls server.chatDemo w₁)
  obtain ⟨id, turns, w₂, v₂, history, hdemo, h₂, hnone, opened, husers, hbots, hhistory⟩ :=
    serves.chatDemo_eq named hstart reachable.sound fresh hshort
  have hrespond : Handler.respond server.chatDemo w₁ =
      (.json 200 (DemoResult.shape.toJson
        ⟨"demo_completed", some id, turns, turns.length⟩), w₂) := by
    rw [Handler.respond, Effect.bind_apply, hdemo]
    rfl
  rw [hroute, hrespond] at hstatus hbytes hw'
  obtain ⟨calls, hcalls, rfl⟩ := h₂.beside hw'
  obtain ⟨s, hsessions, hid, hcount, hlast, hhistory'⟩ := opened.holds_sent hhistory
  have hturns : turns.length = (server.fixtures.demo.messages.filter (· ≠ "")).length := by
    rw [← husers, List.length_map]
  refine ⟨hstatus, id, turns, calls, (hbytes (by simp [method_eq])).trans (Body.bytes_full _),
    husers, hbots, past ▸ hcalls, reachable.sound.get?_eq_none_iff_ids.mp hnone, s, history,
    hsessions, hid, hcount.trans hturns.symm, hlast, hhistory', hhistory, fun old hold => ?_⟩
  exact opened.history_old reachable.sound hnone hold

/-! ### Two small servers -/

namespace Server

/-- The small server as a platform. -/
def samplePeer : Peer := ⟨sample, Call.request, [], sample.initial⟩

/-- The small server with another one as its platform. -/
def sampleCaller : Server :=
  { sample with
    client := .ofAddress samplePeer.platform
      ("http" ++ "://" ++ "127.0.0.1:8081" ++ "/api/v1" ++ String.ofList (List.replicate 2 '/')) }

/-- A request for the demo. -/
def sampleDemo : Request := ⟨.post, ⟨"/chat/demo"⟩, [], .empty⟩

/-- The demo of the small server sends two of its three messages. -/
theorem demo_agrees_sample :
    sample.Reachable sample.initial ∧ sample.initial.Fresh sample.supply ∧
      Url.Origin "http" "127.0.0.1:8081" ∧
      samplePeer.Short (sampleCaller.handle sampleDemo sampleCaller.initial).2.calls ∧
      (sampleCaller.handle sampleDemo sampleCaller.initial).1.status = 200 ∧
      ∃ calls s, (samplePeer.after calls).store.sessions = sample.initial.store.sessions ++ [s] ∧
        s.lastMessage = "two" := by
  have fresh := Reachable.initial.fresh sample_new
  have named : ∀ n, sample.supply.id n ≠ "" := by
    intro n h
    simpa [sample, Supply.strokes] using congrArg String.toList h
  have origin : Url.Origin "http" "127.0.0.1:8081" := by decide +kernel
  have short : samplePeer.Short (sampleCaller.handle sampleDemo sampleCaller.initial).2.calls := by
    decide +kernel
  obtain ⟨hstatus, -, -, calls, -, -, -, -, -, s, -, hsessions, -, -, hlast, -⟩ :=
    @demo_agrees sampleCaller sampleCaller.initial samplePeer rfl .initial fresh named
      Call.delivers_request _ _ origin 2 rfl sampleDemo rfl rfl (by decide +kernel) short
  exact ⟨.initial, fresh, origin, short, hstatus, calls, s, hsessions, hlast⟩

end Server

end DialogStub
