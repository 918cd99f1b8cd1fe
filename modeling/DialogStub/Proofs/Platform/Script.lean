import DialogStub.Proofs.Api.Routing
import DialogStub.Proofs.Platform.Client
import DialogStub.Proofs.Platform.Turns
import DialogStub.Proofs.Platform.Wire

/-!
# The demo against any platform

* `Platform.outcomes` — how each of a list of calls ends, if all of them are made;
* `Server.demoTurns_run` — the messages of a script are sent up to the first one that is lost, and
  those that are taken become turns;
* `Server.DemoRun` — what a demo does: its calls, and its answer;
* `Server.demo_runs` — a request for a demo does this.

A platform may answer as it likes, and what it answers may depend on all calls so far. The induction
is on the script, for any calls before it.
-/

namespace DialogStub

open Http Json

/-! ### Outcomes -/

namespace Platform

variable {α : Type} (platform : Platform) (shape : Shape α)

/-- How each of the calls ends, if they are made one after the other behind `before`. -/
def outcomes (before calls : List Call) : List (Outcome α) :=
  calls.inits.tail.map fun made => (platform (before ++ made)).outcome shape

/-- The first call has its outcome, and the others see that it was made. -/
theorem outcomes_cons (before : List Call) (call : Call) (rest : List Call) :
    platform.outcomes shape before (call :: rest) =
      (platform (before ++ [call])).outcome shape ::
        platform.outcomes shape (before ++ [call]) rest := by
  have hinits : (call :: rest).inits.tail = [call] :: rest.inits.tail.map (call :: ·) := by
    cases rest with
    | nil => rfl
    | cons next rest => simp
  rw [outcomes, hinits, List.map_cons, List.map_map, outcomes]
  congr 1
  refine List.map_congr_left fun made _ => ?_
  simp

/-- Each call has one outcome. -/
@[simp] theorem length_outcomes (before calls : List Call) :
    (platform.outcomes shape before calls).length = calls.length := by
  induction calls generalizing before with
  | nil => rfl
  | cons call rest ih => rw [outcomes_cons, List.length_cons, List.length_cons, ih]

end Platform

/-! ### Scripts -/

/-- What is said in a turn of the demo, without its time. -/
def DemoTurn.said (turn : DemoTurn) : String × Option String :=
  (turn.user, turn.bot)

/-- The messages of a script that are taken, each with its answer. -/
def saidIn (script : List String) (outcomes : List (Outcome BotTurn)) :
    List (String × Option String) :=
  (script.zip outcomes).filterMap fun (content, outcome) =>
    outcome.answer?.map fun turn => (content, turn.botResponse)

namespace Server

/-- The call for one message. -/
def sending (u : Url) (id content : String) : Call :=
  .post u (Wire.messageBody id content)

variable (server : Server)

/-- The calls of a script, up to the first one that is lost. -/
def sentCalls (before calls : List Call) : List Call :=
  calls.take ((server.client.platform.outcomes BotTurn.shape before calls).findIdx
    Outcome.isLost + 1)

/-- Behind a call that is not lost the script goes on. -/
theorem sentCalls_of_not_lost {before : List Call} {call : Call}
    (h : ((server.client.platform (before ++ [call])).outcome BotTurn.shape).isLost = false)
    (rest : List Call) :
    server.sentCalls before (call :: rest) = call :: server.sentCalls (before ++ [call]) rest := by
  rw [sentCalls, Platform.outcomes_cons, List.findIdx_cons, h]
  rfl

/-- Behind a call that is lost there is none. -/
theorem sentCalls_of_lost {before : List Call} {call : Call}
    (h : ((server.client.platform (before ++ [call])).outcome BotTurn.shape).isLost = true)
    (rest : List Call) : server.sentCalls before (call :: rest) = [call] := by
  rw [sentCalls, Platform.outcomes_cons, List.findIdx_cons, h]
  rfl

/-- What the turns of a demo do: the calls are made up to the first one that is lost, which ends the
    demo; without such a call, the turns are the messages that are taken. -/
structure TurnsRun (before calls : List Call) (script : List String)
    (result : Except ApiError (List DemoTurn)) (after : List Call) : Prop where
  calls_eq : after = before ++ server.sentCalls before calls
  aborted : (∃ outcome ∈ server.client.platform.outcomes BotTurn.shape before calls,
      outcome.isLost = true) → ∃ detail, result = .error (.platform (notSent ++ detail))
  finished : (∀ outcome ∈ server.client.platform.outcomes BotTurn.shape before calls,
      outcome.isLost = false) → ∃ turns, result = .ok turns ∧ turns.map DemoTurn.said =
        saidIn script (server.client.platform.outcomes BotTurn.shape before calls)

namespace TurnsRun

variable {server} {before calls after : List Call} {call : Call} {content : String}
  {script : List String} {result : Except ApiError (List DemoTurn)}

/-- A message that is taken becomes the first turn. -/
theorem taken {turn : BotTurn} (time : Int)
    (houtcome : (server.client.platform (before ++ [call])).outcome BotTurn.shape = .taken turn)
    (h : server.TurnsRun (before ++ [call]) calls script result after) :
    server.TurnsRun before (call :: calls) (content :: script)
      (result.map (⟨content, turn.botResponse, time⟩ :: ·)) after := by
  obtain ⟨hcalls, haborted, hfinished⟩ := h
  refine ⟨?_, ?_, ?_⟩
  · have hkept : (Outcome.taken turn).isLost = false := rfl
    rw [hcalls, sentCalls_of_not_lost _ (houtcome ▸ hkept), List.append_assoc]
    rfl
  · -- The call was taken, so a lost one is among the others.
    rw [Platform.outcomes_cons, houtcome]
    rintro ⟨outcome, hmem, hlost⟩
    rcases List.mem_cons.mp hmem with rfl | hmem
    · cases hlost
    · obtain ⟨detail, rfl⟩ := haborted ⟨outcome, hmem, hlost⟩
      exact ⟨detail, rfl⟩
  · rw [Platform.outcomes_cons, houtcome]
    intro hall
    obtain ⟨turns, rfl, hsaid⟩ := hfinished fun outcome hmem => hall outcome (.tail _ hmem)
    refine ⟨⟨content, turn.botResponse, time⟩ :: turns, rfl, ?_⟩
    rw [List.map_cons, hsaid]
    rfl

/-- A message that is refused is passed over. -/
theorem refused {status : Nat}
    (houtcome : (server.client.platform (before ++ [call])).outcome BotTurn.shape = .refused status)
    (h : server.TurnsRun (before ++ [call]) calls script result after) :
    server.TurnsRun before (call :: calls) (content :: script) result after := by
  obtain ⟨hcalls, haborted, hfinished⟩ := h
  refine ⟨?_, ?_, ?_⟩
  · have hkept : (Outcome.refused status : Outcome BotTurn).isLost = false := rfl
    rw [hcalls, sentCalls_of_not_lost _ (houtcome ▸ hkept), List.append_assoc]
    rfl
  · -- The call was refused, so a lost one is among the others.
    rw [Platform.outcomes_cons, houtcome]
    rintro ⟨outcome, hmem, hlost⟩
    rcases List.mem_cons.mp hmem with rfl | hmem
    · cases hlost
    · exact haborted ⟨outcome, hmem, hlost⟩
  · rw [Platform.outcomes_cons, houtcome]
    intro hall
    exact hfinished fun outcome hmem => hall outcome (.tail _ hmem)

/-- A message that is lost ends the demo. -/
theorem lost (detail : String)
    (houtcome : (server.client.platform (before ++ [call])).outcome BotTurn.shape = .lost) :
    server.TurnsRun before (call :: calls) (content :: script)
      (.error (.platform (notSent ++ detail))) (before ++ [call]) := by
  refine ⟨?_, fun _ => ⟨detail, rfl⟩, ?_⟩
  · have hlost : (Outcome.lost : Outcome BotTurn).isLost = true := rfl
    rw [sentCalls_of_lost _ (houtcome ▸ hlost)]
  · rw [Platform.outcomes_cons, houtcome]
    intro hall
    cases hall .lost List.mem_cons_self

end TurnsRun

variable {server} {u : Url}

/-- A message is sent, and its outcome is told. -/
theorem sendMessage_eq (h : server.client.url? "chat/messages" = some u) (id content : String)
    (w : World) :
    ∃ fault, server.client.sendMessage id content w =
      (((server.client.platform (w.calls ++ [sending u id content])).outcome BotTurn.shape).result
        (server.client.address "chat/messages") fault, w.calling (sending u id content)) :=
  Platform.Client.post_eq h BotTurn.shape (Wire.messageBody id content) w

/-- **Scripts.** By induction on the script: what comes back for its first message decides whether
    the demo goes on, and the rest goes on behind the call for it. -/
theorem demoTurns_run (h : server.client.url? "chat/messages" = some u) (id : String)
    (script : List String) (w : World) :
    server.TurnsRun w.calls (script.map (sending u id)) script (server.demoTurns id script w).1
      (server.demoTurns id script w).2.calls := by
  induction script generalizing w with
  | nil =>
    refine ⟨(List.append_nil _).symm, ?_, fun _ => ⟨[], rfl, rfl⟩⟩
    rintro ⟨outcome, hmem, -⟩
    cases hmem
  | cons content rest ih =>
    obtain ⟨fault, hsend⟩ := sendMessage_eq h id content w
    let w₁ := w.calling (sending u id content)
    -- The call is made whatever comes of it, and its outcome settles how the script goes on.
    cases houtcome : (server.client.platform
        (w.calls ++ [sending u id content])).outcome BotTurn.shape with
    | taken turn =>
      rw [houtcome, Outcome.result] at hsend
      rw [demoTurns_of_taken hsend]
      exact .taken _ houtcome (ih (Effect.nowSeconds server.supply w₁).2)
    | refused status =>
      rw [houtcome, Outcome.result] at hsend
      rw [demoTurns_of_refused hsend]
      exact .refused houtcome (ih (w₁.logging _))
    | lost =>
      rw [houtcome, Outcome.result] at hsend
      rw [demoTurns_of_lost hsend]
      exact .lost _ houtcome

/-! ### The demo as a whole -/

/-- The call for a new session. -/
def opening (u : Url) : Call :=
  .post u (.obj [])

/-- The call to go on behind an announcement, if there is one. -/
def announcementCalls (u : Url) (id : String) (nodeType : Option String) : List Call :=
  if nodeType = some "announce" then [.post u (object [("session_id", .str id)])] else []

/-- An answer that gives the demo up, with an error that begins in a certain way. -/
def GivesUp (start : String) (status : Nat) (bytes : Bytes) : Prop :=
  status = 500 ∧ ∃ detail, bytes = (ApiError.body (start ++ detail)).print

/-- An answer that tells what was said in the demo. -/
def Completes (id : String) (said : List (String × Option String)) (status : Nat) (bytes : Bytes) :
    Prop :=
  status = 200 ∧ ∃ turns, turns.map DemoTurn.said = said ∧
    bytes = (DemoResult.shape.toJson ⟨"demo_completed", some id, turns, turns.length⟩).print

end Server

/-- The id of a new session and the kind of its first node, if they come back for the call. -/
def Reply.session? (reply : Reply) : Option (String × Option String) :=
  (reply.outcome SessionStarted.shape).answer?.bind fun started =>
    (present started.sessionId).map fun id => (id, started.nodeType)

namespace Server

/-- What happens before the first message: a session is opened under an id, and an announcement is
    passed over. `opened` are the calls until then, and `messages` is the address for messages. -/
structure Opened (server : Server) (before : List Call) (id : String) (messages : Url)
    (opened : List Call) : Prop where
  messages_eq : server.client.url? "chat/messages" = some messages
  session_eq : ∃ u goOn nodeType, server.client.url? "chat/sessions" = some u ∧
    server.client.url? "chat/continue" = some goOn ∧
    (server.client.platform (before ++ [opening u])).session? = some (id, nodeType) ∧
    opened = before ++ [opening u] ++ announcementCalls goOn id nodeType

/-- The calls for all messages of the demo. -/
def demoCalls (server : Server) (messages : Url) (id : String) : List Call :=
  server.fixtures.demo.messages.map (sending messages id)

/-- How the calls for the messages of the demo end. -/
def demoOutcomes (server : Server) (messages : Url) (id : String) (opened : List Call) :
    List (Outcome BotTurn) :=
  server.client.platform.outcomes BotTurn.shape opened (server.demoCalls messages id)

/-- What a demo does: `before` and `after` are all calls before and after it, and `status` and
    `bytes` are its answer. -/
inductive DemoRun (server : Server) (before : List Call) (status : Nat) (bytes : Bytes)
    (after : List Call) : Prop where
  /-- Without an address of the web nothing is sent. -/
  | unreached (url_eq : server.client.url? "chat/sessions" = none) (after_eq : after = before)
      (answer : GivesUp noSession status bytes)
  /-- Without a session nothing is sent but the call for it. -/
  | unopened (u : Url) (url_eq : server.client.url? "chat/sessions" = some u)
      (session_eq : (server.client.platform (before ++ [opening u])).session? = none)
      (after_eq : after = before ++ [opening u]) (answer : GivesUp noSession status bytes)
  /-- A message that is lost is the last call. -/
  | aborted (id : String) (messages : Url) (opened : List Call)
      (opens : server.Opened before id messages opened)
      (lost : ∃ outcome ∈ server.demoOutcomes messages id opened, outcome.isLost = true)
      (after_eq : after = opened ++ server.sentCalls opened (server.demoCalls messages id))
      (answer : GivesUp notSent status bytes)
  /-- All messages are sent, and those that are taken are told. -/
  | completed (id : String) (messages : Url) (opened : List Call)
      (opens : server.Opened before id messages opened)
      (kept : ∀ outcome ∈ server.demoOutcomes messages id opened, outcome.isLost = false)
      (after_eq : after = opened ++ server.demoCalls messages id)
      (answer : Completes id (saidIn server.fixtures.demo.messages
        (server.demoOutcomes messages id opened)) status bytes)

variable {server : Server} {u : Url}

/-- Without a call that is lost all of them are made. -/
theorem sentCalls_eq_self {before calls : List Call}
    (h : ∀ outcome ∈ server.client.platform.outcomes BotTurn.shape before calls,
      outcome.isLost = false) : server.sentCalls before calls = calls := by
  rw [sentCalls, List.findIdx_eq_length.mpr h, Platform.length_outcomes,
    List.take_of_length_le (Nat.le_succ _)]

/-- A handler that gives up is answered so. -/
theorem respond_gives_up {handler : Handler} {start detail : String} {w w' : World}
    (h : handler w = (.error (.platform (start ++ detail)), w')) :
    GivesUp start (Handler.respond handler w).1.status (Handler.respond handler w).1.body.bytes ∧
      (Handler.respond handler w).2.calls = w'.calls := by
  obtain ⟨w₂, hrespond, hbeside⟩ := Handler.respond_of_error h
  rw [hrespond]
  exact ⟨⟨rfl, detail, Body.bytes_full _⟩, hbeside.calls_eq⟩

/-- Going on behind an announcement is one call, whatever comes back. -/
theorem skipAnnouncement_calls (h : server.client.url? "chat/continue" = some u) (id : String)
    (w : World) :
    (server.skipAnnouncement id w).2.calls =
      w.calls ++ [.post u (object [("session_id", .str id)])] := by
  obtain ⟨fault, hpost⟩ := Platform.Client.post_eq h BotTurn.shape
    (object [("session_id", .str id)]) w
  have hcontinue : server.client.continueSession id w = _ := hpost
  rw [skipAnnouncement, Effect.bind_apply, hcontinue]
  generalize Outcome.result _ fault _ = result
  cases result <;> rfl

/-- The script begins behind the call for the announcement, if there is one. -/
theorem announced_calls (h : server.client.url? "chat/continue" = some u) (id : String)
    (nodeType : Option String) (w : World) :
    (server.announced id nodeType w).calls = w.calls ++ announcementCalls u id nodeType := by
  rw [announced, announcementCalls]
  by_cases hannounce : nodeType = some "announce"
  · rw [if_pos hannounce, if_pos hannounce, skipAnnouncement_calls h]
    rfl
  · rw [if_neg hannounce, if_neg hannounce, List.append_nil]
    rfl

/-- A call for a new session that brings none is reported, and the demo is given up. -/
theorem chatDemo_of_error {e : PlatformError} {w w' : World}
    (h : server.client.createSession w = (.error e, w')) :
    server.chatDemo w = (.error (.platform (noSession ++ (": " ++ e.message))),
      w'.logging [⟨.error, noSession, [("error", e.message)]⟩]) := by
  rw [chatDemo, Effect.bind_apply, h]
  dsimp only
  rw [Effect.bind_apply, callFailed_eq]
  rfl

/-- Without a session nothing more is sent. -/
theorem chatDemo_unopened (h : server.client.url? "chat/sessions" = some u) {w : World}
    (hsession : (server.client.platform (w.calls ++ [opening u])).session? = none) :
    ∃ detail w', server.chatDemo w = (.error (.platform (noSession ++ detail)), w') ∧
      w'.calls = w.calls ++ [opening u] := by
  obtain ⟨fault, hpost⟩ := Platform.Client.post_eq h SessionStarted.shape (.obj []) w
  have hcreate : server.client.createSession w =
    (((server.client.platform (w.calls ++ [opening u])).outcome SessionStarted.shape).result
      (server.client.address "chat/sessions") fault, w.calling (opening u)) := hpost
  unfold Reply.session? at hsession
  cases houtcome : (server.client.platform (w.calls ++ [opening u])).outcome
      SessionStarted.shape with
  | taken started =>
    rw [houtcome] at hcreate hsession
    -- A session without an id, or with an empty one, cannot be used.
    have habsent : present started.sessionId = none := Option.map_eq_none_iff.mp hsession
    rw [chatDemo, Effect.bind_apply, hcreate]
    dsimp only [Outcome.result]
    rw [habsent]
    exact ⟨": no session_id in platform response", _, rfl, rfl⟩
  | refused status =>
    rw [houtcome] at hcreate
    exact ⟨_, _, chatDemo_of_error hcreate, rfl⟩
  | lost =>
    rw [houtcome] at hcreate
    exact ⟨_, _, chatDemo_of_error hcreate, rfl⟩

/-- With a session the demo is played in it. -/
theorem chatDemo_opened (h : server.client.url? "chat/sessions" = some u) {w : World} {id : String}
    {nodeType : Option String}
    (hsession : (server.client.platform (w.calls ++ [opening u])).session? = some (id, nodeType)) :
    server.chatDemo w = server.playDemo id nodeType (w.calling (opening u)) := by
  obtain ⟨fault, hpost⟩ := Platform.Client.post_eq h SessionStarted.shape (.obj []) w
  have hcreate : server.client.createSession w =
    (((server.client.platform (w.calls ++ [opening u])).outcome SessionStarted.shape).result
      (server.client.address "chat/sessions") fault, w.calling (opening u)) := hpost
  obtain ⟨started, hanswer, hid⟩ := Option.bind_eq_some_iff.mp hsession
  obtain ⟨id', hpresent, heq⟩ := Option.map_eq_some_iff.mp hid
  obtain ⟨rfl, rfl⟩ := Prod.mk.inj heq
  -- The session was given by an answer, so the call was taken.
  cases houtcome : (server.client.platform (w.calls ++ [opening u])).outcome
      SessionStarted.shape with
  | taken answer =>
    rw [houtcome] at hcreate hanswer
    obtain rfl := Option.some.inj hanswer
    rw [chatDemo, Effect.bind_apply, hcreate]
    dsimp only [Outcome.result]
    rw [hpresent]
  | refused status => rw [houtcome] at hanswer; cases hanswer
  | lost => rw [houtcome] at hanswer; cases hanswer

/-- What the turns do, and what is told of them, is what the demo does behind its opening. -/
theorem playDemo_run {before : List Call} {id : String} {messages goOn : Url}
    {nodeType : Option String} {opened : List Call} {w : World}
    (opens : server.Opened before id messages opened)
    (hgoOn : server.client.url? "chat/continue" = some goOn)
    (hopened : opened = w.calls ++ announcementCalls goOn id nodeType) :
    server.DemoRun before (Handler.respond (server.playDemo id nodeType) w).1.status
      (Handler.respond (server.playDemo id nodeType) w).1.body.bytes
      (Handler.respond (server.playDemo id nodeType) w).2.calls := by
  have hplay : server.playDemo id nodeType w = _ := playDemo_eq id nodeType w
  obtain ⟨hcalls, haborted, hfinished⟩ :=
    demoTurns_run opens.messages_eq id server.fixtures.demo.messages
      (server.announced id nodeType w)
  rw [announced_calls hgoOn, ← hopened] at hcalls haborted hfinished
  generalize server.demoTurns id server.fixtures.demo.messages _ = result
    at hplay hcalls haborted hfinished
  -- A lost message ends the demo, and else all messages are sent.
  obtain ⟨answer, w₂⟩ := result
  by_cases hlost : ∃ outcome ∈ server.demoOutcomes messages id opened, outcome.isLost = true
  · obtain ⟨detail, rfl⟩ := haborted hlost
    obtain ⟨hanswer, hafter⟩ := respond_gives_up hplay
    exact .aborted id messages opened opens hlost (hafter.trans hcalls) hanswer
  · have hkept : ∀ outcome ∈ server.demoOutcomes messages id opened, outcome.isLost = false := by
      intro outcome hmem
      by_contra hne
      exact hlost ⟨outcome, hmem, eq_true_of_ne_false hne⟩
    obtain ⟨turns, rfl, hsaid⟩ := hfinished hkept
    rw [Handler.respond_of_ok hplay]
    have hall : server.sentCalls opened (server.demoCalls messages id) =
        server.demoCalls messages id := sentCalls_eq_self hkept
    exact .completed id messages opened opens hkept (hcalls.trans (congrArg (opened ++ ·) hall))
      ⟨rfl, turns, hsaid, Body.bytes_full _⟩

/-- **The demo.** It does nothing without an address of the web, one call without a session, and
    plays its script otherwise. -/
theorem chatDemo_run (w : World) :
    server.DemoRun w.calls (Handler.respond server.chatDemo w).1.status
      (Handler.respond server.chatDemo w).1.body.bytes
      (Handler.respond server.chatDemo w).2.calls := by
  cases hurl : server.client.url? "chat/sessions" with
  | none =>
    obtain ⟨fault, hpost⟩ :=
      Platform.Client.post_of_no_url hurl SessionStarted.shape (.obj []) w
    obtain ⟨hanswer, hafter⟩ := respond_gives_up (chatDemo_of_error hpost)
    exact .unreached hurl hafter hanswer
  | some u =>
    cases hsession : (server.client.platform (w.calls ++ [opening u])).session? with
    | none =>
      obtain ⟨detail, w', hdemo, hw'⟩ := chatDemo_unopened hurl hsession
      obtain ⟨hanswer, hafter⟩ := respond_gives_up hdemo
      exact .unopened u hurl hsession (hafter.trans hw') hanswer
    | some session =>
      obtain ⟨id, nodeType⟩ := session
      -- All three addresses are of the web, since the first of them is.
      have hreach := Platform.Client.url?_isSome hurl
      obtain ⟨goOn, hgoOn⟩ := Option.isSome_iff_exists.mp (hreach "chat/continue" (by simp))
      obtain ⟨messages, hmessages⟩ :=
        Option.isSome_iff_exists.mp (hreach "chat/messages" (by simp))
      have hrespond : Handler.respond server.chatDemo w =
          Handler.respond (server.playDemo id nodeType) (w.calling (opening u)) := by
        rw [Handler.respond, Effect.bind_apply, chatDemo_opened hurl hsession]
        rfl
      rw [hrespond]
      exact playDemo_run ⟨hmessages, u, goOn, nodeType, hurl, hgoOn, hsession, rfl⟩ hgoOn rfl

/-- **A request for a demo** is answered as the demo ends, and makes the calls of the demo. The
    platform may answer as it likes. A request that the trace cannot read does not come to the
    demo. -/
theorem demo_runs {request : Request} (method_eq : request.method = .post)
    (path_eq : request.target.path = "/chat/demo") (w : World) :
    server.DemoRun w.calls (server.route request w).1.status
        (server.route request w).1.body.bytes (server.route request w).2.calls ∧
      (Trace.isReadable request.headers request.body = true →
        server.DemoRun w.calls (server.handle request w).1.status
          (server.handle request w).1.body.bytes (server.handle request w).2.calls) := by
  have goes : request.GoesTo .chatDemo .write := ⟨⟨trivial, path_eq⟩, method_eq, rfl⟩
  have hroute {asked : Request} (goes : asked.GoesTo .chatDemo .write) :
      server.route asked = Handler.respond server.chatDemo :=
    route_of_goesTo goes
  refine ⟨?_, fun readable => ?_⟩
  · rw [hroute goes]
    exact chatDemo_run w
  · obtain ⟨passed, w₁, hsame, hw₁, hstatus, hbytes, hw'⟩ :=
      -- The layers pass the request on, and add nothing to the body of the answer.
      server.exists_passes readable (by simp [method_eq]) w
    rw [hroute (goes.of_same hsame)] at hstatus hbytes hw'
    rw [hstatus, hbytes (by simp [method_eq]), hw'.calls_eq, ← hw₁.calls_eq]
    exact chatDemo_run w₁

/-- A platform that announces something and breaks off then, refuses the second message and loses
    the third one. -/
def moodyPlatform : Platform := fun calls =>
  match calls.length with
  | 1 => .answered 200 (Utf8.bytes "\x7b\"session_id\":\"s\",\"node_type\":\"announce\"\x7d")
  | 3 => .answered 200 (Utf8.bytes "\x7b\"bot_response\":\"hi\"\x7d")
  | 4 => .answered 422 []
  | _ => .failed

/-- The small server with this platform. -/
def sampleMoody : Server :=
  { sample with client := .ofAddress moodyPlatform "http://127.0.0.1:8081/" }

/-- All three messages are sent behind two other calls, and then the demo is given up. -/
theorem demo_runs_moody :
    let request : Request := ⟨.post, ⟨"/chat/demo"⟩, [], .empty⟩
    let result := sampleMoody.handle request sampleMoody.initial
    Trace.isReadable request.headers request.body = true ∧ result.1.status = 500 ∧
      result.2.calls.length = 5 ∧
      sampleMoody.DemoRun [] result.1.status result.1.body.bytes result.2.calls := by
  have readable : Trace.isReadable [] Body.empty = true := by decide
  have hrun :
      ((sampleMoody.handle ⟨.post, ⟨"/chat/demo"⟩, [], .empty⟩ sampleMoody.initial).1.status,
      (sampleMoody.handle ⟨.post, ⟨"/chat/demo"⟩, [], .empty⟩ sampleMoody.initial).2.calls.length)
        = (500, 5) := by decide +kernel
  obtain ⟨hstatus, hlength⟩ := Prod.mk.inj hrun
  refine ⟨readable, hstatus, hlength, ?_⟩
  exact (@demo_runs sampleMoody ⟨.post, ⟨"/chat/demo"⟩, [], .empty⟩ rfl rfl
    sampleMoody.initial).2 readable

end Server

end DialogStub
