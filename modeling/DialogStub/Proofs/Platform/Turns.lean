import DialogStub.Api.External
import DialogStub.Proofs.World

/-!
# The demo, one message at a time

* `Server.demoTurns_of_taken`, `Server.demoTurns_of_refused`, `Server.demoTurns_of_lost` — how the
  script goes on behind a message, for each way in which the call for it can end;
* `Server.playDemo_eq` — the demo is its script behind the announcement, and what is told of it.
-/

namespace DialogStub

open Json

namespace Server

/-- A call that failed is told as an error, and in the log. -/
theorem callFailed_eq (what : String) (e : PlatformError) (w : World) :
    callFailed what e w = (.platform (what ++ (": " ++ e.message)),
      w.logging [⟨.error, what, [("error", e.message)]⟩]) := by
  rw [← String.append_assoc]
  rfl

variable {server : Server} {id content : String} {w w₁ : World}

/-! ### Scripts -/

/-- A message that is taken becomes the first turn, with the time at which it came back. -/
theorem demoTurns_of_taken {turn : BotTurn}
    (h : server.client.sendMessage id content w = (.ok turn, w₁)) (rest : List String) :
    server.demoTurns id (content :: rest) w =
      ((server.demoTurns id rest (Effect.nowSeconds server.supply w₁).2).1.map
          (⟨content, turn.botResponse, (Effect.nowSeconds server.supply w₁).1⟩ :: ·),
        (server.demoTurns id rest (Effect.nowSeconds server.supply w₁).2).2) := by
  rw [demoTurns, Effect.bind_apply, h]
  dsimp only
  rw [Effect.bind_apply, Effect.bind_apply]
  generalize server.demoTurns id rest _ = result
  obtain ⟨answer, w₂⟩ := result
  cases answer <;> rfl

/-- A message that is refused is reported and passed over. -/
theorem demoTurns_of_refused {url : String} {code : Nat}
    (h : server.client.sendMessage id content w = (.error (.status url code), w₁))
    (rest : List String) :
    server.demoTurns id (content :: rest) w =
      server.demoTurns id rest (w₁.logging [⟨.warn, "demo message rejected",
        [("error", (PlatformError.status url code).message), ("message", content)]⟩]) := by
  rw [demoTurns, Effect.bind_apply, h]
  rfl

/-- A message that is lost ends the demo. -/
theorem demoTurns_of_lost {url : String} {fault : CallFault}
    (h : server.client.sendMessage id content w = (.error (.request url fault), w₁))
    (rest : List String) :
    server.demoTurns id (content :: rest) w =
      (.error (.platform (notSent ++ (": " ++ (PlatformError.request url fault).message))),
        w₁.logging [⟨.error, notSent,
          [("error", (PlatformError.request url fault).message)]⟩]) := by
  rw [demoTurns, Effect.bind_apply, h]
  dsimp only
  rw [Effect.bind_apply, callFailed_eq]
  rfl

/-! ### The demo -/

/-- The world in which the script begins: behind the announcement, if there is one. -/
def announced (server : Server) (id : String) (nodeType : Option String) (w : World) : World :=
  let begun := w.logging [⟨.info, "demo conversation started", [("session_id", id)]⟩]
  if nodeType = some "announce" then (server.skipAnnouncement id begun).2 else begun

/-- What is told of the turns of a demo. -/
def told (id : String) :
    Except ApiError (List DemoTurn) × World → Except ApiError Json × World
  | (.error e, w) => (.error e, w)
  | (.ok turns, w) =>
    (.ok (DemoResult.shape.toJson ⟨"demo_completed", some id, turns, turns.length⟩),
      w.logging [⟨.info, "demo conversation completed",
        [("session_id", id), ("turns", toString turns.length)]⟩])

/-- Telling how a demo ended makes no call. -/
theorem told_calls (id : String) (result : Except ApiError (List DemoTurn) × World) :
    (told id result).2.calls = result.2.calls := by
  obtain ⟨answer, w⟩ := result
  cases answer <;> rfl

/-- **The demo** plays its script behind the announcement, and tells of its turns. -/
theorem playDemo_eq (id : String) (nodeType : Option String) (w : World) :
    server.playDemo id nodeType w = told id
      (server.demoTurns id server.fixtures.demo.messages (server.announced id nodeType w)) := by
  have hbegun : (Effect.report .info "demo conversation started" [("session_id", id)] w).2 =
      w.logging [⟨.info, "demo conversation started", [("session_id", id)]⟩] := rfl
  -- Whatever the script ends with is told at its end.
  have hrest {tell : Except ApiError (List DemoTurn) → Handler}
      (htell : ∀ answer w₂, tell answer w₂ = told id (answer, w₂)) (w₂ : World) :
      (server.demoTurns id server.fixtures.demo.messages >>= tell) w₂ =
        told id (server.demoTurns id server.fixtures.demo.messages w₂) :=
    htell _ _
  rw [playDemo, Effect.bind_apply, hbegun, announced]
  by_cases hannounce : nodeType = some "announce"
  · rw [if_pos hannounce, if_pos hannounce, Effect.bind_apply]
    exact hrest (fun answer _ => by cases answer <;> rfl) _
  · rw [if_neg hannounce, if_neg hannounce]
    exact hrest (fun answer _ => by cases answer <;> rfl) _

end Server

end DialogStub
