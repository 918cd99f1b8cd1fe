import DialogStub.Chat.Store
import DialogStub.Log
import DialogStub.Url.Basic

/-!
# What a server changes

* `World` — the store, the calls that went out, the log, and how many fresh values were drawn;
* `Effect` — a computation on a world;
* `Supply` — where fresh ids and times come from;
* `Effect.report`, `Effect.newId`, `Effect.now` — one event, one fresh id, the time;
* `Effect.createSession`, `Effect.appendMessage` — the changes of the store, with their events.

The world is all that one request can hand on to the next.
-/

namespace DialogStub

/-- A request to the platform. -/
structure Call where
  method : String
  url : Url
  body : Option Bytes
  deriving DecidableEq, Repr

/-- All that requests change. -/
structure World where
  store : Store
  /-- Calls to the platform, oldest first. -/
  calls : List Call
  /-- The log, oldest first. -/
  events : List Event
  /-- The number of fresh values that were drawn. -/
  drawn : Nat
  deriving DecidableEq

/-- A computation that may change the world. -/
abbrev Effect := StateM World

/-- Where fresh values come from: the `n`th value drawn is `id n` or `time n`. -/
structure Supply where
  id : Nat → String
  time : Nat → Timestamp

namespace World

/-- The world with a store and nothing else. -/
def ofStore (store : Store) : World := ⟨store, [], [], 0⟩

end World

namespace Effect

/-- Reports an event. -/
def report (level : Level) (text : String) (fields : List (String × String)) : Effect Unit :=
  modify fun w => { w with events := w.events ++ [⟨level, text, fields⟩] }

/-- Draws a fresh value. -/
def draw {α : Type} (values : Nat → α) : Effect α :=
  modifyGet fun w => (values w.drawn, { w with drawn := w.drawn + 1 })

/-- A fresh id. -/
def newId (supply : Supply) : Effect String :=
  draw supply.id

/-- The time. -/
def now (supply : Supply) : Effect Timestamp :=
  draw supply.time

/-- The time in milliseconds since the Unix epoch. -/
def nowMillis (supply : Supply) : Effect Int := do
  return (← now supply).unixMillis

/-- The time in seconds since the Unix epoch. -/
def nowSeconds (supply : Supply) : Effect Int := do
  return (← now supply).unixSeconds

/-- What a function says of the store. -/
def ofStore {α : Type} (f : Store → α) : Effect α := do
  return f (← get).store

/-- Adds a session under a fresh id. -/
def createSession (supply : Supply) : Effect Session := do
  let id ← newId supply
  let time ← now supply
  let session ← modifyGet fun w =>
    let (session, store) := w.store.create id time
    (session, { w with store := store })
  report .debug "session created" [("session_id", session.id)]
  return session

/-- Adds a message to its session under a fresh id. Nothing is drawn for an unknown session. -/
def appendMessage (supply : Supply) (sessionId content : String) (type : MessageType)
    (intent : Option String) : Effect (Except StoreError Message) := do
  match ← ofStore (·.find? sessionId) with
  | none => return .error (.sessionNotFound sessionId)
  | some _ =>
    let id ← newId supply
    let time ← now supply
    let message : Message := ⟨id, sessionId, type, content, intent, time⟩
    -- Sessions never go away, so the one that was found is still there.
    match ← ofStore (·.append message) with
    | .error fault => return .error fault
    | .ok store =>
      modify fun w => { w with store := store }
      report .debug "message appended" [("session_id", sessionId), ("message_id", id)]
      return .ok message

end Effect

end DialogStub
