import DialogStub.Chat.Message
import DialogStub.Chat.Session

/-!
# The session store

Sessions in the order in which they came, with a table from ids to positions beside them and a
history of messages for each session that has one.

* `Store.seeded` — a store that holds given sessions from the start;
* `Store.create`, `Store.append` — the two changes: a new session, one more message;
* `Store.get?`, `Store.sessions`, `Store.history` — what a store holds;
* `Store.total`, `Store.active` — how many sessions it holds, and how many of them go on.

Ids and times come from outside, so that every operation is a function.
-/

namespace DialogStub

/-- Sets the value of a key in a table: in its place, or behind the others if it is new. -/
def assign {α : Type} (key : String) (value : α) : List (String × α) → List (String × α)
  | [] => [(key, value)]
  | (k, v) :: rest => if k = key then (key, value) :: rest else (k, v) :: assign key value rest

/-- Sessions and their histories. -/
structure Store where
  sessions : List Session
  /-- Positions in `sessions` by id. -/
  index : List (String × Nat)
  /-- Messages by session id, oldest first; a session without messages may be absent. -/
  messages : List (String × List Message)
  deriving DecidableEq

/-- Why an operation on a store fails. -/
inductive StoreError where
  | sessionNotFound (id : String)
  deriving DecidableEq, Repr

/-- The wording of a store error. -/
def StoreError.message : StoreError → String
  | .sessionNotFound id => "session '" ++ id ++ "' not found"

namespace Store

/-- The store that holds nothing. -/
def empty : Store := ⟨[], [], []⟩

/-- Puts a session in the place of the one with its id, or at the end if there is none. -/
def upsert (store : Store) (session : Session) : Store :=
  match store.index.lookup session.id with
  | some position => { store with sessions := store.sessions.set position session }
  | none =>
    { store with
      index := assign session.id store.sessions.length store.index
      sessions := store.sessions ++ [session] }

/-- The store that holds the given sessions; of those with one id the last, at the place of
    the first. -/
def seeded (sessions : List Session) : Store :=
  sessions.foldl upsert empty

/-- Adds a session that has just begun. -/
def create (store : Store) (id : String) (time : Timestamp) : Session × Store :=
  (.fresh id time, store.upsert (.fresh id time))

/-- The position and the session of an id. -/
def find? (store : Store) (id : String) : Option (Nat × Session) :=
  match store.index.lookup id with
  | none => none
  | some position => match store.sessions[position]? with
    | none => none
    | some session => some (position, session)

/-- The session of an id. -/
def get? (store : Store) (id : String) : Option Session :=
  (store.find? id).map Prod.snd

/-- The messages under an id, none if there is no entry. -/
def historyOf (store : Store) (id : String) : List Message :=
  (store.messages.lookup id).getD []

/-- Adds a message to the history of its session and counts it there; nothing changes if the
    session is unknown. -/
def append (store : Store) (message : Message) : Except StoreError Store :=
  match store.find? message.sessionId with
  | none => .error (.sessionNotFound message.sessionId)
  | some (position, session) =>
    .ok { store with
      sessions := store.sessions.set position (session.addMessage message.content)
      messages := assign message.sessionId (store.historyOf message.sessionId ++ [message])
        store.messages }

/-- The messages of a session, oldest first. -/
def history (store : Store) (id : String) : Except StoreError (List Message) :=
  match store.index.lookup id with
  | none => .error (.sessionNotFound id)
  | some _ => .ok (store.historyOf id)

/-- The number of sessions. -/
def total (store : Store) : Nat :=
  store.sessions.length

/-- The number of sessions that go on. -/
def active (store : Store) : Nat :=
  store.sessions.countP Session.isActive

/-- What a report calls a store. -/
def summary (store : Store) : String :=
  "MemoryStore(" ++ toString store.total ++ " sessions)"

@[simp] theorem seeded_nil : seeded [] = empty := rfl

@[simp] theorem create_fst (store : Store) (id : String) (time : Timestamp) :
    (store.create id time).1 = .fresh id time := rfl

end Store

end DialogStub
