import DialogStub.Proofs.Chat.Positions
import Mathlib.Data.Fintype.Basic

/-!
# Clients side by side

Clients that each make one session and then ask for nothing but this session do not notice each
other.

* `Store.Move` — an operation with the values that are drawn for it;
* `Store.Client` — a session and what is asked of it;
* `Store.Interleaves` — the moves of all clients in one order, each client's in its own;
* `Store.view` — what a store holds under an id: the session and its history;
* `Store.perform_view`, `Store.perform_view_ne` — a move sees and changes the view of its own
  session only;
* `Store.serve_apart` — what clients are answered, and what they leave, does not depend on the
  order.

Positions in a store depend on the order of the moves, so that no two of them commute as they stand.
Views do not, and a store is made of its ids in order and of the views of all ids.
-/

namespace DialogStub

/-- A supply of one id and one time. -/
def Supply.only (id : String) (time : Timestamp) : Supply where
  id _ := id
  time _ := time

namespace Store

/-! ### Moves -/

/-- An operation with the id and the time that are drawn for it. -/
structure Move where
  operation : Operation
  id : String
  time : Timestamp
  deriving DecidableEq

namespace Move

/-- Makes a move on the store of a world. -/
def perform (move : Move) : Effect Outcome :=
  move.operation.perform (.only move.id move.time)

/-- The id of the session that a move is about: a new one, or the one that it names. -/
def session? (move : Move) : Option String :=
  match move.operation with
  | .create => some move.id
  | .append id _ _ _ => some id
  | .get id => some id
  | .messages id => some id
  | .list => none
  | .total => none
  | .active => none

end Move

/-- Makes moves, one after the other. -/
def makeMoves : List Move → Effect (List Outcome)
  | [] => return []
  | move :: moves => return (← move.perform) :: (← makeMoves moves)

/-- Moves are made one after the other. -/
theorem makeMoves_cons (move : Move) (moves : List Move) (w : World) :
    makeMoves (move :: moves) w =
      ((move.perform w).1 :: (makeMoves moves (move.perform w).2).1,
        (makeMoves moves (move.perform w).2).2) := rfl

/-! ### Clients -/

/-- A client: the id and the time that are drawn for its session, and what it asks of this session
    once it is made. -/
structure Client where
  session : String
  time : Timestamp
  requests : List Move
  asks_own : ∀ move ∈ requests, move.operation ≠ .create ∧ move.session? = some session

/-- All moves of a client. -/
def Client.moves (client : Client) : List Move :=
  ⟨.create, client.session, client.time⟩ :: client.requests

/-- All moves of a client are about its session. -/
theorem Client.session?_of_mem {client : Client} {move : Move} (h : move ∈ client.moves) :
    move.session? = some client.session := by
  rcases List.mem_cons.mp h with rfl | hrequest
  · rfl
  · exact (client.asks_own move hrequest).2

section Tagged

variable {n : Nat}

/-- What of a list is one client's. -/
def ofClient {α : Type} (i : Fin n) (tagged : List (Fin n × α)) : List α :=
  (tagged.filter (fun t => t.1 = i)).map Prod.snd

theorem ofClient_cons_self {α : Type} (i : Fin n) (a : α) (rest : List (Fin n × α)) :
    ofClient i ((i, a) :: rest) = a :: ofClient i rest := by
  simp [ofClient]

theorem ofClient_cons_ne {α : Type} {i j : Fin n} (h : j ≠ i) (a : α) (rest : List (Fin n × α)) :
    ofClient i ((j, a) :: rest) = ofClient i rest := by
  simp [ofClient, h]

theorem mem_ofClient {α : Type} {i : Fin n} {a : α} {tagged : List (Fin n × α)} :
    a ∈ ofClient i tagged ↔ (i, a) ∈ tagged := by
  simp [ofClient]

/-- Makes the moves of several clients in one order; each answer goes to the client that moved. -/
def serve : List (Fin n × Move) → Effect (List (Fin n × Outcome))
  | [] => return []
  | (i, move) :: rest => return (i, ← move.perform) :: (← serve rest)

/-- What is served is served one after the other. -/
theorem serve_cons (i : Fin n) (move : Move) (rest : List (Fin n × Move)) (w : World) :
    serve ((i, move) :: rest) w =
      ((i, (move.perform w).1) :: (serve rest (move.perform w).2).1,
        (serve rest (move.perform w).2).2) := rfl

/-- The moves of all clients in one order that keeps the order of each client's own. -/
def Interleaves (clients : Fin n → Client) (trace : List (Fin n × Move)) : Prop :=
  ∀ i, ofClient i trace = (clients i).moves

instance (clients : Fin n → Client) (trace : List (Fin n × Move)) :
    Decidable (Interleaves clients trace) :=
  inferInstanceAs (Decidable (∀ i, ofClient i trace = (clients i).moves))

/-- The clients in the order in which they make their sessions. -/
def creators (trace : List (Fin n × Move)) : List (Fin n) :=
  (trace.filter (fun t => t.2.operation = .create)).map Prod.fst

end Tagged

/-! ### Views -/

/-- What a store holds under an id: the session, if there is one, and its history. -/
def view (store : Store) (id : String) : Option Session × List Message :=
  (store.get? id, store.historyOf id)

variable {store store' : Store} {w w' : World} {id : String}

/-- The history of an id is what its view shows. -/
theorem Sound.history_eq (h : store.Sound) (id : String) :
    store.history id = match store.view id with
      | (none, _) => .error (.sessionNotFound id)
      | (some _, messages) => .ok messages := by
  cases hid : store.get? id with
  | none =>
    rw [history_eq_error (h.get?_eq_none_iff.mp hid), view, hid]
  | some s =>
    rw [h.history_of_get? hid, view, hid]

theorem Sound.history_congr (h : store.Sound) (h' : store'.Sound)
    (hview : store.view id = store'.view id) : store.history id = store'.history id := by
  rw [h.history_eq, h'.history_eq, hview]

/-- A session that is put into a store is seen under its id. -/
theorem Sound.view_upsert (h : store.Sound) (session : Session) (id : String) :
    (store.upsert session).view id
      = if id = session.id then (some session, store.historyOf id) else store.view id := by
  rw [view, h.get?_upsert, historyOf_upsert]
  split <;> rfl

/-- A message that is added is seen under the id of its session. -/
theorem Sound.view_append (h : store.Sound) {message : Message}
    (happend : store.append message = .ok store') (id : String) :
    store'.view id = if id = message.sessionId
      then ((store.get? id).map (fun s => s.addMessage message.content),
        store.historyOf id ++ [message])
      else store.view id := by
  rw [view, h.get?_append happend, historyOf_append happend]
  split <;> rfl

/-- Two sound stores with the same ids in the same order and the same session under each of them
    list the same sessions. -/
theorem Sound.sessions_congr (h : store.Sound) (h' : store'.Sound) (hids : store.ids = store'.ids)
    (hget : ∀ id, store.get? id = store'.get? id) : store.sessions = store'.sessions := by
  have hlength : store.sessions.length = store'.sessions.length := by
    simpa [ids] using congrArg List.length hids
  refine List.ext_getElem hlength (fun p hp hp' => ?_)
  -- The sessions at one place have one id, under which both stores find the same.
  have hid : store.sessions[p].id = store'.sessions[p].id := by
    have := List.getElem_of_eq hids (i := p) (by simpa [ids] using hp)
    simpa [ids] using this
  have hfound := h.get?_eq_some_iff.mpr ⟨List.getElem_mem hp, rfl⟩
  rw [hget, hid] at hfound
  have hfound' := h'.get?_eq_some_iff.mpr ⟨List.getElem_mem hp', rfl⟩
  exact Option.some.inj (hfound.symm.trans hfound')

/-! ### One move -/

theorem Move.perform_sound (move : Move) (h : w.store.Sound) : (move.perform w).2.store.Sound :=
  performAll_sound (.only move.id move.time) [move.operation] h

/-- **A move about another session.** It leaves the view as it is. -/
theorem perform_view_ne (move : Move) (h : w.store.Sound) (hne : move.session? ≠ some id) :
    (move.perform w).2.store.view id = w.store.view id := by
  obtain ⟨operation, drawn, time⟩ := move
  have hleaves := perform_leaves (.only drawn time) w operation
  show (operation.perform (.only drawn time) w).2.store.view id = _
  generalize (operation.perform (.only drawn time) w).2.store = store' at hleaves ⊢
  -- A move puts one session, adds one message, or does neither.
  cases hleaves with
  | kept _ => rfl
  | created =>
    rw [h.view_upsert, if_neg]
    rintro rfl
    exact hne rfl
  | appended hadd =>
    rw [h.view_append hadd, if_neg]
    rintro rfl
    exact hne rfl

/-- **A move about the session itself.** Its answer, and the view that it leaves, follow from the
    view. -/
theorem perform_view (move : Move) (h : w.store.Sound) (h' : w'.store.Sound)
    (hid : move.session? = some id) (hview : w.store.view id = w'.store.view id) :
    (move.perform w).1 = (move.perform w').1 ∧
      (move.perform w).2.store.view id = (move.perform w').2.store.view id := by
  obtain ⟨operation, drawn, time⟩ := move
  obtain ⟨hget, hhistory⟩ := Prod.mk.inj hview
  cases operation with
  | create =>
    cases hid
    refine ⟨rfl, ?_⟩
    let session : Session := .fresh drawn time
    show (w.store.upsert session).view session.id = (w'.store.upsert session).view session.id
    rw [h.view_upsert, h'.view_upsert, if_pos rfl, if_pos rfl]
    exact congrArg (Prod.mk (some session)) hhistory
  | append name content type intent =>
    cases hid
    show ((Operation.append id content type intent).perform (.only drawn time) w).1 =
        ((Operation.append id content type intent).perform (.only drawn time) w').1 ∧
      ((Operation.append id content type intent).perform (.only drawn time) w).2.store.view id =
        ((Operation.append id content type intent).perform (.only drawn time) w').2.store.view id
    cases hfound : w.store.get? id with
    | none =>
      -- Both stores refuse an unknown session.
      have hfind := find?_eq_none (h.get?_eq_none_iff.mp hfound)
      have hfind' := find?_eq_none (h'.get?_eq_none_iff.mp (hget.symm.trans hfound))
      rw [perform_append (Effect.appendMessage_eq_error hfind),
        perform_append (Effect.appendMessage_eq_error hfind')]
      exact ⟨rfl, hview⟩
    | some s =>
      -- Both stores add the same message.
      let message : Message := ⟨drawn, id, type, content, intent, time⟩
      obtain ⟨store₁, hadd⟩ : ∃ store, w.store.append message = .ok store :=
        exists_append hfound
      obtain ⟨store₂, hadd'⟩ : ∃ store, w'.store.append message = .ok store :=
        exists_append (hget.symm.trans hfound)
      rw [perform_append (Effect.appendMessage_eq_ok hadd),
        perform_append (Effect.appendMessage_eq_ok hadd')]
      refine ⟨rfl, ?_⟩
      show store₁.view id = store₂.view id
      rw [h.view_append hadd, h'.view_append hadd', if_pos rfl, if_pos rfl, hget, hhistory]
  | get name =>
    cases hid
    exact ⟨congrArg Outcome.found hget, hview⟩
  | messages name =>
    cases hid
    exact ⟨congrArg Outcome.history (h.history_congr h' hview), hview⟩
  | list => cases hid
  | total => cases hid
  | active => cases hid

/-- A session that is there stays there, and the session of a new move is there. -/
theorem perform_known (move : Move) (h : w.store.Sound)
    (hid : (w.store.get? id).isSome ∨ move.operation = .create ∧ move.id = id) :
    ((move.perform w).2.store.get? id).isSome := by
  obtain ⟨operation, drawn, time⟩ := move
  have hleaves := perform_leaves (.only drawn time) w operation
  show ((operation.perform (.only drawn time) w).2.store.get? id).isSome
  generalize (operation.perform (.only drawn time) w).2.store = store' at hleaves ⊢
  -- Sessions are never taken out.
  cases hleaves with
  | kept hop => exact hid.resolve_right (fun hnew => hop hnew.1)
  | created =>
    rw [h.get?_upsert]
    split
    · rfl
    · rename_i hne
      exact hid.resolve_right (fun hnew => hne hnew.2.symm)
  | appended hadd =>
    have hold := hid.resolve_right (fun hnew => by cases hnew.1)
    rw [h.get?_append hadd]
    split
    · simpa using hold
    · exact hold

/-- The ids of a store after a session was put: a new id stands behind the others. -/
def addId (ids : List String) (id : String) : List String :=
  if id ∈ ids then ids else ids ++ [id]

/-- A move adds the id of the session that it makes, and else no id. -/
theorem perform_ids (move : Move) (h : w.store.Sound) :
    (move.perform w).2.store.ids =
      if move.operation = .create then addId w.store.ids move.id else w.store.ids := by
  obtain ⟨operation, drawn, time⟩ := move
  have hleaves := perform_leaves (.only drawn time) w operation
  show (operation.perform (.only drawn time) w).2.store.ids = _
  generalize (operation.perform (.only drawn time) w).2.store = store' at hleaves ⊢
  cases hleaves with
  | kept hop => rw [if_neg hop]
  | created =>
    rw [if_pos rfl, addId]
    let session : Session := (Supply.only drawn time).session w.drawn
    by_cases hmem : drawn ∈ w.store.ids
    · -- A known session is replaced by one with its id.
      rw [if_pos hmem]
      rcases h.unknown_or_holds session.id with hnone | ⟨before, s, after, hs⟩
      · exact absurd hmem (h.get?_eq_none_iff_ids.mp (get?_eq_none hnone))
      · show (w.store.upsert session).ids = _
        rw [hs.upsert_eq]
        simp [ids, hs.sessions_eq, hs.id_eq]
    · rw [if_neg hmem]
      exact h.ids_upsert_new (h.get?_eq_none_iff_ids.mpr hmem)
  | appended hadd =>
    rw [if_neg (by simp)]
    exact h.ids_append hadd

/-! ### Runs -/

/-- So do many. -/
theorem makeMoves_sound (moves : List Move) (h : w.store.Sound) :
    (makeMoves moves w).2.store.Sound := by
  induction moves generalizing w with
  | nil => exact h
  | cons move moves ih =>
    rw [makeMoves_cons]
    exact ih (move.perform_sound h)

/-- A session that is there stays there over any moves. -/
theorem makeMoves_known (moves : List Move) (h : w.store.Sound)
    (hid : (w.store.get? id).isSome) : ((makeMoves moves w).2.store.get? id).isSome := by
  induction moves generalizing w with
  | nil => exact hid
  | cons move moves ih =>
    rw [makeMoves_cons]
    exact ih (move.perform_sound h) (perform_known move h (.inl hid))

/-- A client that is alone has its session in the end. -/
theorem Client.known (client : Client) (sound : w.store.Sound) :
    ∃ s, (makeMoves client.moves w).2.store.get? client.session = some s := by
  rw [Client.moves, makeMoves_cons]
  let first : Move := ⟨.create, client.session, client.time⟩
  have hfirst : ((first.perform w).2.store.get? client.session).isSome :=
    perform_known first sound (.inr ⟨rfl, rfl⟩)
  exact Option.isSome_iff_exists.mp
    (makeMoves_known client.requests (first.perform_sound sound) hfirst)

section Serve

variable {n : Nat} {clients : Fin n → Client} {trace : List (Fin n × Move)}

/-- A store stays sound while clients are served. -/
theorem serve_sound (trace : List (Fin n × Move)) (h : w.store.Sound) :
    (serve trace w).2.store.Sound := by
  induction trace generalizing w with
  | nil => exact h
  | cons step rest ih =>
    obtain ⟨j, move⟩ := step
    rw [serve_cons]
    exact ih (move.perform_sound h)

/-- **One client among others.** By induction on all moves: those of the client see and change the
    view of its session as they do alone, and those of the others leave it. -/
theorem serve_view {i : Fin n} (h : w.store.Sound) (h' : w'.store.Sound)
    (hown : ∀ move, (i, move) ∈ trace → move.session? = some id)
    (hothers : ∀ j move, j ≠ i → (j, move) ∈ trace → move.session? ≠ some id)
    (hview : w.store.view id = w'.store.view id) :
    ofClient i (serve trace w).1 = (makeMoves (ofClient i trace) w').1 ∧
      (serve trace w).2.store.view id = (makeMoves (ofClient i trace) w').2.store.view id := by
  induction trace generalizing w w' with
  | nil => exact ⟨rfl, hview⟩
  | cons step rest ih =>
    obtain ⟨j, move⟩ := step
    have hown' : ∀ move, (i, move) ∈ rest → move.session? = some id :=
      fun m hm => hown m (List.mem_cons_of_mem _ hm)
    have hothers' : ∀ j move, j ≠ i → (j, move) ∈ rest → move.session? ≠ some id :=
      fun j m hj hm => hothers j m hj (List.mem_cons_of_mem _ hm)
    rw [serve_cons]
    by_cases hij : j = i
    · -- A move of the client itself is answered as it would be without the others.
      subst hij
      obtain ⟨hanswer, hleft⟩ := perform_view move h h' (hown move List.mem_cons_self) hview
      obtain ⟨hanswers, hend⟩ :=
        ih (move.perform_sound h) (move.perform_sound h') hown' hothers' hleft
      rw [ofClient_cons_self, ofClient_cons_self, makeMoves_cons]
      exact ⟨by rw [hanswer, hanswers], hend⟩
    · -- A move of another client is about another session.
      have hleft := perform_view_ne move h (hothers j move hij List.mem_cons_self)
      rw [ofClient_cons_ne hij, ofClient_cons_ne hij]
      exact ih (move.perform_sound h) h' hown' hothers' (hleft.trans hview)

/-- A session that no client has stays as it is. -/
theorem serve_view_ne (h : w.store.Sound)
    (hne : ∀ j move, (j, move) ∈ trace → move.session? ≠ some id) :
    (serve trace w).2.store.view id = w.store.view id := by
  induction trace generalizing w with
  | nil => rfl
  | cons step rest ih =>
    obtain ⟨j, move⟩ := step
    rw [serve_cons]
    refine (ih (move.perform_sound h) (fun j m hm => hne j m (List.mem_cons_of_mem _ hm))).trans ?_
    exact perform_view_ne move h (hne j move List.mem_cons_self)

/-- The ids after a run follow from those before it and from the order of the new sessions. -/
theorem serve_ids (trace : List (Fin n × Move)) (h : w.store.Sound) :
    (serve trace w).2.store.ids =
      ((trace.filter (fun t => t.2.operation = .create)).map (fun t => t.2.id)).foldl addId
        w.store.ids := by
  induction trace generalizing w with
  | nil => rfl
  | cons step rest ih =>
    obtain ⟨j, move⟩ := step
    rw [serve_cons, ih (move.perform_sound h), perform_ids move h]
    by_cases hcreate : move.operation = .create
    · rw [if_pos hcreate, List.filter_cons_of_pos (by simpa using hcreate)]
      rfl
    · rw [if_neg hcreate, List.filter_cons_of_neg (by simpa using hcreate)]

namespace Interleaves

/-- A step of an interleaving is about the session of its client. -/
theorem session?_eq (h : Interleaves clients trace) {i : Fin n} {move : Move}
    (hmem : (i, move) ∈ trace) : move.session? = some (clients i).session := by
  apply Client.session?_of_mem
  rw [← h i]
  exact mem_ofClient.mpr hmem

/-- The new sessions have the ids of their clients. -/
theorem created_eq (h : Interleaves clients trace) :
    (trace.filter (fun t => t.2.operation = .create)).map (fun t => t.2.id)
      = (creators trace).map (fun i => (clients i).session) := by
  rw [creators, List.map_map]
  refine List.map_congr_left (fun t ht => ?_)
  obtain ⟨hmem, hcreate⟩ := List.mem_filter.mp ht
  have hsession := h.session?_eq hmem
  rw [Move.session?, of_decide_eq_true hcreate] at hsession
  exact Option.some.inj hsession

/-- No other client's move is about the session of a client. -/
theorem session?_ne (h : Interleaves clients trace)
    (distinct : Function.Injective fun i => (clients i).session) {i j : Fin n} (hne : j ≠ i)
    {move : Move} (hmem : (j, move) ∈ trace) : move.session? ≠ some (clients i).session := by
  intro heq
  rw [h.session?_eq hmem] at heq
  exact hne (distinct (Option.some.inj heq))

/-- What a client is answered among others, and what is left under the id of its session, is what
    there is when it is alone. -/
theorem alone (h : Interleaves clients trace)
    (distinct : Function.Injective fun i => (clients i).session) (sound : w.store.Sound)
    (i : Fin n) :
    ofClient i (serve trace w).1 = (makeMoves (clients i).moves w).1 ∧
      (serve trace w).2.store.view (clients i).session
        = (makeMoves (clients i).moves w).2.store.view (clients i).session := by
  rw [← h i]
  exact serve_view sound sound (fun move hmem => h.session?_eq hmem)
    (fun j move hne hmem => h.session?_ne distinct hne hmem) rfl

/-- The views that a run leaves do not depend on the order of the moves. -/
theorem view_eq (h : Interleaves clients trace) {trace' : List (Fin n × Move)}
    (h' : Interleaves clients trace')
    (distinct : Function.Injective fun i => (clients i).session) (sound : w.store.Sound)
    (id : String) : (serve trace w).2.store.view id = (serve trace' w).2.store.view id := by
  by_cases hid : ∃ i, (clients i).session = id
  · obtain ⟨i, rfl⟩ := hid
    exact (h.alone distinct sound i).2.trans (h'.alone distinct sound i).2.symm
  · -- No client has this id, so that the view is still that of the start.
    have hne : ∀ {trace}, Interleaves clients trace →
        ∀ j move, (j, move) ∈ trace → move.session? ≠ some id := by
      intro trace h j move hmem heq
      rw [h.session?_eq hmem] at heq
      exact hid ⟨j, Option.some.inj heq⟩
    exact (serve_view_ne sound (hne h)).trans (serve_view_ne sound (hne h')).symm

end Interleaves

end Serve

/-- **Clients do not disturb each other.** Take any store that operations lead to from any seeds,
    any number of clients whose sessions have ids of their own, and any order of all their moves
    that keeps the order of each client's own. Then each client is answered what it is answered when
    it is alone with the store, and in the end its session, with count and last message, and its
    history are those that it has when it is alone. And two such orders in which the sessions are
    made in the same order end with the same list of sessions and the same histories. -/
theorem serve_apart (supply : Supply) (seeds : List Session) (before : List Operation) {n : Nat}
    (clients : Fin n → Client) (distinct : Function.Injective fun i => (clients i).session)
    (trace : List (Fin n × Move)) (h : Interleaves clients trace) :
    let start := (performAll supply before (.ofStore (.seeded seeds))).2
    (∀ i, ofClient i (serve trace start).1 = (makeMoves (clients i).moves start).1 ∧
      ∃ s history,
        (serve trace start).2.store.get? (clients i).session = some s ∧
        (makeMoves (clients i).moves start).2.store.get? (clients i).session = some s ∧
        (serve trace start).2.store.history (clients i).session = .ok history ∧
        (makeMoves (clients i).moves start).2.store.history (clients i).session = .ok history) ∧
    ∀ trace', Interleaves clients trace' → creators trace' = creators trace →
      (serve trace' start).2.store.sessions = (serve trace start).2.store.sessions ∧
      ∀ id, (serve trace' start).2.store.history id = (serve trace start).2.store.history id := by
  intro start
  have sound : start.store.Sound := performAll_sound supply before (.seeded seeds)
  have hserved := serve_sound trace sound
  refine ⟨fun i => ?_, fun trace' h' horder => ?_⟩
  -- The view of a session is all that its client sees: the session itself, and its history.
  · obtain ⟨hanswers, hview⟩ := h.alone distinct sound i
    obtain ⟨s, hs⟩ := (clients i).known sound
    have hs' : (serve trace start).2.store.get? (clients i).session = some s :=
      (congrArg Prod.fst hview).trans hs
    have halone := makeMoves_sound (clients i).moves sound
    refine ⟨hanswers, s, _, hs', hs, hserved.history_of_get? hs', ?_⟩
    rw [halone.history_of_get? hs]
    exact congrArg Except.ok (congrArg Prod.snd hview).symm
  -- Lists with the same ids, in one order, and the same session under each of them are the same.
  · have hserved' := serve_sound trace' sound
    have hview := fun id => h'.view_eq h distinct sound id
    have hids : (serve trace' start).2.store.ids = (serve trace start).2.store.ids := by
      rw [serve_ids trace' sound, serve_ids trace sound, h'.created_eq, h.created_eq, horder]
    exact ⟨hserved'.sessions_congr hserved hids (fun id => congrArg Prod.fst (hview id)),
      fun id => hserved'.history_congr hserved (hview id)⟩

/-- A client that posts one message, and then looks at its session and at its history. -/
def Client.poster (session content : String) : Client where
  session := session
  time := .epoch
  requests :=
    [⟨.append session content .user none, "m", .epoch⟩, ⟨.get session, "", .epoch⟩,
      ⟨.messages session, "", .epoch⟩]
  asks_own := by simp [Move.session?]

/-- Two posters. -/
def posters : Fin 2 → Client
  | 0 => .poster "a" "hi"
  | 1 => .poster "b" "ho"

/-- The moves of two posters in the order in which they are picked. -/
def posting (picks : List (Fin 2)) : List (Fin 2 × Move) :=
  picks.zipIdx.filterMap fun (i, k) =>
    ((posters i).moves[(picks.take k).count i]?).map (Prod.mk i)

/-- Two posters on a store with one seed, in two orders in which the second one begins. -/
theorem serve_apart_posters :
    (Function.Injective fun i => (posters i).session) ∧
      Interleaves posters (posting [1, 0, 0, 0, 0, 1, 1, 1]) ∧
      Interleaves posters (posting [1, 0, 1, 0, 1, 0, 1, 0]) ∧
      creators (posting [1, 0, 1, 0, 1, 0, 1, 0]) = creators (posting [1, 0, 0, 0, 0, 1, 1, 1]) ∧
      let start := (performAll .strokes [] (.ofStore (.seeded [.fresh "s" .epoch]))).2
      (∀ i, ofClient i (serve (posting [1, 0, 0, 0, 0, 1, 1, 1]) start).1
          = (makeMoves (posters i).moves start).1) ∧
      (serve (posting [1, 0, 1, 0, 1, 0, 1, 0]) start).2.store.sessions
        = (serve (posting [1, 0, 0, 0, 0, 1, 1, 1]) start).2.store.sessions := by
  -- All of these are about eight steps, and decided by looking at each.
  have distinct : Function.Injective fun i => (posters i).session := by decide
  have h : Interleaves posters (posting [1, 0, 0, 0, 0, 1, 1, 1]) := by decide +kernel
  have h' : Interleaves posters (posting [1, 0, 1, 0, 1, 0, 1, 0]) := by decide +kernel
  have horder : creators (posting [1, 0, 1, 0, 1, 0, 1, 0])
      = creators (posting [1, 0, 0, 0, 0, 1, 1, 1]) := by decide +kernel
  have hapart := serve_apart .strokes [.fresh "s" .epoch] [] posters distinct _ h
  exact ⟨distinct, h, h', horder, fun i => (hapart.1 i).1, (hapart.2 _ h' horder).1⟩

end Store

end DialogStub
