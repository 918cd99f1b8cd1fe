import DialogStub.Proofs.World

/-!
# The session store as a plain list

A store answers like a list of sessions, each with its history, that is searched from its start.

* `Ledger` — such a list, with `Ledger.put`, `Ledger.record` and `Ledger.find?`;
* `Store.ledger` — the list that a store stands for;
* `Store.Operation`, `Store.Outcome` — what is asked of a store, and what comes back;
* `Ledger.step`, `Ledger.run` — the answers of the list, with the fresh values drawn so far;
* `perform_follows`, `performAll_follows` — one operation, and any number of them, on a store and
  on its list.

The main statement, `performAll_seeded`, says that no run of operations can tell the two apart.
-/

namespace DialogStub

/-- Sessions with their histories, in order. -/
abbrev Ledger := List (Session × List Message)

namespace Ledger

/-! ### Operations on the list -/

/-- The first entry of an id. -/
def find? (ledger : Ledger) (id : String) : Option (Session × List Message) :=
  List.find? (fun entry => entry.1.id = id) ledger

/-- Puts a session in the place of the first one with its id, or at the end without a history. -/
def put (session : Session) : Ledger → Ledger
  | [] => [(session, [])]
  | (s, messages) :: rest =>
    if s.id = session.id then (session, messages) :: rest else (s, messages) :: put session rest

/-- The list of given sessions. -/
def seeded (sessions : List Session) : Ledger :=
  sessions.foldl (fun ledger session => ledger.put session) []

/-- Adds a message to the first entry of its session. -/
def record (message : Message) : Ledger → Ledger
  | [] => []
  | (s, messages) :: rest =>
    if s.id = message.sessionId then
      ({ s with messageCount := s.messageCount + 1, lastMessage := message.content },
        messages ++ [message]) :: rest
    else (s, messages) :: record message rest

section Split

variable {before after : Ledger} {s : Session} {messages : List Message}

/-- An entry is found behind others with other ids. -/
theorem find?_split {id : String} (hs : s.id = id) (hbefore : ∀ e ∈ before, e.1.id ≠ id) :
    find? (before ++ (s, messages) :: after) id = some (s, messages) := by
  have hnone : List.find? (fun e : Session × List Message => e.1.id = id) before = none := by
    simpa using hbefore
  simp [find?, List.find?_append, hnone, hs]

theorem find?_eq_none {ledger : Ledger} {id : String} (h : ∀ e ∈ ledger, e.1.id ≠ id) :
    ledger.find? id = none := by
  simpa [find?] using h

/-- A session takes the place of the one with its id. -/
theorem put_split {session : Session} (hs : s.id = session.id)
    (hbefore : ∀ e ∈ before, e.1.id ≠ session.id) :
    put session (before ++ (s, messages) :: after) = before ++ (session, messages) :: after := by
  induction before with
  | nil => simp [put, hs]
  | cons e rest ih =>
    rw [List.cons_append, put, if_neg (hbefore e (by simp)),
      ih (fun x hx => hbefore x (by simp [hx])), List.cons_append]

/-- A session with a new id comes last. -/
theorem put_new {session : Session} {ledger : Ledger}
    (h : ∀ e ∈ ledger, e.1.id ≠ session.id) :
    put session ledger = ledger ++ [(session, [])] := by
  induction ledger with
  | nil => rfl
  | cons e rest ih =>
    rw [put, if_neg (h e (by simp)), ih (fun x hx => h x (by simp [hx])), List.cons_append]

/-- A message goes to the entry of its session. -/
theorem record_split {message : Message} (hs : s.id = message.sessionId)
    (hbefore : ∀ e ∈ before, e.1.id ≠ message.sessionId) :
    record message (before ++ (s, messages) :: after)
      = before ++ (s.addMessage message.content, messages ++ [message]) :: after := by
  induction before with
  | nil => simp [record, hs, Session.addMessage]
  | cons e rest ih =>
    rw [List.cons_append, record, if_neg (hbefore e (by simp)),
      ih (fun x hx => hbefore x (by simp [hx])), List.cons_append]

end Split

end Ledger

namespace Store

/-! ### The list of a store -/

/-- A session of a store with its history. -/
def entry (store : Store) (s : Session) : Session × List Message :=
  (s, store.historyOf s.id)

/-- The list that a store stands for. -/
def ledger (store : Store) : Ledger :=
  store.sessions.map store.entry

variable {store : Store}

/-- Other sessions have other entries. -/
theorem map_entry_ne {id : String} {sessions : List Session} (h : ∀ x ∈ sessions, x.id ≠ id) :
    ∀ e ∈ sessions.map store.entry, e.1.id ≠ id := by
  intro e he
  obtain ⟨x, hx, rfl⟩ := List.mem_map.mp he
  exact h x hx

/-- The ledger of a store that holds a session has its entry in the same place. -/
theorem Holds.ledger_eq {id : String} {before after : List Session} {s : Session}
    (h : store.Holds id before s after) :
    store.ledger
      = before.map store.entry ++ (s, store.historyOf id) :: after.map store.entry := by
  simp [ledger, h.sessions_eq, entry, h.id_eq]

/-- The list finds what the store finds, with its history. -/
theorem Sound.ledger_find? (h : store.Sound) (id : String) :
    store.ledger.find? id = (store.get? id).map (fun s => (s, store.historyOf id)) := by
  rcases h.unknown_or_holds id with hid | ⟨before, s, after, hs⟩
  · have hne : ∀ e ∈ store.ledger, e.1.id ≠ id := map_entry_ne (h.ne_of_lookup_eq_none hid)
    rw [get?_eq_none hid, Ledger.find?_eq_none hne]
    rfl
  · rw [hs.ledger_eq, Ledger.find?_split hs.id_eq (map_entry_ne hs.before_ne), hs.get?_eq]
    rfl

/-- The history of a store is that of the entry in its list. -/
theorem Sound.history_ledger (h : store.Sound) (id : String) :
    store.history id = match store.ledger.find? id with
      | none => .error (.sessionNotFound id)
      | some (_, messages) => .ok messages := by
  rw [h.ledger_find?]
  rcases h.unknown_or_holds id with hid | ⟨before, s, after, hs⟩
  · rw [get?_eq_none hid, history_eq_error hid]
    rfl
  · rw [hs.get?_eq, hs.history_eq]
    rfl

/-- Putting a session into a store puts it into the list. -/
theorem Sound.ledger_upsert (h : store.Sound) (session : Session) :
    (store.upsert session).ledger = store.ledger.put session := by
  -- Sessions change, but histories do not.
  have hentry : (store.upsert session).entry = store.entry := by
    funext x
    rw [entry, historyOf_upsert, entry]
  rw [ledger, hentry]
  rcases h.unknown_or_holds session.id with hid | ⟨before, s, after, hs⟩
  · have hne : ∀ e ∈ store.ledger, e.1.id ≠ session.id :=
      map_entry_ne (h.ne_of_lookup_eq_none hid)
    have hnew : store.historyOf session.id = [] := by
      simp [historyOf, h.known_of_history _ hid]
    rw [upsert_eq_add hid, Ledger.put_new hne, ledger, List.map_append]
    simp [entry, hnew]
  · rw [hs.upsert_eq, hs.ledger_eq, Ledger.put_split hs.id_eq (map_entry_ne hs.before_ne)]
    simp [entry]

/-- Adding a message to a store adds it to the list. -/
theorem Sound.ledger_append (h : store.Sound) {message : Message} {store' : Store}
    (happend : store.append message = .ok store') :
    store'.ledger = store.ledger.record message := by
  rcases h.unknown_or_holds message.sessionId with hid | ⟨before, s, after, hs⟩
  · rw [append_eq_error hid] at happend
    cases happend
  · -- The sessions before and behind the place keep their histories.
    have hentry : ∀ x : Session, x.id ≠ message.sessionId → store'.entry x = store.entry x := by
      intro x hx
      simp [entry, historyOf_append happend, hx]
    have hsessions : store'.sessions = before ++ s.addMessage message.content :: after := by
      rw [hs.append_eq] at happend
      cases happend
      rfl
    rw [hs.ledger_eq, Ledger.record_split hs.id_eq (map_entry_ne hs.before_ne), ledger,
      hsessions, List.map_append, List.map_cons,
      List.map_congr_left (fun x hx => hentry x (hs.before_ne x hx)),
      List.map_congr_left (fun x hx => hentry x (hs.after_ne x hx))]
    simp [entry, historyOf_append happend, hs.id_eq]

/-- A seeded store stands for the list of its seeds. -/
theorem ledger_seeded (sessions : List Session) :
    (Store.seeded sessions).ledger = Ledger.seeded sessions := by
  suffices ∀ store : Store, store.Sound → (sessions.foldl Store.upsert store).ledger
      = sessions.foldl (fun ledger session => ledger.put session) store.ledger from
    this _ Sound.empty
  induction sessions with
  | nil => exact fun _ _ => rfl
  | cons session rest ih =>
    intro store h
    rw [List.foldl_cons, List.foldl_cons, ← h.ledger_upsert session]
    exact ih _ (h.upsert session)

/-! ### Runs of operations -/

/-- What is asked of a store. -/
inductive Operation where
  | create
  | append (id content : String) (type : MessageType) (intent : Option String)
  | get (id : String)
  | list
  | messages (id : String)
  | total
  | active
  deriving DecidableEq, Repr

/-- What comes back. -/
inductive Outcome where
  | created (session : Session)
  | appended (result : Except StoreError Message)
  | found (session : Option Session)
  | listed (sessions : List Session)
  | history (result : Except StoreError (List Message))
  | number (n : Nat)

/-- Does an operation on the store of a world. -/
def Operation.perform (supply : Supply) : Operation → Effect Outcome
  | .create => return .created (← Effect.createSession supply)
  | .append id content type intent =>
    return .appended (← Effect.appendMessage supply id content type intent)
  | .get id => return .found (← Effect.ofStore (·.get? id))
  | .list => return .listed (← Effect.ofStore Store.sessions)
  | .messages id => return .history (← Effect.ofStore (·.history id))
  | .total => return .number (← Effect.ofStore Store.total)
  | .active => return .number (← Effect.ofStore Store.active)

/-- Does operations, one after the other. -/
def performAll (supply : Supply) : List Operation → Effect (List Outcome)
  | [] => return []
  | op :: ops => return (← op.perform supply) :: (← performAll supply ops)

/-- Every session that the operations create gets an id that the store does not have yet. -/
def CreatesFresh (supply : Supply) : List Operation → World → Prop
  | [], _ => True
  | op :: ops, w => (op = .create → w.store.get? (supply.id w.drawn) = none) ∧
    CreatesFresh supply ops (op.perform supply w).2

instance CreatesFresh.decidable (supply : Supply) :
    ∀ (ops : List Operation) (w : World), Decidable (CreatesFresh supply ops w)
  | [], _ => inferInstanceAs (Decidable True)
  | op :: ops, w =>
    have := CreatesFresh.decidable supply ops (op.perform supply w).2
    inferInstanceAs (Decidable (_ ∧ _))

end Store

namespace Ledger

open Store

/-- What the list answers to an operation after `drawn` fresh values, how many are drawn then,
    and the list it leaves. -/
def step (supply : Supply) (drawn : Nat) (ledger : Ledger) : Operation → Outcome × Nat × Ledger
  | .create =>
    let session : Session :=
      ⟨supply.id drawn, .active, supply.time (drawn + 1), 0, "", none, none⟩
    (.created session, drawn + 2, ledger ++ [(session, [])])
  | .append id content type intent =>
    let message : Message := ⟨supply.id drawn, id, type, content, intent, supply.time (drawn + 1)⟩
    match ledger.find? id with
    | none => (.appended (.error (.sessionNotFound id)), drawn, ledger)
    | some _ => (.appended (.ok message), drawn + 2, ledger.record message)
  | .get id => (.found ((ledger.find? id).map Prod.fst), drawn, ledger)
  | .list => (.listed (ledger.map Prod.fst), drawn, ledger)
  | .messages id => match ledger.find? id with
    | none => (.history (.error (.sessionNotFound id)), drawn, ledger)
    | some (_, messages) => (.history (.ok messages), drawn, ledger)
  | .total => (.number ledger.length, drawn, ledger)
  | .active => (.number (ledger.countP (fun entry => entry.1.status = .active)), drawn, ledger)

/-- What the list answers to operations, one after the other. -/
def run (supply : Supply) (drawn : Nat) (ledger : Ledger) :
    List Operation → List Outcome × Nat × Ledger
  | [] => ([], drawn, ledger)
  | op :: ops =>
    let (outcome, drawn, ledger) := step supply drawn ledger op
    let (outcomes, drawn, ledger) := run supply drawn ledger ops
    (outcome :: outcomes, drawn, ledger)

end Ledger

namespace Store

variable {supply : Supply} {w : World}

/-- An operation that adds a message does what the effect does. -/
theorem perform_append {id content : String} {type : MessageType} {intent : Option String}
    {result : Except StoreError Message × World}
    (h : Effect.appendMessage supply id content type intent w = result) :
    (Operation.append id content type intent).perform supply w = (.appended result.1, result.2) :=
  h ▸ rfl

/-- **One operation.** On a sound store an operation gives the answer of the list, and leaves a
    sound store that stands for the list it leaves. -/
theorem perform_follows (op : Operation) (h : w.store.Sound)
    (fresh : op = .create → w.store.get? (supply.id w.drawn) = none) :
    (op.perform supply w).2.store.Sound ∧
      Ledger.step supply w.drawn w.store.ledger op =
        ((op.perform supply w).1, (op.perform supply w).2.drawn,
          (op.perform supply w).2.store.ledger) := by
  cases op with
  | create =>
    refine ⟨h.upsert (supply.session w.drawn), ?_⟩
    -- A fresh id is in no entry, so that the list puts the session at its end.
    have hnew : ∀ e ∈ w.store.ledger, e.1.id ≠ (supply.session w.drawn).id := by
      rcases h.unknown_or_holds (supply.id w.drawn) with hid | ⟨before, s, after, hs⟩
      · exact map_entry_ne (h.ne_of_lookup_eq_none hid)
      · rw [hs.get?_eq] at fresh
        cases fresh rfl
    have hledger := h.ledger_upsert (supply.session w.drawn)
    rw [Ledger.put_new hnew] at hledger
    exact congrArg (fun l => (Outcome.created (supply.session w.drawn), w.drawn + 2, l))
      hledger.symm
  | append id content type intent =>
    -- Store and list refuse an unknown id before anything is drawn.
    rcases h.unknown_or_holds id with hid | ⟨before, s, after, hs⟩
    · rw [perform_append (Effect.appendMessage_eq_error (find?_eq_none hid))]
      refine ⟨h, ?_⟩
      simp [Ledger.step, h.ledger_find?, get?_eq_none hid]
    · have happend : w.store.append (supply.message w.drawn id content type intent) = .ok _ :=
        hs.append_eq
      rw [perform_append (Effect.appendMessage_eq_ok happend)]
      refine ⟨h.append happend, ?_⟩
      simp only [Ledger.step, h.ledger_find?, hs.get?_eq, Option.map_some]
      exact congrArg (fun l => (_, w.drawn + 2, l)) (h.ledger_append happend).symm
  | get id =>
    refine ⟨h, ?_⟩
    simp only [Ledger.step, h.ledger_find?, Option.map_map, Function.comp_def, Option.map_id']
    rfl
  | list =>
    refine ⟨h, ?_⟩
    have hlist : w.store.ledger.map Prod.fst = w.store.sessions := by
      simp [ledger, entry, Function.comp_def]
    rw [Ledger.step, hlist]
    rfl
  | messages id =>
    refine ⟨h, ?_⟩
    show _ = (Outcome.history (w.store.history id), w.drawn, w.store.ledger)
    rw [Ledger.step, h.history_ledger]
    split <;> rfl
  | total =>
    refine ⟨h, ?_⟩
    rw [Ledger.step, ledger, List.length_map]
    rfl
  | active =>
    refine ⟨h, ?_⟩
    rw [Ledger.step, ledger, List.countP_map]
    rfl

/-- **Any number of operations.** By induction on the operations: each leaves a sound store that
    stands for the list it leaves, which is what the next one needs. -/
theorem performAll_follows (ops : List Operation) (h : w.store.Sound)
    (fresh : CreatesFresh supply ops w) :
    Ledger.run supply w.drawn w.store.ledger ops =
      ((performAll supply ops w).1, (performAll supply ops w).2.drawn,
        (performAll supply ops w).2.store.ledger) := by
  induction ops generalizing w with
  | nil => rfl
  | cons op ops ih =>
    obtain ⟨hnow, hlater⟩ := fresh
    obtain ⟨hsound, hstep⟩ := perform_follows op h hnow
    simp only [Ledger.run, hstep, ih hsound hlater]
    rfl

/-- **The store answers like the list.** Whatever sessions it is seeded with, and whatever is
    asked of it, every answer of the store is the answer of the list, and in the end the store
    stands for the list that the operations leave. -/
theorem performAll_seeded (supply : Supply) (seeds : List Session) (ops : List Operation)
    (w : World) (start : w.store = .seeded seeds) (fresh : CreatesFresh supply ops w) :
    (performAll supply ops w).1 = (Ledger.run supply w.drawn (.seeded seeds) ops).1 ∧
      (performAll supply ops w).2.store.ledger
        = (Ledger.run supply w.drawn (.seeded seeds) ops).2.2 := by
  have hsound : w.store.Sound := start ▸ Sound.seeded seeds
  have hrun := performAll_follows ops hsound fresh
  rw [start, ledger_seeded] at hrun
  rw [hrun]
  exact ⟨rfl, rfl⟩

/-- A run on a store whose first seed is replaced by its third: two creations, messages to a seed,
    to the second new session and to nobody, and a look at all that is there. -/
theorem performAll_replaced_seed :
    let seeds := [Session.fresh "a" .epoch, ⟨"b", .completed, .epoch, 7, "old", none, none⟩,
      ⟨"a", .completed, .epoch, 3, "new", some "u", none⟩]
    let ops := [Operation.create, .append "a" "x" .user none,
      .create, .append "nobody" "y" .bot none,
      .append "iiiii" "z" .bot (some "greeting"), .list, .messages "iiiii", .active]
    CreatesFresh .strokes ops (.ofStore (.seeded seeds)) ∧
      (performAll .strokes ops (.ofStore (.seeded seeds))).1
        = (Ledger.run .strokes 0 (.seeded seeds) ops).1 :=
  have fresh := by decide +kernel
  ⟨fresh, (performAll_seeded .strokes _ _ _ rfl fresh).1⟩

end Store

end DialogStub
