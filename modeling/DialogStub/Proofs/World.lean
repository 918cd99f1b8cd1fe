import DialogStub.Proofs.Chat.Index
import DialogStub.World

/-!
# What effects do to the world

* `Supply.session`, `Supply.message` — what is made of the next fresh values;
* `Supply.strokes` — a supply for small runs;
* `World.logging` — a world with more events in its log;
* `Effect.createSession_eq`, `Effect.appendMessage_eq_ok`, `Effect.appendMessage_eq_error` — the
  two changes of the store as equations;
* `World.Onward`, `World.Beside` — a world after another with the same store, and with the same
  calls too;
* `Effect.KeepsStore`, `Effect.AddsCalls` — an effect that leaves the store alone, and one that
  takes no call back, whatever the world;
* `Effect.OnlyReports` — an effect that writes to the log and never reads it.

An effect keeps the store if its parts do, so that a handler is read off its text.
-/

namespace DialogStub

/-! ### Fresh records -/

/-- The session that is made of the next fresh values. -/
def Supply.session (supply : Supply) (drawn : Nat) : Session :=
  .fresh (supply.id drawn) (supply.time (drawn + 1))

/-- The message that is made of the next fresh values. -/
def Supply.message (supply : Supply) (drawn : Nat) (sessionId content : String)
    (type : MessageType) (intent : Option String) : Message :=
  ⟨supply.id drawn, sessionId, type, content, intent, supply.time (drawn + 1)⟩

/-- A supply whose ids are strokes, one more each time. -/
def Supply.strokes : Supply where
  id n := String.ofList (List.replicate (n + 1) 'i')
  time _ := .epoch

@[simp] theorem Supply.message_sessionId (supply : Supply) (drawn : Nat)
    (sessionId content : String) (type : MessageType) (intent : Option String) :
    (supply.message drawn sessionId content type intent).sessionId = sessionId := rfl

/-! ### The log -/

namespace World

/-- The world with more events in its log. -/
def logging (w : World) (events : List Event) : World :=
  { w with events := w.events ++ events }

@[simp] theorem logging_nil (w : World) : w.logging [] = w := by
  rw [logging, List.append_nil]

/-- Events that come one after the other are as good as all of them at once. -/
theorem logging_logging (w : World) (events more : List Event) :
    (w.logging events).logging more = w.logging (events ++ more) := by
  show { w with events := w.events ++ events ++ more } = w.logging (events ++ more)
  rw [List.append_assoc]
  rfl

end World

namespace Effect

variable {supply : Supply} {w : World}

/-- One effect after another goes on in the world that the first one leaves. -/
theorem bind_apply {α β : Type} (f : Effect α) (g : α → Effect β) (w : World) :
    (f >>= g) w = g (f w).1 (f w).2 := rfl

/-- A fresh id is one draw, and nothing else changes. -/
theorem newId_apply (supply : Supply) (w : World) :
    newId supply w = (supply.id w.drawn, { w with drawn := w.drawn + 1 }) := rfl

/-- So is the time. -/
theorem now_apply (supply : Supply) (w : World) :
    now supply w = (supply.time w.drawn, { w with drawn := w.drawn + 1 }) := rfl

/-! ### The two changes of the store -/

/-- A new session is made of two fresh values and put into the store. -/
theorem createSession_eq :
    createSession supply w =
      (supply.session w.drawn,
        { w with
          store := w.store.upsert (supply.session w.drawn)
          events := w.events ++
            [⟨.debug, "session created", [("session_id", supply.id w.drawn)]⟩]
          drawn := w.drawn + 2 }) := rfl

/-- Nothing happens for a session that is unknown. -/
theorem appendMessage_eq_error {id content : String} {type : MessageType}
    {intent : Option String} (h : w.store.find? id = none) :
    appendMessage supply id content type intent w = (.error (.sessionNotFound id), w) := by
  have hfind : ofStore (·.find? id) w = (none, w) := by
    rw [← h]
    rfl
  rw [appendMessage, bind_apply, hfind]
  rfl

/-- A message to a known session is made of two fresh values and added to the store. -/
theorem appendMessage_eq_ok {id content : String} {type : MessageType}
    {intent : Option String} {store : Store}
    (h : w.store.append (supply.message w.drawn id content type intent) = .ok store) :
    appendMessage supply id content type intent w =
      (.ok (supply.message w.drawn id content type intent),
        { w with
          store := store
          events := w.events ++ [⟨.debug, "message appended",
            [("session_id", id), ("message_id", supply.id w.drawn)]⟩]
          drawn := w.drawn + 2 }) := by
  -- The session is known, since otherwise nothing could be added.
  obtain ⟨known, hknown⟩ : ∃ known, w.store.find? id = some known := by
    cases hfind : w.store.find? id with
    | none => simp [Store.append, hfind] at h
    | some known => exact ⟨known, rfl⟩
  have hfind : ofStore (·.find? id) w = (some known, w) := by
    rw [← hknown]
    rfl
  -- Both fresh values are drawn before the store is asked.
  let drawn : World := { w with drawn := w.drawn + 2 }
  have happend : ofStore (·.append (supply.message w.drawn id content type intent)) drawn =
      (.ok store, drawn) := by
    rw [← h]
    rfl
  unfold Supply.message at happend
  rw [appendMessage, bind_apply, hfind]
  dsimp only
  rw [bind_apply, newId_apply, bind_apply, now_apply, bind_apply, happend]
  rfl

end Effect

/-! ### Effects without a change of the store -/

/-- A world that comes after another, with the same store. -/
structure World.Onward (w w' : World) : Prop where
  store_eq : w'.store = w.store
  drawn_le : w.drawn ≤ w'.drawn

@[refl] theorem World.Onward.refl (w : World) : w.Onward w := ⟨rfl, Nat.le_refl _⟩

theorem World.Onward.trans {w₁ w₂ w₃ : World} (h : w₁.Onward w₂) (h' : w₂.Onward w₃) :
    w₁.Onward w₃ :=
  ⟨h'.store_eq.trans h.store_eq, Nat.le_trans h.drawn_le h'.drawn_le⟩

/-- A world that comes after another, with the same store and the same calls. -/
structure World.Beside (w w' : World) : Prop extends w.Onward w' where
  calls_eq : w'.calls = w.calls

namespace World.Beside

@[refl] theorem refl (w : World) : w.Beside w := ⟨.refl w, rfl⟩

theorem trans {w₁ w₂ w₃ : World} (h : w₁.Beside w₂) (h' : w₂.Beside w₃) : w₁.Beside w₃ :=
  ⟨h.toOnward.trans h'.toOnward, h'.calls_eq.trans h.calls_eq⟩

theorem logging (w : World) (events : List Event) : w.Beside (w.logging events) :=
  ⟨⟨rfl, Nat.le_refl _⟩, rfl⟩

theorem report (level : Level) (text : String) (fields : List (String × String)) (w : World) :
    w.Beside (Effect.report level text fields w).2 :=
  logging w _

theorem draw {α : Type} (values : Nat → α) (w : World) : w.Beside (Effect.draw values w).2 :=
  ⟨⟨rfl, Nat.le_succ _⟩, rfl⟩

end World.Beside

/-- An effect that leaves the store alone. -/
def Effect.KeepsStore {α : Type} (f : Effect α) : Prop :=
  ∀ w : World, w.Onward (f w).2

namespace Effect.KeepsStore

variable {α β : Type}

theorem pure (a : α) : Effect.KeepsStore (Pure.pure a) :=
  fun w => .refl w

theorem bind {f : Effect α} {g : α → Effect β} (hf : f.KeepsStore)
    (hg : ∀ a, (g a).KeepsStore) : Effect.KeepsStore (f >>= g) :=
  fun w => (hf w).trans (hg (f w).1 (f w).2)

theorem report (level : Level) (text : String) (fields : List (String × String)) :
    (Effect.report level text fields).KeepsStore :=
  fun w => (World.Beside.report level text fields w).toOnward

theorem draw (values : Nat → α) : (Effect.draw values).KeepsStore :=
  fun w => (World.Beside.draw values w).toOnward

theorem ofStore (f : Store → α) : (Effect.ofStore f).KeepsStore :=
  fun w => .refl w

end Effect.KeepsStore

/-! ### Effects that add calls -/

/-- An effect that takes no call back. -/
def Effect.AddsCalls {α : Type} (f : Effect α) : Prop :=
  ∀ w : World, w.calls <+: (f w).2.calls

namespace Effect.AddsCalls

variable {α β : Type}

theorem pure (a : α) : Effect.AddsCalls (Pure.pure a) :=
  fun _ => List.prefix_refl _

theorem bind {f : Effect α} {g : α → Effect β} (hf : f.AddsCalls)
    (hg : ∀ a, (g a).AddsCalls) : Effect.AddsCalls (f >>= g) :=
  fun w => (hf w).trans (hg (f w).1 (f w).2)

theorem report (level : Level) (text : String) (fields : List (String × String)) :
    (Effect.report level text fields).AddsCalls :=
  fun _ => List.prefix_refl _

theorem draw (values : Nat → α) : (Effect.draw values).AddsCalls :=
  fun _ => List.prefix_refl _

theorem ofStore (f : Store → α) : (Effect.ofStore f).AddsCalls :=
  fun _ => List.prefix_refl _

end Effect.AddsCalls

/-! ### Effects that never read the log -/

/-- The world with another log. -/
def World.withLog (w : World) (log : List Event) : World :=
  { w with events := log }

@[simp] theorem World.withLog_events (w : World) : w.withLog w.events = w := rfl

/-- Beside a world there are only such in which more was drawn, with another log. -/
theorem World.Beside.eq_withLog {w w' : World} (h : w.Beside w') :
    w' = { w with drawn := w'.drawn }.withLog w'.events := by
  obtain ⟨⟨hstore, -⟩, hcalls⟩ := h
  cases w'
  cases hstore
  cases hcalls
  rfl

/-- An effect that only adds to the log: the same events behind every log, of which `P` holds. All
    else that it does is the same under every log, and no fresh value is taken back. -/
structure Effect.OnlyReports {α : Type} (P : Event → Prop) (f : Effect α) : Prop where
  adds : ∀ w, ∃ events : List Event, (∀ e ∈ events, P e) ∧
    ∀ log, f (w.withLog log) = ((f w).1, (f w).2.withLog (log ++ events))
  drawn_le : ∀ w, w.drawn ≤ (f w).2.drawn

namespace Effect.OnlyReports

variable {α β : Type} {P : Event → Prop}

/-- What the log says behind such an effect. -/
theorem exists_events {f : Effect α} (h : f.OnlyReports P) (w : World) :
    ∃ events : List Event, (∀ e ∈ events, P e) ∧ (f w).2.events = w.events ++ events := by
  obtain ⟨events, hevents, hadds⟩ := h.adds w
  have hself := hadds w.events
  rw [World.withLog_events] at hself
  exact ⟨events, hevents, congrArg (fun result => result.2.events) hself⟩

/-- The same effect, with less said about its events. -/
theorem mono {Q : Event → Prop} {f : Effect α} (h : f.OnlyReports P) (himp : ∀ e, P e → Q e) :
    f.OnlyReports Q where
  adds w := by
    obtain ⟨events, hevents, hadds⟩ := h.adds w
    exact ⟨events, fun e he => himp e (hevents e he), hadds⟩
  drawn_le := h.drawn_le

/-- An effect that leaves the log alone. -/
theorem of_silent {f : Effect α}
    (hlog : ∀ w log, f (w.withLog log) = ((f w).1, (f w).2.withLog log))
    (hdrawn : ∀ w, w.drawn ≤ (f w).2.drawn) : f.OnlyReports P where
  adds w := ⟨[], List.forall_mem_nil _, fun log => by rw [hlog, List.append_nil]⟩
  drawn_le := hdrawn

/-- What has no effect does not report. -/
theorem pure (a : α) : Effect.OnlyReports P (Pure.pure a) :=
  of_silent (fun _ _ => rfl) (fun _ => Nat.le_refl _)

/-- Nor does a draw, which does not look at the log either. -/
theorem draw (values : Nat → α) : (Effect.draw values).OnlyReports P :=
  of_silent (fun _ _ => rfl) (fun _ => Nat.le_succ _)

theorem ofStore (f : Store → α) : (Effect.ofStore f).OnlyReports P :=
  of_silent (fun _ _ => rfl) (fun _ => Nat.le_refl _)

/-- A report adds one event, of which `P` has to hold. -/
theorem report {level : Level} {text : String} {fields : List (String × String)}
    (h : P ⟨level, text, fields⟩) : (Effect.report level text fields).OnlyReports P where
  adds _ := ⟨[⟨level, text, fields⟩], List.forall_mem_singleton.mpr h, fun _ => rfl⟩
  drawn_le _ := Nat.le_refl _

/-- One effect after another adds the events of both. -/
theorem bind {f : Effect α} {g : α → Effect β} (hf : f.OnlyReports P)
    (hg : ∀ a, (g a).OnlyReports P) : Effect.OnlyReports P (f >>= g) where
  adds w := by
    obtain ⟨events, hevents, hadds⟩ := hf.adds w
    obtain ⟨more, hmore, hadds'⟩ := (hg (f w).1).adds (f w).2
    -- Behind every log come the events of the first effect, and then those of the second.
    refine ⟨events ++ more, List.forall_mem_append.mpr ⟨hevents, hmore⟩, fun log => ?_⟩
    rw [Effect.bind_apply, hadds log]
    dsimp only
    rw [hadds' (log ++ events), List.append_assoc]
    rfl
  drawn_le w := Nat.le_trans (hf.drawn_le w) ((hg (f w).1).drawn_le (f w).2)

/-- A look at the world that does not go to the log. -/
theorem get_bind {g : World → Effect β} (hlog : ∀ w log, g (w.withLog log) = g w)
    (hg : ∀ w, (g w).OnlyReports P) : Effect.OnlyReports P (get >>= g) where
  adds w := by
    obtain ⟨events, hevents, hadds⟩ := (hg w).adds w
    refine ⟨events, hevents, fun log => ?_⟩
    -- The log of the world that is looked at has no part in what comes next.
    show g (w.withLog log) (w.withLog log) = ((g w w).1, (g w w).2.withLog (log ++ events))
    rw [hlog, hadds]
  drawn_le w := (hg w).drawn_le w

theorem newId (supply : Supply) : (Effect.newId supply).OnlyReports P :=
  draw _

theorem now (supply : Supply) : (Effect.now supply).OnlyReports P :=
  draw _

theorem nowMillis (supply : Supply) : (Effect.nowMillis supply).OnlyReports P :=
  bind (now supply) (fun _ => pure _)

end Effect.OnlyReports

end DialogStub
