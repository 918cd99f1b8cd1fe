import DialogStub.Proofs.Api.Run
import DialogStub.Proofs.Chat.Positions

/-!
# Counting sessions in two steps

The state of the chat service counts the sessions that go on, and then all of them. Other requests
may come between.

* `Store.completed` — how many sessions have ended;
* `Store.creations` — how many sessions a run of operations makes;
* `Store.performAll_counts` — how a run changes the counts of a store;
* `Server.chatStatusAmid_respond` — the answer of the chat service, with something between its two
  counts;
* `Server.chatStatusAmid_torn` — the two numbers of an answer, whatever comes between.

Sessions never end, never go, and go on when they are made. So a run leaves the number of those that
have ended as it is, and this number is all that the two counts of one store differ by.
-/

namespace DialogStub

open Http

namespace Store

/-! ### Counts of one store -/

/-- The number of sessions that have ended. -/
def completed (store : Store) : Nat :=
  store.sessions.countP (fun s => s.status = .completed)

/-- A session goes on, or it has ended. -/
theorem total_eq (store : Store) : store.total = store.active + store.completed := by
  have hsplit := List.length_eq_countP_add_countP Session.isActive (l := store.sessions)
  have hended : store.completed = store.sessions.countP (fun s => ¬s.isActive) := by
    refine List.countP_congr (fun s _ => ?_)
    cases h : s.status <;> simp [Session.isActive, h]
  rw [hended]
  exact hsplit

/-- A session under a new id is one more, and does not count among those that have ended if it has
    just begun. -/
theorem counts_upsert {store : Store} {session : Session}
    (hid : store.index.lookup session.id = none) (hactive : session.status = .active) :
    (store.upsert session).total = store.total + 1 ∧
      (store.upsert session).completed = store.completed := by
  rw [upsert_eq_add hid]
  simp [total, completed, hactive]

/-- A message does not change how many sessions there are, nor how many have ended. -/
theorem Sound.counts_append {store store' : Store} (h : store.Sound) {message : Message}
    (happend : store.append message = .ok store') :
    store'.total = store.total ∧ store'.completed = store.completed := by
  rcases h.unknown_or_holds message.sessionId with hid | ⟨before, s, after, hs⟩
  · rw [append_eq_error hid] at happend
    cases happend
  · rw [hs.append_eq] at happend
    cases happend
    refine ⟨by simp [total, hs.sessions_eq], ?_⟩
    simp only [completed, hs.sessions_eq, List.countP_append, List.countP_cons]
    rfl

/-! ### Counts over a run -/

/-- The number of sessions that operations make. -/
def creations (ops : List Operation) : Nat :=
  ops.count .create

variable {supply : Supply} {w : World}

/-- A run makes fresh sessions if both of its parts do, each from the world in which it begins. -/
theorem CreatesFresh.append_iff {before after : List Operation} :
    CreatesFresh supply (before ++ after) w ↔
      CreatesFresh supply before w ∧ CreatesFresh supply after (performAll supply before w).2 := by
  induction before generalizing w with
  | nil => simp [CreatesFresh, performAll_nil]
  | cons op before ih =>
    rw [List.cons_append, CreatesFresh, CreatesFresh, ih, performAll_cons, and_assoc]

/-- **One operation.** It makes one session or none, and ends none. -/
theorem perform_counts (op : Operation) (h : w.store.Sound)
    (fresh : op = .create → w.store.get? (supply.id w.drawn) = none) :
    (op.perform supply w).2.store.total = w.store.total + creations [op] ∧
      (op.perform supply w).2.store.completed = w.store.completed := by
  have hleaves := perform_leaves supply w op
  generalize (op.perform supply w).2.store = store' at hleaves ⊢
  cases hleaves with
  | kept hop => simp [creations, hop]
  | created => exact counts_upsert (h.get?_eq_none_iff.mp (fresh rfl)) rfl
  | appended hadd => exact h.counts_append hadd

/-- **Any number of operations.** By induction: a run adds the sessions that it makes, and leaves
    the number of those that have ended. -/
theorem performAll_counts (ops : List Operation) (h : w.store.Sound)
    (fresh : CreatesFresh supply ops w) :
    (performAll supply ops w).2.store.total = w.store.total + creations ops ∧
      (performAll supply ops w).2.store.completed = w.store.completed := by
  induction ops generalizing w with
  | nil => exact ⟨rfl, rfl⟩
  | cons op ops ih =>
    obtain ⟨hnow, hlater⟩ := fresh
    -- The first operation is fresh in this world, and the others in the one that it leaves.
    obtain ⟨htotal, hcompleted⟩ := perform_counts op h hnow
    have hsound : (op.perform supply w).2.store.Sound := performAll_sound supply [op] h
    obtain ⟨htotal', hcompleted'⟩ := ih hsound hlater
    have hsplit : creations (op :: ops) = creations [op] + creations ops := by
      rw [creations, creations, creations, ← List.count_append, List.singleton_append]
    rw [performAll_cons]
    refine ⟨?_, hcompleted'.trans hcompleted⟩
    rw [htotal', htotal, hsplit, Nat.add_assoc]

end Store

namespace Server

/-! ### The state of the chat service -/

/-- The first number is counted before what comes between, and the second one after it. -/
theorem chatStatusAmid_respond {α : Type} (server : Server) (between : Effect α) (w : World) :
    ∃ time, (Handler.respond (server.chatStatusAmid between) w).1 =
      .json 200 (ServiceStatus.shape.toJson
        { ServiceStatus.running server.fixtures.services.chat time with
          activeSessions := some w.store.active
          totalSessions := some (between w).2.store.total }) :=
  ⟨_, rfl⟩

open Store in
/-- **Two counts that others may come between.** Take any seeds, any run of operations to the first
    count, and any run of others between it and the second one. Then the answer shows as many
    sessions in all as go on, as seeds had ended, and as others made meanwhile. So never more go on
    than there are; and if others made none, then both numbers are those of the store at the first
    count, and of the store at the second one. -/
theorem chatStatusAmid_torn (server : Server) (seeds : List Session)
    (before between : List Operation)
    (fresh : CreatesFresh server.supply (before ++ between) (.ofStore (.seeded seeds))) :
    let first := (performAll server.supply before (.ofStore (.seeded seeds))).2
    let second := (performAll server.supply between first).2
    ∃ time active total,
      (Handler.respond (server.chatStatusAmid (performAll server.supply between)) first).1 =
        .json 200 (ServiceStatus.shape.toJson
          { ServiceStatus.running server.fixtures.services.chat time with
            activeSessions := some active
            totalSessions := some total }) ∧
      active = first.store.active ∧ total = second.store.total ∧
      total = active + (Store.seeded seeds).completed + creations between ∧ active ≤ total ∧
      (creations between = 0 →
        (active, total) = (first.store.active, first.store.total) ∧
        (active, total) = (second.store.active, second.store.total)) := by
  intro first second
  obtain ⟨hbefore, hbetween⟩ := CreatesFresh.append_iff.mp fresh
  have hstart : (Store.seeded seeds).Sound := .seeded seeds
  have hsound : first.store.Sound := performAll_sound server.supply before hstart
  obtain ⟨-, hended⟩ := performAll_counts before hstart hbefore
  obtain ⟨htotal, hended'⟩ := performAll_counts between hsound hbetween
  change first.store.completed = (Store.seeded seeds).completed at hended
  change second.store.total = first.store.total + creations between at htotal
  change second.store.completed = first.store.completed at hended'
  -- The counts of each of the two stores differ by the sessions that have ended.
  have hfirst := first.store.total_eq
  have hsecond := second.store.total_eq
  obtain ⟨time, hresponse⟩ :=
    server.chatStatusAmid_respond (performAll server.supply between) first
  refine ⟨time, _, _, hresponse, rfl, rfl, ?_, ?_, fun hnone => ⟨?_, ?_⟩⟩
  · show second.store.total = _
    omega
  · show first.store.active ≤ second.store.total
    omega
  · show (first.store.active, second.store.total) = _
    rw [show second.store.total = first.store.total by omega]
  · show (first.store.active, second.store.total) = _
    rw [show first.store.active = second.store.active by omega]

/-- A seed that has ended takes the place of the first, one session is made before the counts, and
    two are made between them. -/
theorem chatStatusAmid_torn_sample :
    let seeds := [Session.fresh "a" .epoch, Session.fresh "b" .epoch,
      ⟨"a", .completed, .epoch, 3, "old", some "u", none⟩]
    let before := [Store.Operation.create, .append "a" "x" .user none]
    let between := [Store.Operation.create, .append "nobody" "y" .bot none, .total, .create]
    let first := (Store.performAll sample.supply before (.ofStore (.seeded seeds))).2
    Store.CreatesFresh sample.supply (before ++ between) (.ofStore (.seeded seeds)) ∧
      ∃ time, (Handler.respond
          (sample.chatStatusAmid (Store.performAll sample.supply between)) first).1 =
        .json 200 (ServiceStatus.shape.toJson
          ⟨"chat", "running", "sessions", none, some 2, some 5, time⟩) := by
  intro seeds before between first
  -- Six operations on strokes for ids are looked through one by one.
  have fresh : Store.CreatesFresh sample.supply (before ++ between) (.ofStore (.seeded seeds)) := by
    decide +kernel
  obtain ⟨time, active, total, hresponse, hactive, -, htotal, -⟩ :=
    sample.chatStatusAmid_torn seeds before between fresh
  have htwo : active = 2 := hactive.trans (by decide +kernel)
  have hfive : total = 5 := by
    rw [htotal, htwo]
    decide +kernel
  subst htwo hfive
  exact ⟨fresh, time, hresponse⟩

end Server

end DialogStub
