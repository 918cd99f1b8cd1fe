import DialogStub.Proofs.Api.Step

/-!
# Runs of requests

* `Server.Reachable` — the worlds that requests can lead to;
* `World.Fresh` — the ids that are still to be drawn are not in the store;
* `Supply.New` — ids that are never drawn twice, and that no seed has;
* `Server.run` — the answers to requests that come one after the other.

A reachable store is sound whether ids are fresh or not, and a supply of new ids keeps every
reachable world fresh.
-/

namespace DialogStub

open Http

/-! ### Fresh ids -/

/-- No id that is still to be drawn is in the store. -/
def World.Fresh (supply : Supply) (w : World) : Prop :=
  ∀ n, w.drawn ≤ n → w.store.get? (supply.id n) = none

/-- Ids that are never drawn twice, and that no seed has. -/
structure Supply.New (supply : Supply) (seeds : List Session) : Prop where
  injective : ∀ m n, supply.id m = supply.id n → m = n
  ne_seed : ∀ n, ∀ s ∈ seeds, s.id ≠ supply.id n

/-! ### Sound stores -/

namespace Server

variable {server : Server}

/-- **A step keeps the store sound**, whether the ids that it draws are fresh or not. -/
theorem Step.sound {request : Request} {w : World} {response : Response} {w' : World}
    (h : w.store.Sound) (step : server.Step request w response w') : w'.store.Sound := by
  cases step with
  | quiet onward => exact onward.store_eq ▸ h
  | created n _ _ _ _ _ _ _ store_eq => exact store_eq ▸ h.upsert _
  | appended _ _ _ _ _ _ _ _ _ _ _ _ _ append_eq => exact h.append append_eq

/-! ### Reachable worlds -/

/-- A world to which requests can lead, from the one in which the server begins. -/
inductive Reachable (server : Server) : World → Prop where
  | initial : Reachable server server.initial
  | step {w : World} (request : Request) (h : Reachable server w) :
      Reachable server (server.handle request w).2

/-- So every reachable store is sound. -/
theorem Reachable.sound {w : World} (h : server.Reachable w) : w.store.Sound := by
  induction h with
  | initial => exact Store.Sound.seeded _
  | step request _ ih => exact (server.handle_step request _).sound ih

/-- Every id in a reachable store is that of a seed, or has been drawn. -/
theorem Reachable.origin {w : World} (h : server.Reachable w) :
    ∀ id ∈ w.store.ids, (∃ s ∈ server.fixtures.sessions, s.id = id) ∨
      ∃ n < w.drawn, server.supply.id n = id := by
  induction h with
  | initial => exact fun id hid => .inl (Store.Sound.exists_of_mem_ids_seeded hid)
  | @step w request h ih =>
    have hstep := server.handle_step request w
    generalize server.handle request w = result at hstep
    intro id hid
    -- A step adds at most one id, and it has drawn this id on its way.
    cases hstep with
    | quiet onward =>
      rw [onward.store_eq] at hid
      exact (ih id hid).imp_right fun ⟨n, hn, heq⟩ =>
        ⟨n, Nat.lt_of_lt_of_le hn onward.drawn_le, heq⟩
    | created n _ _ _ drawn_le lt_drawn _ _ store_eq =>
      -- The store has one id more at most, and this one was drawn in the step.
      rw [store_eq] at hid
      rcases h.sound.mem_ids_upsert hid with heq | hold
      · exact .inr ⟨n, lt_drawn, heq.symm⟩
      · exact (ih id hold).imp_right fun ⟨m, hm, heq⟩ => ⟨m, by omega, heq⟩
    | appended n _ _ _ _ _ drawn_le lt_drawn _ _ _ _ _ append_eq =>
      -- A message has an id as well, but the ids of sessions stay as they are.
      rw [h.sound.ids_append append_eq] at hid
      exact (ih id hid).imp_right fun ⟨m, hm, heq⟩ => ⟨m, by omega, heq⟩

/-- **Fresh ids stay fresh.** If ids are never drawn twice and no seed has one, then no reachable
    store has an id that is still to be drawn. -/
theorem Reachable.fresh {w : World} (h : server.Reachable w)
    (new : server.supply.New server.fixtures.sessions) : w.Fresh server.supply := by
  intro n hn
  rw [h.sound.get?_eq_none_iff_ids]
  intro hmem
  rcases h.origin _ hmem with ⟨s, hs, heq⟩ | ⟨m, hm, heq⟩
  · exact new.ne_seed n s hs heq
  · -- What has been drawn is not drawn again.
    have := new.injective m n heq
    omega

/-! ### Runs -/

/-- The answers to requests that come one after the other, each with its request. -/
def run (server : Server) : List Request → Effect (List (Request × Response))
  | [] => return []
  | request :: rest => do
    let response ← server.handle request
    return (request, response) :: (← run server rest)

theorem run_nil (w : World) : server.run [] w = ([], w) := rfl

/-- A run is its first request, and then the others in the world that this one leaves. -/
theorem run_cons (request : Request) (rest : List Request) (w : World) :
    server.run (request :: rest) w =
      ((request, (server.handle request w).1) :: (server.run rest (server.handle request w).2).1,
        (server.run rest (server.handle request w).2).2) := rfl

/-- A run can be cut in two, the second part in the world that the first one leaves. -/
theorem run_append (before after : List Request) (w : World) :
    server.run (before ++ after) w =
      ((server.run before w).1 ++ (server.run after (server.run before w).2).1,
        (server.run after (server.run before w).2).2) := by
  -- The world is that behind the first part, so the induction is about all worlds.
  induction before generalizing w with
  | nil => rfl
  | cons request rest ih => rw [List.cons_append, run_cons, ih, run_cons, List.cons_append]

/-- Runs lead from reachable worlds to such. -/
theorem Reachable.run {w : World} (h : server.Reachable w) (requests : List Request) :
    server.Reachable (server.run requests w).2 := by
  induction requests generalizing w with
  | nil => exact h
  | cons request rest ih => exact ih (h.step request)

/-! ### A small server -/

/-- A server with one seed and a demo of three messages, for small runs. No platform is there. -/
def sample : Server where
  config := .standard
  fixtures :=
    { sessions := [⟨"a", .completed, .epoch, 3, "old", some "u", none⟩]
      scenarios := []
      replies := ⟨"hello", "checking", "thanks"⟩
      services := ⟨⟨"chat", "sessions", none⟩, ⟨"nlu", "texts", none⟩, ⟨"bot", "all", none⟩⟩
      external := ⟨.obj [], .null, .null, .null⟩
      demo := ⟨["one", "", "two"]⟩ }
  client := .ofAddress (fun _ => .failed) Config.standard.platformUrl
  supply := .strokes
  policy := .any

/-- Strokes in different number are different ids, and the seed has none for its id. -/
theorem sample_new : sample.supply.New sample.fixtures.sessions where
  injective m n h := by
    have := congrArg (fun s : String => s.toList.length) h
    simpa [sample, Supply.strokes] using this
  ne_seed n s hs heq := by
    have hseed : s.id = "a" := by
      rw [List.mem_singleton.mp hs]
    have := congrArg String.toList (hseed.symm.trans heq)
    simp [sample, Supply.strokes, List.replicate_succ] at this

/-- A post to the seed of the small server. -/
def samplePost : Request where
  method := .post
  target := ⟨"/api/v1/chat/messages"⟩
  headers := [("content-type", Utf8.bytes "application/json; charset=utf-8")]
  body := .full (Utf8.bytes "\x7b\"content\":\"hi\", \"x\":[1], \"session_id\":\"a\"\x7d")

end Server

end DialogStub
