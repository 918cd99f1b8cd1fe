import DialogStub.Proofs.Chat.Positions
import Mathlib.Data.List.Induction

/-!
# Seeds

* `Store.lastOf` — the last of some sessions with an id;
* `Store.ids_seeded`, `Store.get?_seeded` — the ids of a seeded store, and the session that it has
  under each of them;
* `Store.Sound.sessions_eq` — the sessions of a store are those of its ids;
* `Store.seeded_eq_of_same` — two seeded stores with the same ids, and the same sessions under them,
  are equal;
* `Store.seeded_first_places_last_records` — what a seeded store lists, and which seeds make the
  same.

The place of an id comes from the first seed with it, and the session in this place from the last.
So both are told apart, each by an induction that adds one more seed at the end.
-/

namespace DialogStub.Store

/-! ### One more seed -/

/-- The last of some sessions with an id. -/
def lastOf (id : String) (sessions : List Session) : Option Session :=
  (sessions.filter (·.id = id)).getLast?

/-- The last one of an id stands in the second list, or in the first. -/
theorem lastOf_append (id : String) (sessions more : List Session) :
    lastOf id (sessions ++ more) = (lastOf id more).or (lastOf id sessions) := by
  rw [lastOf, List.filter_append, List.getLast?_append]
  rfl

/-- Of one session it is the last. -/
theorem lastOf_singleton (id : String) (s : Session) :
    lastOf id [s] = if id = s.id then some s else none := by
  by_cases h : s.id = id
  · simp [lastOf, h]
  · simp [lastOf, h, Ne.symm h]

/-- An id that no session has is not found. -/
theorem lastOf_eq_none {id : String} {sessions : List Session} (h : ∀ s ∈ sessions, s.id ≠ id) :
    lastOf id sessions = none := by
  rw [lastOf, List.getLast?_eq_none_iff, List.filter_eq_nil_iff]
  simpa using h

/-- One more element is new or has been there. -/
theorem eraseDups_concat {α : Type} [BEq α] [LawfulBEq α] [DecidableEq α] (as : List α) (a : α) :
    (as ++ [a]).eraseDups = if a ∈ as then as.eraseDups else as.eraseDups ++ [a] := by
  rw [List.eraseDups_append]
  by_cases h : a ∈ as
  · simp [List.removeAll, h]
  · simp [List.removeAll, h, List.eraseDups_cons]

theorem seeded_concat (seeds : List Session) (s : Session) :
    Store.seeded (seeds ++ [s]) = (Store.seeded seeds).upsert s :=
  List.foldl_append

/-- An id that a store has keeps its place, and another one comes behind all others. -/
theorem Sound.ids_upsert {store : Store} (h : store.Sound) (s : Session) :
    (store.upsert s).ids = if s.id ∈ store.ids then store.ids else store.ids ++ [s.id] := by
  by_cases hmem : s.id ∈ store.ids
  · rw [if_pos hmem]
    rcases h.unknown_or_holds s.id with hnone | ⟨before, old, after, hs⟩
    · exact absurd hmem (h.get?_eq_none_iff_ids.mp (get?_eq_none hnone))
    · rw [hs.upsert_eq]
      simp [ids, hs.sessions_eq, hs.id_eq]
  · rw [if_neg hmem, h.ids_upsert_new (h.get?_eq_none_iff_ids.mpr hmem)]

/-! ### Seeded stores -/

/-- **Places.** The ids of a seeded store are those of its seeds, each where it comes first. -/
theorem ids_seeded (seeds : List Session) :
    (Store.seeded seeds).ids = (seeds.map Session.id).eraseDups := by
  induction seeds using List.reverseRecOn with
  | nil => rfl
  | append_singleton seeds s ih =>
    rw [seeded_concat, (Sound.seeded seeds).ids_upsert, ih, List.map_append, List.map_singleton,
      eraseDups_concat]
    simp only [List.mem_eraseDups]

/-- **Records.** Under each id a seeded store has the last seed with this id. -/
theorem get?_seeded (seeds : List Session) (id : String) :
    (Store.seeded seeds).get? id = lastOf id seeds := by
  induction seeds using List.reverseRecOn with
  | nil => rfl
  | append_singleton seeds s ih =>
    rw [seeded_concat, (Sound.seeded seeds).get?_upsert, ih, lastOf_append, lastOf_singleton]
    split <;> rfl

/-- Seeds have no messages. -/
theorem messages_seeded (seeds : List Session) : (Store.seeded seeds).messages = [] := by
  induction seeds using List.reverseRecOn with
  | nil => rfl
  | append_singleton seeds s ih =>
    have hupsert (store : Store) : (store.upsert s).messages = store.messages := by
      unfold Store.upsert
      split <;> rfl
    rw [seeded_concat, hupsert, ih]

/-- The sessions of a store are what it has under its ids. -/
theorem Sound.sessions_eq {store : Store} (h : store.Sound) :
    store.sessions = store.ids.filterMap store.get? := by
  have hfound : ∀ s ∈ store.sessions, (store.get? ∘ Session.id) s = some s :=
    fun s hs => h.get?_eq_some_iff.mpr ⟨hs, rfl⟩
  rw [ids, List.filterMap_map, List.filterMap_congr hfound, List.filterMap_some]

/-- Ids and the sessions under them are all that there is to a seeded store. -/
theorem seeded_eq_of_same {seeds seeds' : List Session}
    (hids : (Store.seeded seeds).ids = (Store.seeded seeds').ids)
    (hget : ∀ id, (Store.seeded seeds).get? id = (Store.seeded seeds').get? id) :
    Store.seeded seeds = Store.seeded seeds' := by
  have hsessions : (Store.seeded seeds).sessions = (Store.seeded seeds').sessions := by
    rw [(Sound.seeded seeds).sessions_eq, (Sound.seeded seeds').sessions_eq, hids]
    exact List.filterMap_congr fun id _ => hget id
  have hindex : (Store.seeded seeds).index = (Store.seeded seeds').index := by
    rw [(Tabled.seeded seeds).index_eq, (Tabled.seeded seeds').index_eq, hids]
  have hmessages : (Store.seeded seeds).messages = (Store.seeded seeds').messages := by
    rw [messages_seeded, messages_seeded]
  exact Store.mk.injEq .. ▸ ⟨hsessions, hindex, hmessages⟩

/-! ### Sessions as seeds -/

/-- Where nothing comes twice, nothing is dropped. -/
theorem eraseDups_of_nodup {α : Type} [BEq α] [LawfulBEq α] [DecidableEq α] {as : List α}
    (h : as.Nodup) : as.eraseDups = as := by
  induction as using List.reverseRecOn with
  | nil => rfl
  | append_singleton as a ih =>
    obtain ⟨has, -, hnew⟩ := List.nodup_append.mp h
    have hfresh : a ∉ as := fun hmem => hnew a hmem a List.mem_cons_self rfl
    rw [eraseDups_concat, if_neg hfresh, ih has]

/-- Among the sessions of a store, the last one with an id is the only one. -/
theorem Sound.lastOf_sessions {store : Store} (h : store.Sound) (id : String) :
    lastOf id store.sessions = store.get? id := by
  rcases h.unknown_or_holds id with hnone | ⟨before, s, after, hs⟩
  · rw [get?_eq_none hnone, lastOf_eq_none (h.ne_of_lookup_eq_none hnone)]
  · -- No session before or behind it has the id.
    rw [hs.get?_eq, hs.sessions_eq, ← List.singleton_append, lastOf_append, lastOf_append,
      lastOf_singleton, if_pos hs.id_eq.symm, lastOf_eq_none hs.after_ne]
    rfl

/-- **A store seeded with the sessions of another** has the same sessions, and finds them. -/
theorem Sound.reseeded {store : Store} (h : store.Sound) :
    (Store.seeded store.sessions).sessions = store.sessions ∧
      ∀ id, (Store.seeded store.sessions).get? id = store.get? id := by
  -- A session is the last of its id, since ids do not come twice.
  have hget : ∀ id, (Store.seeded store.sessions).get? id = store.get? id :=
    fun id => (get?_seeded _ id).trans (h.lastOf_sessions id)
  have hids : (Store.seeded store.sessions).ids = store.ids :=
    (ids_seeded _).trans (eraseDups_of_nodup h.nodup_ids)
  refine ⟨?_, hget⟩
  calc (Store.seeded store.sessions).sessions
      = (Store.seeded store.sessions).ids.filterMap (Store.seeded store.sessions).get? :=
        (Sound.seeded _).sessions_eq
    _ = store.ids.filterMap store.get? := by
        rw [hids]
        exact List.filterMap_congr fun id _ => hget id
    _ = store.sessions := h.sessions_eq.symm

/-- The sessions of a seeded store make the same store again. -/
theorem seeded_sessions_seeded (seeds : List Session) :
    Store.seeded (Store.seeded seeds).sessions = Store.seeded seeds := by
  obtain ⟨hsessions, hget⟩ := (Sound.seeded seeds).reseeded
  exact seeded_eq_of_same (congrArg (List.map Session.id) hsessions) hget

/-- Seeds that come twice make the same store as if they came once. -/
theorem seeded_append_self (seeds : List Session) :
    Store.seeded (seeds ++ seeds) = Store.seeded seeds := by
  refine seeded_eq_of_same ?_ fun id => ?_
  · -- The second time there is no new id.
    have hnone : (seeds.map Session.id).removeAll (seeds.map Session.id) = [] := by
      simp [List.removeAll]
    rw [ids_seeded, ids_seeded, List.map_append, List.eraseDups_append, hnone, List.eraseDups_nil,
      List.append_nil]
  · rw [get?_seeded, get?_seeded, lastOf_append, Option.or_self]

/-! ### Exchanged neighbours -/

/-- Seeds that come from others by exchanges of neighbours with different ids. -/
inductive Exchanged (seeds : List Session) : List Session → Prop where
  | same : Exchanged seeds seeds
  | swap {before after : List Session} {s t : Session}
      (rest : Exchanged seeds (before ++ s :: t :: after)) (hne : s.id ≠ t.id) :
      Exchanged seeds (before ++ t :: s :: after)

/-- Of two neighbours with different ids at most one counts for an id. -/
theorem lastOf_swap {before after : List Session} {s t : Session} (hne : s.id ≠ t.id)
    (id : String) :
    lastOf id (before ++ t :: s :: after) = lastOf id (before ++ s :: t :: after) := by
  have hpair : [t, s].filter (·.id = id) = [s, t].filter (·.id = id) := by
    by_cases hs : s.id = id
    · have ht : t.id ≠ id := fun ht => hne (hs.trans ht.symm)
      simp [hs, ht]
    · simp [hs, List.filter_cons]
  have hsplit (x y : Session) : before ++ x :: y :: after = before ++ ([x, y] ++ after) := rfl
  rw [hsplit, hsplit, lastOf, lastOf, List.filter_append, List.filter_append, hpair,
    List.filter_append, List.filter_append]

/-- The last one of an id is not changed by neighbours that change places. -/
theorem Exchanged.lastOf_eq {seeds seeds' : List Session} (h : Exchanged seeds seeds')
    (id : String) : lastOf id seeds' = lastOf id seeds := by
  induction h with
  | same => rfl
  | swap _ hne ih => rw [lastOf_swap hne, ih]

/-! ### Places and records -/

/-- **Places from the first, records from the last.** A store lists the ids of its seeds, each once
    and where it comes first, with the last seed that has it, and no histories. So nothing changes
    if the seeds come twice or if they are what the store lists, and an exchange of neighbours with
    different ids changes no record. -/
theorem seeded_first_places_last_records (seeds : List Session) :
    (Store.seeded seeds).ids = (seeds.map Session.id).eraseDups ∧
    (Store.seeded seeds).ids.Nodup ∧
    (Store.seeded seeds).sessions =
      (seeds.map Session.id).eraseDups.filterMap (lastOf · seeds) ∧
    (∀ id, (Store.seeded seeds).get? id = lastOf id seeds) ∧
    (Store.seeded seeds).messages = [] ∧
    (∀ s ∈ seeds, (Store.seeded seeds).history s.id = .ok []) ∧
    Store.seeded (seeds ++ seeds) = Store.seeded seeds ∧
    Store.seeded (Store.seeded seeds).sessions = Store.seeded seeds ∧
    ∀ seeds', Exchanged seeds seeds' →
      ∀ id, (Store.seeded seeds').get? id = (Store.seeded seeds).get? id := by
  have sound := Sound.seeded seeds
  refine ⟨ids_seeded seeds, sound.nodup_ids, ?_, get?_seeded seeds, messages_seeded seeds, ?_,
    seeded_append_self seeds, seeded_sessions_seeded seeds, ?_⟩
  · rw [sound.sessions_eq, ids_seeded]
    exact List.filterMap_congr fun id _ => get?_seeded seeds id
  · intro s hs
    have hid : s.id ∈ (Store.seeded seeds).ids := by
      rw [ids_seeded, List.mem_eraseDups]
      exact List.mem_map_of_mem hs
    -- Every seed is found under its id, though it may be another record that has this id.
    obtain ⟨found, hfound⟩ : ∃ found, (Store.seeded seeds).get? s.id = some found :=
      Option.ne_none_iff_exists'.mp fun hnone => sound.get?_eq_none_iff_ids.mp hnone hid
    rw [sound.history_of_get? hfound, historyOf_seeded]
  · intro seeds' hseeds id
    rw [get?_seeded, get?_seeded, hseeds.lastOf_eq]

/-- One id comes three times, and another one comes second and last. -/
theorem seeded_three_times :
    let seed (id : String) (count : Nat) : Session :=
      { Session.fresh id .epoch with messageCount := count }
    let rest := [seed "a" 2, seed "c" 1, seed "a" 3, seed "b" 2]
    (Store.seeded (seed "a" 1 :: seed "b" 1 :: rest)).sessions =
        [seed "a" 3, seed "b" 2, seed "c" 1] ∧
      (Store.seeded (seed "b" 1 :: seed "a" 1 :: rest)).get? "a" = some (seed "a" 3) := by
  intro seed rest
  obtain ⟨-, -, hsessions, hget, -, -, -, -, hexchanged⟩ :=
    seeded_first_places_last_records (seed "a" 1 :: seed "b" 1 :: rest)
  -- The neighbours have different ids.
  have hneighbours : Exchanged (seed "a" 1 :: seed "b" 1 :: rest)
      (seed "b" 1 :: seed "a" 1 :: rest) :=
    @Exchanged.swap _ [] rest (seed "a" 1) (seed "b" 1) .same (by decide)
  constructor
  · rw [hsessions]
    decide +kernel
  · rw [hexchanged _ hneighbours, hget]
    decide +kernel

end DialogStub.Store
