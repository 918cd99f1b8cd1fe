import DialogStub.Chat.Store
import Mathlib.Data.List.Basic

/-!
# The index of the session store

A store keeps three things in step: the sessions in order, the table of their positions, and the
histories.

* `Store.Sound` — what holds of the three together;
* `Store.Holds` — the one place at which the session of an id stands, and what every operation
  does there;
* `Store.Sound.seeded`, `Store.Sound.upsert`, `Store.Sound.append` — every operation keeps them in
  step.

Nothing here asks that new ids are fresh: a session put under a known id takes its place.
-/

namespace DialogStub

/-! ### Tables -/

/-- Looking a key up compares it with the first key. -/
theorem lookup_cons_ite {α : Type} (key other : String) (value : α)
    (table : List (String × α)) :
    ((key, value) :: table).lookup other
      = if other = key then some value else table.lookup other := by
  rw [List.lookup_cons]
  by_cases h : other = key
  · simp [h]
  · have hb : (other == key) = false := by simpa using h
    simp [h, hb]

/-- **Looking up after an assignment.** The assigned key has the new value, all others keep
    theirs. -/
theorem lookup_assign {α : Type} (key other : String) (value : α) (table : List (String × α)) :
    (assign key value table).lookup other
      = if other = key then some value else table.lookup other := by
  induction table with
  | nil => rw [assign, lookup_cons_ite]
  | cons entry rest ih =>
    obtain ⟨k, v⟩ := entry
    rw [assign, lookup_cons_ite]
    -- The entry of the key takes the value; every other entry stays as it is.
    by_cases hk : k = key
    · subst hk
      rw [if_pos rfl, lookup_cons_ite]
      split <;> rfl
    · rw [if_neg hk, lookup_cons_ite, ih]
      by_cases h : other = k
      · subst h
        simp [hk]
      · simp [h]

/-- A new key is assigned behind the others. -/
theorem assign_of_lookup_eq_none {α : Type} {key : String} {table : List (String × α)}
    (value : α) (h : table.lookup key = none) :
    assign key value table = table ++ [(key, value)] := by
  induction table with
  | nil => rfl
  | cons entry rest ih =>
    obtain ⟨k, v⟩ := entry
    rw [lookup_cons_ite] at h
    by_cases hk : key = k
    · simp [hk] at h
    · rw [if_neg hk] at h
      rw [assign, if_neg (Ne.symm hk), ih h, List.cons_append]

namespace Store

/-- The ids of the sessions, in order. -/
def ids (store : Store) : List String :=
  store.sessions.map Session.id

/-! ### The place of an id -/

/-- The session of an id stands between `before` and `after`, which know nothing of the id. -/
structure Holds (store : Store) (id : String) (before : List Session) (s : Session)
    (after : List Session) : Prop where
  sessions_eq : store.sessions = before ++ s :: after
  position_eq : store.index.lookup id = some before.length
  id_eq : s.id = id
  before_ne : ∀ x ∈ before, x.id ≠ id
  after_ne : ∀ x ∈ after, x.id ≠ id

variable {store : Store} {id : String}

section Known

variable {before after : List Session} {s : Session}

/-- A session that is held is found with its number. -/
theorem Holds.find?_eq (h : store.Holds id before s after) :
    store.find? id = some (before.length, s) := by
  simp [find?, h.position_eq, h.sessions_eq]

/-- It is found under its id. -/
theorem Holds.get?_eq (h : store.Holds id before s after) : store.get? id = some s := by
  rw [get?, h.find?_eq]
  rfl

/-- Its history is shown. -/
theorem Holds.history_eq (h : store.Holds id before s after) :
    store.history id = .ok (store.historyOf id) := by
  rw [history, h.position_eq]

/-- A session that is put under a known id takes the place of the one before. -/
theorem Holds.upsert_eq {session : Session} (h : store.Holds session.id before s after) :
    store.upsert session = { store with sessions := before ++ session :: after } := by
  simp [upsert, h.position_eq, h.sessions_eq]

/-- A message counts in its session and stands at the end of its history. -/
theorem Holds.append_eq {message : Message} (h : store.Holds message.sessionId before s after) :
    store.append message = .ok
      { store with
        sessions := before ++ s.addMessage message.content :: after
        messages := assign message.sessionId
          (store.historyOf message.sessionId ++ [message]) store.messages } := by
  simp [append, h.find?_eq, h.sessions_eq]

end Known

section Unknown

/-- An unknown id has no number. -/
theorem find?_eq_none (h : store.index.lookup id = none) : store.find? id = none := by
  simp [find?, h]

/-- It has no session. -/
theorem get?_eq_none (h : store.index.lookup id = none) : store.get? id = none := by
  rw [get?, find?_eq_none h]
  rfl

/-- It has no history to show. -/
theorem history_eq_error (h : store.index.lookup id = none) :
    store.history id = .error (.sessionNotFound id) := by
  rw [history, h]

/-- A session that is put under a new id stands at the end. -/
theorem upsert_eq_add {session : Session} (h : store.index.lookup session.id = none) :
    store.upsert session =
      { store with
        sessions := store.sessions ++ [session]
        index := store.index ++ [(session.id, store.sessions.length)] } := by
  simp [upsert, h, assign_of_lookup_eq_none]

theorem append_eq_error {message : Message} (h : store.index.lookup message.sessionId = none) :
    store.append message = .error (.sessionNotFound message.sessionId) := by
  simp [append, find?_eq_none h]

end Unknown

/-- A message that cannot be added has no session. -/
theorem find?_eq_none_of_append {message : Message} {fault : StoreError}
    (h : store.append message = .error fault) : store.find? message.sessionId = none := by
  unfold append at h
  split at h
  · assumption
  · cases h

/-- A message to a known session can be added. -/
theorem exists_append {message : Message} {s : Session}
    (h : store.get? message.sessionId = some s) : ∃ store', store.append message = .ok store' := by
  obtain ⟨⟨position, found⟩, hfind, -⟩ := Option.map_eq_some_iff.mp h
  rw [append, hfind]
  exact ⟨_, rfl⟩

/-! ### Histories -/

/-- A new message stands at the end of the history of its session, and in no other. -/
theorem historyOf_append {message : Message} {store' : Store}
    (h : store.append message = .ok store') (id : String) :
    store'.historyOf id
      = if id = message.sessionId then store.historyOf id ++ [message]
        else store.historyOf id := by
  unfold append at h
  split at h
  · cases h
  · cases h
    simp only [historyOf, lookup_assign]
    by_cases heq : id = message.sessionId
    · simp [heq]
    · simp [heq]

/-- Sessions that are put into a store do not change histories. -/
theorem historyOf_upsert (store : Store) (session : Session) (id : String) :
    (store.upsert session).historyOf id = store.historyOf id := by
  unfold upsert
  split <;> rfl

/-- A seed comes without a history. -/
theorem historyOf_seeded (sessions : List Session) (id : String) :
    (Store.seeded sessions).historyOf id = [] := by
  suffices ∀ store : Store, (sessions.foldl Store.upsert store).historyOf id =
      store.historyOf id from
    this _
  induction sessions with
  | nil => exact fun _ => rfl
  | cons session rest ih =>
    exact fun store => (ih _).trans (store.historyOf_upsert session id)

/-! ### What holds of a store -/

/-- The sessions, their positions and the histories are in step. -/
structure Sound (store : Store) : Prop where
  /-- An id has a position exactly if the session there has this id. -/
  position_iff : ∀ id position, store.index.lookup id = some position ↔
    ∃ s, store.sessions[position]? = some s ∧ s.id = id
  /-- Only known ids have a history. -/
  known_of_history : ∀ id, store.index.lookup id = none → store.messages.lookup id = none
  /-- A message stands in the history of its own session. -/
  history_own : ∀ id messages, store.messages.lookup id = some messages →
    ∀ m ∈ messages, m.sessionId = id

namespace Sound

/-- An id without a position is the id of no session. -/
theorem ne_of_lookup_eq_none (h : store.Sound) {id : String}
    (hid : store.index.lookup id = none) : ∀ s ∈ store.sessions, s.id ≠ id := by
  intro s hs heq
  obtain ⟨position, hp⟩ := List.mem_iff_getElem?.mp hs
  have := (h.position_iff id position).mpr ⟨s, hp, heq⟩
  rw [hid] at this
  cases this

/-- **The place of an id.** The session at the position of an id is the only one with it. -/
theorem exists_holds (h : store.Sound) {position : Nat}
    (hid : store.index.lookup id = some position) :
    ∃ before s after, store.Holds id before s after := by
  obtain ⟨s, hs, hsid⟩ := (h.position_iff id position).mp hid
  obtain ⟨hlt, hget⟩ := List.getElem?_eq_some_iff.mp hs
  -- Two positions with one id are equal, since both are what the table says.
  have unique : ∀ (q : Nat) (x : Session), store.sessions[q]? = some x → x.id = id →
      q = position := by
    intro q x hx hxid
    have hq := (h.position_iff id q).mpr ⟨x, hx, hxid⟩
    rw [hid] at hq
    exact (Option.some.inj hq).symm
  have hlen : (store.sessions.take position).length = position := by
    rw [List.length_take]
    omega
  -- So the sessions before and behind the position have other ids.
  refine ⟨store.sessions.take position, s, store.sessions.drop (position + 1), ?_, ?_, hsid,
    ?_, ?_⟩
  · rw [← hget, List.getElem_cons_drop, List.take_append_drop]
  · rw [hlen, hid]
  · intro x hx hxid
    obtain ⟨q, hq, hxq⟩ := List.mem_take_iff_getElem.mp hx
    have := unique q x (by rw [← hxq]; exact List.getElem?_eq_getElem (by omega)) hxid
    omega
  · intro x hx hxid
    obtain ⟨q, hq, hxq⟩ := List.mem_drop_iff_getElem.mp hx
    have := unique (position + 1 + q) x
      (by rw [← hxq]; exact List.getElem?_eq_getElem (by omega)) hxid
    omega

/-- The last session stands behind all others. -/
theorem holds_last (h : store.Sound) {before : List Session} {s : Session}
    (hs : store.sessions = before ++ [s]) : store.Holds s.id before s [] := by
  have hposition : store.index.lookup s.id = some before.length :=
    (h.position_iff _ _).mpr ⟨s, by simp [hs], rfl⟩
  obtain ⟨before', s', after, hholds⟩ := h.exists_holds hposition
  -- The place that the table gives is the last one.
  have hlength : before'.length = before.length :=
    Option.some.inj (hholds.position_eq.symm.trans hposition)
  have hsplit := hs.symm.trans hholds.sessions_eq
  obtain ⟨rfl, htail⟩ := List.append_inj hsplit hlength.symm
  cases htail
  exact hholds

/-- An id is unknown, or its session has one place. -/
theorem unknown_or_holds (h : store.Sound) (id : String) :
    store.index.lookup id = none ∨ ∃ before s after, store.Holds id before s after := by
  cases hid : store.index.lookup id with
  | none => exact .inl rfl
  | some position => exact .inr (h.exists_holds hid)

/-- An id finds no session if it has no number. -/
theorem get?_eq_none_iff (h : store.Sound) {id : String} :
    store.get? id = none ↔ store.index.lookup id = none := by
  constructor
  · intro hget
    rcases h.unknown_or_holds id with hid | ⟨before, s, after, hs⟩
    · exact hid
    · rw [hs.get?_eq] at hget
      cases hget
  · exact get?_eq_none

/-- An id finds a session if this is one of the sessions, and has this id. -/
theorem get?_eq_some_iff (h : store.Sound) {id : String} {s : Session} :
    store.get? id = some s ↔ s ∈ store.sessions ∧ s.id = id := by
  constructor
  · intro hget
    rcases h.unknown_or_holds id with hid | ⟨before, s', after, hs⟩
    · rw [get?_eq_none hid] at hget
      cases hget
    · rw [hs.get?_eq] at hget
      cases hget
      exact ⟨by simp [hs.sessions_eq], hs.id_eq⟩
  · rintro ⟨hmem, hid⟩
    -- Two sessions of one id would be one and the same.
    rcases h.unknown_or_holds id with hnone | ⟨before, s', after, hs⟩
    · exact absurd hid (h.ne_of_lookup_eq_none hnone s hmem)
    · rw [hs.sessions_eq, List.mem_append, List.mem_cons] at hmem
      rcases hmem with hmem | rfl | hmem
      · exact absurd hid (hs.before_ne s hmem)
      · exact hs.get?_eq
      · exact absurd hid (hs.after_ne s hmem)

/-- No id occurs twice. -/
theorem nodup_ids (h : store.Sound) : store.ids.Nodup := by
  rw [ids, List.Nodup, List.pairwise_map, List.pairwise_iff_getElem]
  intro p q hp hq hlt heq
  -- The table gives one position for one id.
  have hpos := (h.position_iff _ p).mpr ⟨_, List.getElem?_eq_getElem hp, rfl⟩
  have hqos := (h.position_iff _ q).mpr ⟨_, List.getElem?_eq_getElem hq, rfl⟩
  rw [heq, hqos] at hpos
  have := Option.some.inj hpos
  omega

/-- An id is unknown if no session has it. -/
theorem get?_eq_none_iff_ids (h : store.Sound) : store.get? id = none ↔ id ∉ store.ids := by
  rw [h.get?_eq_none_iff]
  constructor
  · intro hid hmem
    obtain ⟨s, hs, hsid⟩ := List.mem_map.mp hmem
    exact h.ne_of_lookup_eq_none hid s hs hsid
  · intro hmem
    rcases h.unknown_or_holds id with hid | ⟨before, s, after, hs⟩
    · exact hid
    · exact absurd (by simp [ids, hs.sessions_eq, hs.id_eq]) hmem

/-! ### What the operations keep -/

/-- The empty store is sound. -/
theorem empty : Store.empty.Sound where
  position_iff := by simp [Store.empty]
  known_of_history := by simp [Store.empty]
  history_own := by simp [Store.empty]

/-- Putting a session keeps a store sound, whether its id is new or not. -/
theorem upsert (h : store.Sound) (session : Session) : (store.upsert session).Sound := by
  unfold Store.upsert
  split
  · -- The id is known: the session at its position is replaced by one with the same id.
    rename_i position hid
    obtain ⟨old, hold, holdid⟩ := (h.position_iff _ _).mp hid
    have hlt := (List.getElem?_eq_some_iff.mp hold).1
    refine ⟨fun id q => ?_, h.known_of_history, h.history_own⟩
    rw [h.position_iff]
    by_cases hq : position = q
    · subst hq
      simp [hold, List.getElem?_set_self hlt, holdid]
    · simp only [List.getElem?_set_ne hq]
  · -- The id is new: the session and its position stand behind the others.
    rename_i hid
    refine ⟨fun id q => ?_, fun id hnone => ?_, h.history_own⟩
    · rw [lookup_assign]
      -- The last position is the one of the new id, and no other position is.
      by_cases hq : q = store.sessions.length
      · subst hq
        by_cases heq : id = session.id
        · simp [heq]
        · have : ∀ s, store.sessions[store.sessions.length]? = some s → s.id ≠ id := by simp
          simp only [heq, if_false, h.position_iff]
          simp [Ne.symm heq]
      · have hget : ∀ s, (store.sessions ++ [session])[q]? = some s ↔
            store.sessions[q]? = some s := by
          intro s
          rcases Nat.lt_or_gt_of_ne hq with hlt | hgt
          · rw [List.getElem?_append_left hlt]
          · rw [List.getElem?_eq_none (by simp; omega), List.getElem?_eq_none (by omega)]
        simp only [hget]
        by_cases heq : id = session.id
        · subst heq
          simp only [if_true, Option.some.injEq, Ne.symm hq, false_iff]
          rintro ⟨s, hs, hsid⟩
          exact h.ne_of_lookup_eq_none hid s (List.mem_of_getElem? hs) hsid
        · simp only [heq, if_false, h.position_iff]
    · rw [lookup_assign] at hnone
      by_cases heq : id = session.id
      · simp [heq] at hnone
      · exact h.known_of_history id (by simpa [heq] using hnone)

/-- Adding a message keeps a store sound. -/
theorem append (h : store.Sound) {message : Message} {store' : Store}
    (happend : store.append message = .ok store') : store'.Sound := by
  rcases h.unknown_or_holds message.sessionId with hid | ⟨before, s, after, hs⟩
  · rw [append_eq_error hid] at happend
    cases happend
  · rw [hs.append_eq] at happend
    cases happend
    refine ⟨fun id q => ?_, fun id hnone => ?_, fun id messages hlook => ?_⟩
    · -- The session has changed, but neither its id nor its place has.
      rw [h.position_iff, hs.sessions_eq]
      rcases Nat.lt_trichotomy q before.length with hq | hq | hq
      · simp only [List.getElem?_append_left hq]
      · subst hq
        simp
      · obtain ⟨n, rfl⟩ : ∃ n, q = before.length + 1 + n := ⟨q - before.length - 1, by omega⟩
        simp [List.getElem?_append_right, Nat.add_assoc, Nat.add_comm 1]
    · -- The history that is assigned is that of a known id.
      have hne : id ≠ message.sessionId := by
        intro heq
        rw [heq, hs.position_eq] at hnone
        cases hnone
      rw [lookup_assign, if_neg hne]
      exact h.known_of_history id hnone
    · rw [lookup_assign] at hlook
      split at hlook
      · -- The old messages of the session are its own, and so is the new one.
        rename_i heq
        cases hlook
        intro m hm
        rcases List.mem_append.mp hm with hm | hm
        · cases hold : store.messages.lookup message.sessionId with
          | none => simp [historyOf, hold] at hm
          | some old =>
            rw [historyOf, hold] at hm
            exact (h.history_own _ old hold m hm).trans heq.symm
        · rw [List.mem_singleton.mp hm, heq]
      · exact h.history_own id messages hlook

/-- A session under a new id adds this id at the end. -/
theorem ids_upsert_new (h : store.Sound) {session : Session}
    (hid : store.get? session.id = none) :
    (store.upsert session).ids = store.ids ++ [session.id] := by
  rw [upsert_eq_add (h.get?_eq_none_iff.mp hid), ids, List.map_append]
  rfl

/-- Putting a session adds no other id than its own. -/
theorem mem_ids_upsert (h : store.Sound) {session : Session}
    (hid : id ∈ (store.upsert session).ids) : id = session.id ∨ id ∈ store.ids := by
  rcases h.unknown_or_holds session.id with hnone | ⟨before, s, after, hs⟩
  · rw [h.ids_upsert_new (get?_eq_none hnone), List.mem_append, List.mem_singleton] at hid
    exact hid.symm
  · rw [hs.upsert_eq] at hid
    simp only [ids, hs.sessions_eq, List.map_append, List.map_cons, hs.id_eq] at hid ⊢
    exact .inr hid

/-- Adding a message changes no id. -/
theorem ids_append (h : store.Sound) {message : Message} {store' : Store}
    (happend : store.append message = .ok store') : store'.ids = store.ids := by
  rcases h.unknown_or_holds message.sessionId with hid | ⟨before, s, after, hs⟩
  · rw [append_eq_error hid] at happend
    cases happend
  · rw [hs.append_eq] at happend
    cases happend
    simp [ids, hs.sessions_eq]

/-- Another session at the place of an id is the session of this id, and no other id is
    concerned. -/
theorem get?_of_replaced (h : store.Sound) {key : String} {before after : List Session}
    {s s' : Session} (hs : store.Holds key before s after) {store' : Store} (h' : store'.Sound)
    (hid : s'.id = key) (hsessions : store'.sessions = before ++ s' :: after) (id : String) :
    store'.get? id = if id = key then some s' else store.get? id := by
  by_cases heq : id = key
  · rw [if_pos heq, h'.get?_eq_some_iff, hsessions]
    exact ⟨by simp, hid.trans heq.symm⟩
  · -- Another id is found among the sessions that both stores have.
    rw [if_neg heq]
    refine Option.ext fun x => ?_
    have hne : s.id ≠ id := fun h => heq (h.symm.trans hs.id_eq)
    have hne' : s'.id ≠ id := fun h => heq (h.symm.trans hid)
    rw [h.get?_eq_some_iff, h'.get?_eq_some_iff, hsessions, hs.sessions_eq]
    simp only [List.mem_append, List.mem_cons]
    constructor
    · rintro ⟨hx | rfl | hx, hxid⟩
      · exact ⟨.inl hx, hxid⟩
      · exact absurd hxid hne'
      · exact ⟨.inr (.inr hx), hxid⟩
    · rintro ⟨hx | rfl | hx, hxid⟩
      · exact ⟨.inl hx, hxid⟩
      · exact absurd hxid hne
      · exact ⟨.inr (.inr hx), hxid⟩

/-- A session that is put into a store is the session of its id, whether the id is new or not. -/
theorem get?_upsert (h : store.Sound) (session : Session) (id : String) :
    (store.upsert session).get? id = if id = session.id then some session else store.get? id := by
  -- A new id is put at the end, and a known one keeps its place.
  rcases h.unknown_or_holds session.id with hnone | ⟨before, s, after, hs⟩
  · by_cases heq : id = session.id
    · rw [if_pos heq, (h.upsert session).get?_eq_some_iff, upsert_eq_add hnone]
      exact ⟨by simp, heq.symm⟩
    · rw [if_neg heq]
      refine Option.ext fun x => ?_
      rw [h.get?_eq_some_iff, (h.upsert session).get?_eq_some_iff, upsert_eq_add hnone]
      simp only [List.mem_append, List.mem_singleton]
      constructor
      · rintro ⟨hx | rfl, hxid⟩
        · exact ⟨hx, hxid⟩
        · exact absurd hxid.symm heq
      · exact fun ⟨hx, hxid⟩ => ⟨.inl hx, hxid⟩
  · refine h.get?_of_replaced hs (h.upsert session) rfl ?_ id
    rw [hs.upsert_eq]

/-- A message that is added counts in its session, and in no other. -/
theorem get?_append (h : store.Sound) {message : Message} {store' : Store}
    (happend : store.append message = .ok store') (id : String) :
    store'.get? id = if id = message.sessionId
      then (store.get? id).map (fun s => s.addMessage message.content) else store.get? id := by
  rcases h.unknown_or_holds message.sessionId with hid | ⟨before, s, after, hs⟩
  · rw [append_eq_error hid] at happend
    cases happend
  · -- Only the session in its place is another one.
    have h' := h.append happend
    rw [hs.append_eq] at happend
    cases happend
    have hid : (s.addMessage message.content).id = message.sessionId := hs.id_eq
    rw [h.get?_of_replaced hs h' hid rfl id]
    by_cases heq : id = message.sessionId
    · rw [if_pos heq, if_pos heq, heq, hs.get?_eq]
      rfl
    · rw [if_neg heq, if_neg heq]

/-- An unknown id has no messages. -/
theorem historyOf_eq_nil (h : store.Sound) {id : String} (hid : store.get? id = none) :
    store.historyOf id = [] := by
  rw [historyOf, h.known_of_history id (h.get?_eq_none_iff.mp hid)]
  rfl

/-- The messages of a known session are its history. -/
theorem history_of_get? (h : store.Sound) {id : String} {s : Session}
    (hid : store.get? id = some s) : store.history id = .ok (store.historyOf id) := by
  rcases h.unknown_or_holds id with hnone | ⟨before, s', after, hs⟩
  · rw [get?_eq_none hnone] at hid
    cases hid
  · exact hs.history_eq

/-- A store that is seeded with any sessions is sound. -/
theorem seeded (sessions : List Session) : (Store.seeded sessions).Sound := by
  -- The seeds are put into a store that has some of them already.
  suffices ∀ store : Store, store.Sound → (sessions.foldl Store.upsert store).Sound from
    this _ empty
  induction sessions with
  | nil => exact fun _ h => h
  | cons session rest ih => exact fun store h => ih _ (h.upsert session)

/-- A seeded store has no other ids than its seeds. -/
theorem exists_of_mem_ids_seeded {sessions : List Session}
    (hid : id ∈ (Store.seeded sessions).ids) : ∃ s ∈ sessions, s.id = id := by
  -- The claim is about any store to which the seeds are put, so that it can be proved by induction.
  suffices ∀ store : Store, store.Sound → id ∈ (sessions.foldl Store.upsert store).ids →
      id ∈ store.ids ∨ ∃ s ∈ sessions, s.id = id by
    rcases this _ empty hid with hempty | hseed
    · simp [ids, Store.empty] at hempty
    · exact hseed
  clear hid
  induction sessions with
  | nil =>
    intro store _ h
    exact .inl h
  | cons session rest ih =>
    intro store h hid
    rcases ih _ (h.upsert session) hid with hmem | ⟨s, hs, hsid⟩
    · rcases h.mem_ids_upsert hmem with heq | hold
      · exact .inr ⟨session, by simp, heq.symm⟩
      · exact .inl hold
    · exact .inr ⟨s, by simp [hs], hsid⟩

end Sound

end Store

end DialogStub
