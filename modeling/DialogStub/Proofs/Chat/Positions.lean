import DialogStub.Proofs.Chat.Ledger
import Mathlib.Data.List.Nodup

/-!
# Positions and keys of the session store

What the tables of a store look like after any run, whatever ids are drawn.

* `Store.Tabled` — the table of positions numbers the sessions in their order, and no table has a
  key twice;
* `Store.performAll_keeps` — what putting a session and adding a message keep, a run keeps;
* `Store.performAll_inStep` — sessions, positions and histories after any run from any seeds.

With `Store.Sound` this is all that there is to say of the tables: the first tells what they answer,
the second that no entry is hidden behind another. Ids need not be fresh here, since a session under
a known id takes the place of the one before.
-/

namespace DialogStub

/-! ### Keys -/

/-- An assignment adds its key behind the others, unless it is there. -/
theorem keys_assign {α : Type} (key : String) (value : α) (table : List (String × α)) :
    (assign key value table).map Prod.fst =
      if key ∈ table.map Prod.fst then table.map Prod.fst else table.map Prod.fst ++ [key] := by
  induction table with
  | nil => simp [assign]
  | cons entry rest ih =>
    obtain ⟨k, v⟩ := entry
    by_cases hk : k = key
    · subst hk
      simp [assign]
    · have hne : ¬key = k := fun heq => hk heq.symm
      simp only [assign, if_neg hk, List.map_cons, ih, List.mem_cons, hne, false_or]
      split <;> rfl

/-- An assignment keeps the keys of a table apart. -/
theorem nodup_keys_assign {α : Type} {table : List (String × α)}
    (h : (table.map Prod.fst).Nodup) (key : String) (value : α) :
    ((assign key value table).map Prod.fst).Nodup := by
  rw [keys_assign]
  split
  · exact h
  · rename_i hkey
    rw [List.nodup_append]
    refine ⟨h, List.nodup_singleton key, ?_⟩
    rintro k hk k' hk' rfl
    exact hkey (List.mem_singleton.mp hk' ▸ hk)

/-- An entry of a table with distinct keys is what the table has under its key. -/
theorem lookup_of_mem {α : Type} {table : List (String × α)} (h : (table.map Prod.fst).Nodup)
    {key : String} {value : α} (hmem : (key, value) ∈ table) :
    table.lookup key = some value := by
  induction table with
  | nil => cases hmem
  | cons entry rest ih =>
    obtain ⟨k, v⟩ := entry
    rw [List.map_cons, List.nodup_cons] at h
    rw [lookup_cons_ite]
    rcases List.mem_cons.mp hmem with heq | hrest
    · cases heq
      rw [if_pos rfl]
    · -- The key stands further on, so that it is not the first one.
      have hne : key ≠ k := fun heq => h.1 (heq ▸ List.mem_map.mpr ⟨_, hrest, rfl⟩)
      rw [if_neg hne]
      exact ih h.2 hrest

namespace Store

variable {store : Store}

/-! ### Tables -/

/-- The table of positions numbers the sessions in their order, and no history hides another. -/
structure Tabled (store : Store) : Prop where
  index_eq : store.index = store.ids.zipIdx
  histories_nodup : (store.messages.map Prod.fst).Nodup

namespace Tabled

theorem empty : Store.empty.Tabled where
  index_eq := rfl
  histories_nodup := List.nodup_nil

/-- The numbers stay in order when a session is put into the store. -/
theorem upsert (h : store.Tabled) (sound : store.Sound) (session : Session) :
    (store.upsert session).Tabled := by
  rcases sound.unknown_or_holds session.id with hid | ⟨before, s, after, hs⟩
  · -- A new id gets the next number.
    have hids := sound.ids_upsert_new (get?_eq_none hid)
    refine ⟨?_, ?_⟩
    · rw [hids, List.zipIdx_append, ← h.index_eq, upsert_eq_add hid]
      simp [ids]
    · rw [upsert_eq_add hid]
      exact h.histories_nodup
  · -- The session under a known id changes, but its id does not.
    rw [hs.upsert_eq]
    refine ⟨?_, h.histories_nodup⟩
    show store.index = _
    rw [h.index_eq, ids, hs.sessions_eq]
    simp [ids, hs.id_eq]

/-- So they do when a message is added. -/
theorem append (h : store.Tabled) (sound : store.Sound) {message : Message} {store' : Store}
    (happend : store.append message = .ok store') : store'.Tabled := by
  have hids := sound.ids_append happend
  rcases sound.unknown_or_holds message.sessionId with hid | ⟨before, s, after, hs⟩
  · rw [append_eq_error hid] at happend
    cases happend
  · rw [hs.append_eq] at happend
    cases happend
    refine ⟨?_, nodup_keys_assign h.histories_nodup _ _⟩
    rw [hids]
    exact h.index_eq

/-- No id has two numbers. -/
theorem nodup_keys (h : store.Tabled) (sound : store.Sound) :
    (store.index.map Prod.fst).Nodup := by
  rw [h.index_eq, List.zipIdx_map_fst]
  exact sound.nodup_ids

/-- There are as many numbers as sessions. -/
theorem length_index (h : store.Tabled) : store.index.length = store.sessions.length := by
  rw [h.index_eq, List.length_zipIdx, ids, List.length_map]

end Tabled

/-- The position of an id lies among the sessions, and the session there is the one that is
    found. -/
theorem Sound.find?_of_position (h : store.Sound) {id : String} {position : Nat}
    (hid : store.index.lookup id = some position) :
    ∃ hlt : position < store.sessions.length,
      store.find? id = some (position, store.sessions[position]) := by
  obtain ⟨s, hs, -⟩ := (h.position_iff id position).mp hid
  obtain ⟨hlt, hget⟩ := List.getElem?_eq_some_iff.mp hs
  exact ⟨hlt, by simp [find?, hid, hs, hget]⟩

/-! ### Runs -/

/-- What one operation makes of the store of a world. -/
inductive Operation.Leaves (supply : Supply) (w : World) : Operation → Store → Prop where
  /-- The store stays as it is. -/
  | kept {op : Operation} (h : op ≠ .create) : Operation.Leaves supply w op w.store
  /-- A session of fresh values is put. -/
  | created : Operation.Leaves supply w .create (w.store.upsert (supply.session w.drawn))
  /-- A message is added. -/
  | appended {id content : String} {type : MessageType} {intent : Option String} {store' : Store}
      (h : w.store.append (supply.message w.drawn id content type intent) = .ok store') :
      Operation.Leaves supply w (.append id content type intent) store'

/-- An operation leaves one of three stores. -/
theorem perform_leaves (supply : Supply) (w : World) (op : Operation) :
    op.Leaves supply w (op.perform supply w).2.store := by
  cases op with
  | create => exact .created
  | append id content type intent =>
    -- A message is added to a known session, and else nothing happens.
    cases hadd : w.store.append (supply.message w.drawn id content type intent) with
    | error fault =>
      have hfind : w.store.find? id = none := find?_eq_none_of_append hadd
      rw [perform_append (Effect.appendMessage_eq_error hfind)]
      exact .kept (by simp)
    | ok store' =>
      rw [perform_append (Effect.appendMessage_eq_ok hadd)]
      exact .appended hadd
  | get id => exact .kept (by simp)
  | list => exact .kept (by simp)
  | messages id => exact .kept (by simp)
  | total => exact .kept (by simp)
  | active => exact .kept (by simp)

theorem performAll_nil (supply : Supply) (w : World) : performAll supply [] w = ([], w) := rfl

/-- Operations are performed one after the other. -/
theorem performAll_cons (supply : Supply) (op : Operation) (ops : List Operation) (w : World) :
    performAll supply (op :: ops) w =
      ((op.perform supply w).1 :: (performAll supply ops (op.perform supply w).2).1,
        (performAll supply ops (op.perform supply w).2).2) := rfl

/-- **What a run keeps.** A property of stores that holds on, whatever session is put and whatever
    message is added, holds after any run of operations. -/
theorem performAll_keeps {P : Store → Prop} {supply : Supply}
    (upsert : ∀ store session, P store → P (store.upsert session))
    (append : ∀ store message store', P store → store.append message = .ok store' → P store')
    (ops : List Operation) {w : World} (h : P w.store) : P (performAll supply ops w).2.store := by
  induction ops generalizing w with
  | nil => exact h
  | cons op ops ih =>
    have hop : P (op.perform supply w).2.store := by
      -- By cases of what one operation leaves.
      have hleaves := perform_leaves supply w op
      generalize (op.perform supply w).2.store = store' at hleaves ⊢
      cases hleaves with
      | kept _ => exact h
      | created => exact upsert _ _ h
      | appended hadd => exact append _ _ _ h hadd
    rw [performAll_cons]
    exact ih hop

/-- The tables of a seeded store are in step. -/
theorem Tabled.seeded (sessions : List Session) : (Store.seeded sessions).Tabled := by
  suffices ∀ store : Store, store.Sound → store.Tabled →
      (sessions.foldl Store.upsert store).Tabled from this _ Sound.empty empty
  induction sessions with
  | nil => exact fun _ _ h => h
  | cons session rest ih =>
    exact fun store sound h => ih _ (sound.upsert session) (h.upsert sound session)

theorem performAll_sound (supply : Supply) (ops : List Operation) {w : World}
    (h : w.store.Sound) : (performAll supply ops w).2.store.Sound :=
  performAll_keeps (fun _ session h => h.upsert session) (fun _ _ _ h => h.append) ops h

/-- A run keeps the tables in step. -/
theorem performAll_tabled (supply : Supply) (ops : List Operation) {w : World}
    (sound : w.store.Sound) (h : w.store.Tabled) : (performAll supply ops w).2.store.Tabled := by
  -- Both properties are kept together, since the second one needs the first.
  have hboth : (performAll supply ops w).2.store.Sound ∧ (performAll supply ops w).2.store.Tabled :=
    performAll_keeps (P := fun store => store.Sound ∧ store.Tabled)
      (fun _ session h => ⟨h.1.upsert session, h.2.upsert h.1 session⟩)
      (fun _ _ _ h hadd => ⟨h.1.append hadd, h.2.append h.1 hadd⟩) ops ⟨sound, h⟩
  exact hboth.2

/-- **Sessions, positions and histories in step.** Take any seeds, none among them, and any run of
    operations, whatever ids are drawn, known ones among them. Then an id has a position exactly if
    this is the place of the session with this id; so no id occurs twice, and there are as many
    positions as sessions. The session at the position of an id is the one that is found, and only
    an id without a position is not found. Every history belongs to an id with a position, and all
    its messages name this id. -/
theorem performAll_inStep (supply : Supply) (seeds : List Session) (ops : List Operation) :
    let store := (performAll supply ops (.ofStore (.seeded seeds))).2.store
    (∀ id position, store.index.lookup id = some position ↔
      ∃ hlt : position < store.sessions.length, store.sessions[position].id = id) ∧
    store.ids.Nodup ∧ (store.index.map Prod.fst).Nodup ∧
    store.index.length = store.sessions.length ∧
    (∀ id position, store.index.lookup id = some position →
      ∃ hlt : position < store.sessions.length,
        store.find? id = some (position, store.sessions[position])) ∧
    (∀ id, store.find? id = none ↔ store.index.lookup id = none) ∧
    (store.messages.map Prod.fst).Nodup ∧
    ∀ id history, (id, history) ∈ store.messages →
      (store.index.lookup id).isSome ∧ ∀ m ∈ history, m.sessionId = id := by
  intro store
  have sound : store.Sound := performAll_sound supply ops (Sound.seeded seeds)
  have tabled : store.Tabled := performAll_tabled supply ops (Sound.seeded seeds) (.seeded seeds)
  refine ⟨fun id position => ?_, sound.nodup_ids, tabled.nodup_keys sound, tabled.length_index,
    fun id position hid => sound.find?_of_position hid, fun id => ?_, tabled.histories_nodup,
    fun id history hmem => ?_⟩
  · rw [sound.position_iff]
    simp [List.getElem?_eq_some_iff]
  · constructor
    · intro hfind
      cases hid : store.index.lookup id with
      | none => rfl
      | some position =>
        obtain ⟨hlt, hfound⟩ := sound.find?_of_position hid
        rw [hfind] at hfound
        cases hfound
    · exact find?_eq_none
  · have hlookup := lookup_of_mem tabled.histories_nodup hmem
    refine ⟨?_, sound.history_own id history hlookup⟩
    -- An id without a position would have no history.
    cases hid : store.index.lookup id with
    | none =>
      rw [sound.known_of_history id hid] at hlookup
      cases hlookup
    | some position => rfl

end Store

end DialogStub
