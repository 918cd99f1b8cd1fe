import DialogStub.Proofs.Api.Agreement
import DialogStub.Proofs.Api.ByName

/-!
# The stamped payload

What `GET /api/data` shows of the fixtures, and what it does not.

* `Json.Stamped` — the members of an object with the time among them;
* `Fixtures.inOrder_of_load` — the members of a payload that was loaded are in order;
* `Fixtures.AlikeButStamp` — fixtures that differ in a member `timestamp` of the payload at most;
* `Server.handle_data` — the answer for a payload that is an object, and for any other;
* `Server.handle_data_other` — payloads that are no objects cannot be told apart;
* `Server.shows_payload` — all of this for every document that is loaded.

The time is put into a copy of the payload. So what is drawn for one answer is not in the fixtures
when the next request comes, and the supply may have given any other time.
-/

namespace DialogStub

open Http Json

/-! ### Stamped objects -/

/-- The members of an object with the time among them, in place of a member of that name. -/
structure Json.Stamped (members : List (String × Json)) (time : Int)
    (shown : List (String × Json)) : Prop where
  order : InOrder shown
  mem_iff : ∀ key value, (key, value) ∈ shown ↔
    (key = "timestamp" ∧ value = .int time) ∨ (key ≠ "timestamp" ∧ (key, value) ∈ members)

/-- A time that is put into members in order takes the place of another one. -/
theorem Json.stamped_insert {members : List (String × Json)} (h : InOrder members) (time : Int) :
    Stamped members time (insert "timestamp" (.int time) members) where
  order := inOrder_insert _ _ h
  mem_iff key value := by
    rw [(insert_perm "timestamp" (.int time) h).mem_iff, List.mem_cons, List.mem_filter,
      Prod.mk.injEq, decide_eq_true_eq, and_comm (b := key ≠ "timestamp")]

/-- A member that takes the place of another does not tell what was there. -/
theorem Json.insert_eq_of_filter_eq {key : String} {members members' : List (String × Json)}
    (h : InOrder members) (h' : InOrder members')
    (heq : members'.filter (fun m => m.1 ≠ key) = members.filter fun m => m.1 ≠ key)
    (value : Json) :
    insert key value members' = insert key value members := by
  have hperm := insert_perm key value h'
  rw [heq] at hperm
  exact (inOrder_insert key value h').eq_of_perm (inOrder_insert key value h)
    (hperm.trans (insert_perm key value h).symm)

/-! ### Payloads of fixtures -/

namespace Fixtures

instance (members : List (String × Json)) : Decidable (InOrder members) :=
  inferInstanceAs (Decidable (members.Pairwise _))

/-- The members of a payload that is an object are in order. -/
def PayloadInOrder (fixtures : Fixtures) : Prop :=
  ∀ members, fixtures.external.data = .obj members → InOrder members

/-- A payload that is read from a document has its members in order. -/
theorem inOrder_of_ofBytes {document : Bytes} {fixtures : Fixtures}
    (h : ofBytes document = .ok fixtures) : fixtures.PayloadInOrder := by
  obtain ⟨⟨sessions, scenarios, replies, services, external, demo, ⟨⟩⟩, rfl, hparts⟩ :=
    Shape.inRange_of_ofBytes h
  obtain ⟨-, -, -, -, hexternal | hdefault, -⟩ := hparts
  · obtain ⟨⟨data, info, users, complexData, ⟨⟩⟩, rfl, hdata | hdefault, -⟩ := hexternal
    · intro members hobj
      obtain rfl : data = .obj members := hobj
      cases hdata with
      | obj order h => exact order
    · cases hdefault
  · cases hdefault

/-- Whether the members of a value are in order, if it is an object. -/
def isInOrder : Json → Bool
  | .obj members => decide (InOrder members)
  | _ => true

/-- So has the payload of the built-in document. -/
theorem inOrder_of_builtin {fixtures : Fixtures} (h : builtin = .ok fixtures) :
    fixtures.PayloadInOrder := by
  have hcheck : ∀ found ∈ builtin.toOption, isInOrder found.external.data = true := by
    decide +kernel
  intro members hobj
  have horder := hcheck fixtures (by rw [h]; rfl)
  rw [hobj] at horder
  exact of_decide_eq_true horder

/-- **Whatever is loaded** has its payload in order. -/
theorem inOrder_of_load {files : Files} {path : Option String} {fixtures : Fixtures}
    (h : load files path = .ok fixtures) : fixtures.PayloadInOrder := by
  cases path with
  | none => exact inOrder_of_builtin h
  | some path =>
    cases hfile : files path with
    | error fault =>
      rw [load, hfile] at h
      cases h
    | ok document => exact inOrder_of_ofBytes ((load_eq_ok_iff hfile).mp h).2

/-- Fixtures that differ in a member `timestamp` of the payload at most, which one of them may not
    have. -/
def AlikeButStamp (fixtures fixtures' : Fixtures) : Prop :=
  ∃ members members', fixtures.external.data = .obj members ∧
    fixtures' = { fixtures with external := { fixtures.external with data := .obj members' } } ∧
    members'.filter (fun m => m.1 ≠ "timestamp") = members.filter fun m => m.1 ≠ "timestamp"

end Fixtures

namespace Server

variable {server server' : Server} {request : Request}

/-! ### The answer -/

/-- A payload that is an object is shown with the time of this moment. -/
theorem getData_apply {members : List (String × Json)}
    (h : server.fixtures.external.data = .obj members) (w : World) :
    server.getData w =
      (.ok (.obj (insert "timestamp" (.int (server.supply.time w.drawn).unixSeconds) members)),
        { w with drawn := w.drawn + 1 }) := by
  rw [getData_of_obj h]
  rfl

/-- Any other payload fails, with 500 and a text of its own. -/
theorem getData_apply_other (h : ∀ members, server.fixtures.external.data ≠ .obj members)
    (w : World) : ∃ e w', server.getData w = (.error e, w') ∧ w.Beside w' ∧ e.status = 500 ∧
      e.clientMessage = "internal server error" := by
  rw [getData_of_other h]
  exact ⟨_, _, rfl, .report _ _ _ w, rfl, rfl⟩

/-- **The answer.** A payload that is an object is shown with a time that was drawn for this answer.
    For any other payload the answer is an internal error, and says no more. -/
theorem handle_data (server : Server) (hpayload : server.fixtures.PayloadInOrder)
    (views : request.Views .data) (w : World) :
    (∀ members, server.fixtures.external.data = .obj members →
      (server.handle request w).1.status = 200 ∧
      ∃ n shown, w.drawn ≤ n ∧ n < (server.handle request w).2.drawn ∧
        Stamped members (server.supply.time n).unixSeconds shown ∧
        (server.handle request w).1.body.bytes = (Json.obj shown).print) ∧
    ((∀ members, server.fixtures.external.data ≠ .obj members) →
      (server.handle request w).1.status = 500 ∧
      (server.handle request w).1.body.bytes = (ApiError.body "internal server error").print) := by
  obtain ⟨passed, w₁, -, hbeside, halike, hafter⟩ :=
    server.exists_dispatch (views.goesTo rfl) (.inl views.method_eq) views.readable w
  have hdispatch : server.dispatch .data .read passed = Handler.respond server.getData := rfl
  rw [hdispatch] at halike hafter
  constructor
  · -- The handler draws the time, behind all that the layers draw before it.
    intro members hobj
    have hrespond := Handler.respond_of_ok (getData_apply hobj w₁)
    rw [hrespond] at halike hafter
    refine ⟨halike.status_eq, w₁.drawn, _, hbeside.drawn_le, ?_,
      stamped_insert (hpayload members hobj) _, ?_⟩
    · exact Nat.lt_of_lt_of_le (Nat.lt_succ_self w₁.drawn) hafter.drawn_le
    · rw [halike.bytes_eq]
      exact Body.bytes_full _
  · intro hother
    obtain ⟨e, w', happly, -, hstatus, hmessage⟩ := getData_apply_other hother w₁
    have htells := (Handler.tells_of_error happly).1.of_alike halike
    rw [← hstatus, ← hmessage]
    exact ⟨htells.status_eq, htells.bytes_eq⟩

/-- The store and the calls stay as they are, also if the request cannot be read. -/
theorem handle_data_beside (server : Server) (hget : request.method = .get)
    (hfor : request.IsFor .data) (w : World) : w.Beside (server.handle request w).2 := by
  cases readable : Trace.isReadable request.headers request.body with
  | false => exact (server.handle_of_not_readable readable w).2
  | true =>
    have views : request.Views .data := ⟨hget, hfor, readable⟩
    obtain ⟨passed, w₁, -, hbeside, -, hafter⟩ :=
      server.exists_dispatch (views.goesTo rfl) (.inl hget) readable w
    refine hbeside.trans (World.Beside.trans ?_ hafter)
    show w₁.Beside (Handler.respond server.getData w₁).2
    -- An object is stamped, and anything else fails: neither touches the store.
    by_cases hobj : ∃ members, server.fixtures.external.data = .obj members
    · obtain ⟨members, hobj⟩ := hobj
      rw [Handler.respond_of_ok (getData_apply hobj w₁)]
      exact .draw server.supply.time w₁
    · obtain ⟨e, w', happly, hw', -⟩ := getData_apply_other (not_exists.mp hobj) w₁
      exact hw'.trans (Handler.tells_of_error happly).2

/-- Payloads that are no objects cannot be told apart. -/
theorem handle_data_other (hsupply : server'.supply = server.supply)
    (policy : server'.policy = server.policy)
    (enableSwagger : server'.config.enableSwagger = server.config.enableSwagger)
    (h : ∀ members, server.fixtures.external.data ≠ .obj members)
    (h' : ∀ members, server'.fixtures.external.data ≠ .obj members)
    (hget : request.method = .get) (hfor : request.IsFor .data) (w : World) :
    server'.handle request w = server.handle request w := by
  -- The supplies are the same from the start.
  have hagrees : server.supply.AgreesFrom 0 server'.supply := by
    rw [hsupply]
    exact .refl 0 _
  have hsame : (server.handle request).SameFrom 0 (server'.handle request) := by
    refine handle_same_of_route hagrees policy enableSwagger fun passed hmethod htarget => ?_
    have goes : passed.GoesTo .data .read :=
      ⟨⟨hfor.1, htarget ▸ hfor.2⟩, .inl (hmethod.trans hget), rfl⟩
    rw [route_of_goesTo goes, route_of_goesTo goes]
    exact Handler.respond_same (getData_same hagrees (.others h h'))
  exact (hsame w (Nat.zero_le _)).1

/-! ### Servers that are launched -/

/-- Servers that are launched in the same way agree in their layers, whatever fixtures they have. -/
theorem Launches.layers_eq {files files' : Files} {config : Config} {platform : Platform}
    {supply : Supply} {path : Option String} (h : Launches files config platform supply server)
    (h' : Launches files' { config with fixturesPath := path } platform supply server') :
    ∃ policy fixtures fixtures' client,
      server = ⟨config, fixtures, client, supply, policy⟩ ∧
      server' = ⟨{ config with fixturesPath := path }, fixtures', client, supply, policy⟩ := by
  obtain ⟨fixtures, -, hstart⟩ := h
  obtain ⟨fixtures', -, hstart'⟩ := h'
  obtain ⟨policy, hpolicy, rfl⟩ := exists_of_start? hstart
  obtain ⟨policy', hpolicy', rfl⟩ := exists_of_start? hstart'
  obtain rfl : policy' = policy := Except.ok.inj (hpolicy'.symm.trans hpolicy)
  exact ⟨policy', fixtures, fixtures', _, rfl, rfl⟩

/-- So the payload of a server has its members in order, from whatever document it came. -/
theorem Launches.inOrder {files : Files} {config : Config} {platform : Platform} {supply : Supply}
    (h : Launches files config platform supply server) : server.fixtures.PayloadInOrder := by
  obtain ⟨fixtures, hload, hstart⟩ := h
  obtain ⟨policy, -, rfl⟩ := exists_of_start? hstart
  exact Fixtures.inOrder_of_load hload

/-- A member `timestamp` of the payload cannot be found out. -/
theorem Launches.agreesFrom {files files' : Files} {config : Config} {platform : Platform}
    {supply : Supply} {path : Option String} (h : Launches files config platform supply server)
    (h' : Launches files' { config with fixturesPath := path } platform supply server')
    (halike : server.fixtures.AlikeButStamp server'.fixtures) :
    server.AgreesFrom 0 server' ∧ server'.initial = server.initial := by
  have horder := h.inOrder
  have horder' := h'.inOrder
  -- All but the payload is the same on both sides.
  obtain ⟨policy, fixtures, fixtures', client, rfl, rfl⟩ := h.layers_eq h'
  obtain ⟨members, members', hdata, hfixtures, hfilter⟩ := halike
  obtain rfl : fixtures' = { fixtures with
    external := { fixtures.external with data := .obj members' } } := hfixtures
  have hstamped : fixtures.external.data.StampedAlike (.obj members') := by
    rw [show fixtures.external.data = .obj members from hdata]
    exact .objects fun time =>
      insert_eq_of_filter_eq (horder members hdata) (horder' members' rfl) hfilter _
  exact ⟨{ AgreesFrom.refl 0 _ with data := hstamped }, rfl⟩

/-- **The payload is shown with the time, and nothing else is told.** A server is launched with any
    fixtures that can be loaded. To `GET /api/data` it answers 200 exactly if the payload is an
    object, and then with the members of this object in order, among them a time that is drawn for
    the answer, in place of a member `timestamp`. For any other payload it answers 500 with a body
    that is always the same.

    A server that is launched with other fixtures cannot be told from it by any requests if these
    differ in a member `timestamp` of the payload only. Nor can it be by this request if neither
    payload is an object, whatever else is in the fixtures.

    What is answered later, by any endpoint, would be answered as well if no such request had been
    made and the time that it showed had been another one. -/
theorem shows_payload {files : Files} {config : Config} {platform : Platform} {supply : Supply}
    {server : Server} (launches : Launches files config platform supply server) :
    (∀ request w, request.Views .data →
      let outcome := server.handle request w
      (outcome.1.status = 200 ↔ ∃ members, server.fixtures.external.data = .obj members) ∧
      (∀ members, server.fixtures.external.data = .obj members →
        ∃ n shown, w.drawn ≤ n ∧ n < outcome.2.drawn ∧
          Stamped members (supply.time n).unixSeconds shown ∧
          outcome.1.body.bytes = (Json.obj shown).print) ∧
      ((∀ members, server.fixtures.external.data ≠ .obj members) →
        outcome.1.status = 500 ∧
        outcome.1.body.bytes = (ApiError.body "internal server error").print)) ∧
    (∀ (files' : Files) path server',
      Launches files' { config with fixturesPath := path } platform supply server' →
      (server.fixtures.AlikeButStamp server'.fixtures →
        server'.initial = server.initial ∧
        ∀ requests w, server'.run requests w = server.run requests w) ∧
      ((∀ members, server.fixtures.external.data ≠ .obj members) →
        (∀ members, server'.fixtures.external.data ≠ .obj members) →
        ∀ (request : Request) w, request.method = .get → request.IsFor .data →
          server'.handle request w = server.handle request w)) ∧
    ∀ (request : Request) w, request.method = .get → request.IsFor .data →
      let after := (server.handle request w).2
      ∀ supply', supply.AgreesFrom after.drawn supply' → ∀ later,
        let outcome := { server with supply := supply' }.run later { w with drawn := after.drawn }
        ∃ log, server.run later after = (outcome.1, outcome.2.withLog log) := by
  have hsupply : server.supply = supply := by
    obtain ⟨fixtures, -, hstart⟩ := launches
    obtain ⟨policy, -, rfl⟩ := exists_of_start? hstart
    rfl
  refine ⟨?_, fun files' path server' launches' => ⟨fun halike => ?_, ?_⟩, ?_⟩
  · -- What comes with the payload is not 200, and so an answer with 200 tells that it is an object.
    intro request w views outcome
    obtain ⟨hobject, hother⟩ := server.handle_data launches.inOrder views w
    refine ⟨⟨fun hstatus => ?_, ?_⟩, fun members hobj => ?_, hother⟩
    · by_contra hnone
      have hfailed := (hother (not_exists.mp hnone)).1
      rw [hstatus] at hfailed
      cases hfailed
    · rintro ⟨members, hobj⟩
      exact (hobject members hobj).1
    · rw [← hsupply]
      exact (hobject members hobj).2
  · obtain ⟨hagrees, hinitial⟩ := launches.agreesFrom launches' halike
    exact ⟨hinitial, fun requests w => (run_same hagrees requests w (Nat.zero_le _)).1⟩
  · -- Without the stamp the payloads are not looked at, but the layers around the routes have to be
    -- the same.
    intro hother hother' request w hget hfor
    have hlayers : server'.supply = server.supply ∧ server'.policy = server.policy ∧
        server'.config.enableSwagger = server.config.enableSwagger := by
      obtain ⟨policy, fixtures, fixtures', client, rfl, rfl⟩ := launches.layers_eq launches'
      exact ⟨rfl, rfl, rfl⟩
    exact handle_data_other hlayers.1 hlayers.2.1 hlayers.2.2 hother hother' hget hfor w
  · intro request w hget hfor after supply' hagrees later
    exact run_of_beside (server.handle_data_beside hget hfor w) (hsupply ▸ hagrees) later

/-! ### Small payloads -/

/-- A document of fixtures with a payload. -/
def samplePayload (data : String) : Bytes :=
  ["\x7b\"replies\":[\"hi\",\"wait\",\"ok\"],", "\"services\":[[\"chat\",\"c\"],",
    "[\"nlu\",\"n\"],[\"bot\",\"b\"]],", "\"external\":[", data, ",0,0,0],", "\"demo\":[[]],",
    "\"scenarios\":[]\x7d"].flatMap Utf8.bytes

/-- The small server with a payload. -/
def sampleShowing (data : Json) : Server where
  config := { Config.standard with fixturesPath := some "f" }
  fixtures :=
    { sessions := []
      scenarios := []
      replies := ⟨"hi", "wait", "ok"⟩
      services := ⟨⟨"chat", "c", none⟩, ⟨"nlu", "n", none⟩, ⟨"bot", "b", none⟩⟩
      external := ⟨data, .int 0, .int 0, .int 0⟩
      demo := ⟨[]⟩ }
  client := sample.client
  supply := .strokes
  policy := .any

/-- A document of this payload launches its server. -/
theorem launches_sampleShowing {text : String} {data : Json}
    (hvalid : Utf8.ahead .start (samplePayload text) = some .start)
    (hread : Fixtures.ofBytes (samplePayload text) = .ok (sampleShowing data).fixtures) :
    Launches (fun _ => .ok (samplePayload text)) { Config.standard with fixturesPath := some "f" }
      (fun _ => .failed) .strokes (sampleShowing data) :=
  ⟨_, (Fixtures.load_eq_ok_iff rfl).mpr ⟨Utf8.valid_iff.mpr hvalid, hread⟩, rfl⟩

-- To read a document takes more steps than are allowed by default.
set_option maxRecDepth 4000 in
/-- A payload with an old time in it is shown like one without, and a number fails like an array.
    The next answer is the same if the first one came in the leap second at the end of 2016. -/
theorem shows_payload_sample :
    let request : Request := ⟨.get, ⟨"/api/data"⟩, [], .empty⟩
    let launches text server := Launches (fun _ => .ok (samplePayload text))
      { Config.standard with fixturesPath := some "f" } (fun _ => .failed) .strokes server
    let stale := sampleShowing (.obj [("b", .int 1), ("timestamp", .str "old")])
    let bare := sampleShowing (.obj [("b", .int 1)])
    let number := sampleShowing (.int 0)
    let array := sampleShowing (.arr [])
    let after := (stale.handle request stale.initial).2
    let late : Timestamp := ⟨24720479, 60, 120000000, by decide, by decide, by decide, by decide⟩
    let supply : Supply := ⟨Supply.strokes.id, fun n => if n < after.drawn then late else .epoch⟩
    launches "\x7b\"b\":1,\"timestamp\":\"old\"\x7d" stale ∧ launches "\x7b\"b\":1\x7d" bare ∧
      launches "0" number ∧ launches "[]" array ∧
      (stale.handle request stale.initial).1.status = 200 ∧
      bare.run [request] stale.initial = stale.run [request] stale.initial ∧
      (number.handle request number.initial).1.status = 500 ∧
      array.handle request number.initial = number.handle request number.initial ∧
      let outcome := { stale with supply := supply }.run [request]
        { stale.initial with drawn := after.drawn }
      ∃ log, stale.run [request] after = (outcome.1, outcome.2.withLog log) := by
  intro request launches stale bare number array after late supply
  have hstale : launches "\x7b\"b\":1,\"timestamp\":\"old\"\x7d" stale :=
    launches_sampleShowing (by decide +kernel) rfl
  have hbare : launches "\x7b\"b\":1\x7d" bare := launches_sampleShowing (by decide +kernel) rfl
  have hnumber : launches "0" number := launches_sampleShowing (by decide +kernel) rfl
  have harray : launches "[]" array := launches_sampleShowing (by decide +kernel) rfl
  have hfor : request.IsFor .data := ⟨trivial, rfl⟩
  have views : request.Views .data := ⟨rfl, hfor, by decide⟩
  obtain ⟨hshown, hothers, hlater⟩ := shows_payload hstale
  obtain ⟨hfails, hothers', -⟩ := shows_payload hnumber
  have halike : stale.fixtures.AlikeButStamp bare.fixtures := ⟨_, _, rfl, rfl, rfl⟩
  have hnumber' : ∀ members, number.fixtures.external.data ≠ .obj members := by rintro _ ⟨⟩
  have harray' : ∀ members, array.fixtures.external.data ≠ .obj members := by rintro _ ⟨⟩
  -- The theorem is applied to a server with an object and to one with a number.
  refine ⟨hstale, hbare, hnumber, harray, ?_, ?_, ?_, ?_, ?_⟩
  · exact (hshown request _ views).1.mpr ⟨_, rfl⟩
  · exact ((hothers _ (some "f") bare hbare).1 halike).2 [request] _
  · exact ((hfails request _ views).2.2 hnumber').1
  · exact (hothers' _ (some "f") array harray).2 hnumber' harray' request _ rfl hfor
  · refine hlater request stale.initial rfl hfor supply (fun m hm => ?_) [request]
    exact ⟨rfl, if_neg (Nat.not_lt.mpr hm)⟩

end Server

end DialogStub
