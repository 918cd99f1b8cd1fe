import DialogStub.Proofs.Api.Reports
import DialogStub.Proofs.Api.Restart
import DialogStub.Proofs.Api.Validation
import DialogStub.Proofs.Fixtures.Reload
import DialogStub.Proofs.Json.ByName

/-!
# Fixtures and requests that are read by name

* `Fixtures.byName`, `AddMessage.byName` and their likes — the records of the fixtures and of the
  four endpoints are read by name;
* `Server.Launches` — a server that is started with the fixtures of a file;
* `Server.launches_iff` — it is the same for a document that varies;
* `Endpoint.handle_varies` — and so is the answer to a body that varies, with all that it does;
* `Endpoint.handle_spoils` — a body that is spoiled is rejected;
* `Server.reads_by_name` — all of this.

The log tells two such bodies apart, for it shows small ones, but no handler reads the log.
-/

namespace DialogStub

open Http Json

/-! ### Records -/

/-- All options in fixtures are missing by default. -/
theorem Fixtures.nullable : Fixtures.shape.Nullable := by
  simp [Fixtures.shape, Session.shape, Session.fields, SessionStatus.shape, Scenario.shape,
    Scenario.fields, BotReplies.shape, ServiceFixtures.shape, ServiceInfo.shape,
    ExternalFixtures.shape, DemoScript.shape, Shape.Nullable, Fields.Nullable, Shape.absent,
    Note.settle, Note.plain, Note.defaulting]

/-- **Fixtures are read by name**, and so are all records in them. -/
theorem Fixtures.byName : Fixtures.shape.ByName :=
  Shape.byName nullable

/-- Messages to be added are read by name. -/
theorem AddMessage.byName : AddMessage.shape.ByName := by
  refine Shape.byName ?_
  simp [AddMessage.shape, MessageType.shape, Shape.Nullable, Fields.Nullable, Shape.absent,
    Note.settle, Note.plain]

/-- So are texts to be analyzed. -/
theorem Analyze.byName : Analyze.shape.ByName := by
  refine Shape.byName ?_
  simp [Analyze.shape, Shape.Nullable, Fields.Nullable, Shape.absent, Note.settle, Note.plain]

/-- So are messages to be answered. -/
theorem BotQuestion.byName : BotQuestion.shape.ByName := by
  refine Shape.byName ?_
  simp [BotQuestion.shape, Shape.Nullable, Fields.Nullable, Shape.absent, Note.settle, Note.plain]

/-- So are messages to be relayed. -/
theorem ChatMessage.byName : ChatMessage.shape.ByName := by
  refine Shape.byName ?_
  simp [ChatMessage.shape, Shape.Nullable, Fields.Nullable, Shape.absent, Note.settle, Note.plain]

/-! ### Fixtures -/

section Fixtures

variable {files files' : Files} {path : String} {bs bs' : Bytes}

/-- The same fixtures are loaded from documents that vary. -/
theorem Fixtures.load_varies (hfile : files path = .ok bs) (hfile' : files' path = .ok bs')
    (h : Fixtures.shape.Varies bs bs') {fixtures : Fixtures} :
    load files (some path) = .ok fixtures ↔ load files' (some path) = .ok fixtures := by
  rw [load_eq_ok_iff hfile, load_eq_ok_iff hfile', h.valid_iff]
  exact and_congr_right fun _ => byName.varies h fixtures

/-- No fixtures are loaded from a document that is spoiled. -/
theorem Fixtures.load_spoils (hfile' : files' path = .ok bs') (h : Fixtures.shape.Spoils bs bs')
    {fixtures : Fixtures} (hread : ofBytes bs = .ok fixtures) :
    ∃ fault, load files' (some path) = .error fault := by
  obtain ⟨failure, hfailure⟩ := byName.spoils h hread
  cases hload : load files' (some path) with
  | error fault => exact ⟨fault, rfl⟩
  | ok fixtures' =>
    obtain ⟨-, hread'⟩ := (load_eq_ok_iff hfile').mp hload
    rw [show ofBytes bs' = .error failure from hfailure] at hread'
    cases hread'

/-- A server that is started with the fixtures of the file in its setting. -/
def Server.Launches (files : Files) (config : Config) (platform : Platform) (supply : Supply)
    (server : Server) : Prop :=
  ∃ fixtures, Fixtures.load files config.fixturesPath = .ok fixtures ∧
    start? config fixtures platform supply = .ok server

/-- **The same server** is started with documents that vary. -/
theorem Server.launches_iff (hfile : files path = .ok bs) (hfile' : files' path = .ok bs')
    (h : Fixtures.shape.Varies bs bs') {config : Config} (hpath : config.fixturesPath = some path)
    {platform : Platform} {supply : Supply} {server : Server} :
    Launches files config platform supply server ↔
      Launches files' config platform supply server := by
  unfold Launches
  rw [hpath]
  simp only [Fixtures.load_varies hfile hfile' h]

end Fixtures

/-! ### Requests -/

/-- A body that comes to its end within the limit, with the size that was announced for it. -/
structure Http.Body.Fits (body : Body) : Prop where
  unbroken : body.broken = false
  faithful : body.Faithful
  length_le : body.bytes.length ≤ Content.maxLength

/-- Two outcomes of a request that differ in the log at most. -/
def AlikeAside (outcome outcome' : Response × World) : Prop :=
  outcome'.1 = outcome.1 ∧ ∃ log, outcome'.2 = outcome.2.withLog log

namespace Http

/-- The trace can read such a body. -/
theorem Body.Fits.readable {body : Body} (h : body.Fits) (headers : Headers) :
    Trace.isReadable headers body = true := by
  by_contra hunreadable
  rw [Bool.not_eq_true] at hunreadable
  have hbroken := h.faithful.broken_of_not_readable hunreadable
  rw [h.unbroken] at hbroken
  cases hbroken

/-- **A traced service** that does the same for two bodies still does, and the log may differ. -/
theorem Trace.around_alike (supply : Supply) {inner : Request → Effect Response}
    (complete : ∀ request w, (inner request w).1.body.Complete)
    (reports : ∀ request, (inner request).Reports) {request : Request} {body : Body}
    (h : isReadable request.headers request.body = true)
    (h' : isReadable request.headers body = true)
    (hinner : ∀ value, inner (inward value { request with body := body })
      = inner (inward value request)) (w : World) :
    AlikeAside (around supply inner request w)
      (around supply inner { request with body := body } w) := by
  rw [around_of_readable supply complete h, around_of_readable supply complete h']
  dsimp only
  -- The id is chosen and the start is reported in the same way.
  rw [show chosen supply { request with body := body } w = chosen supply request w from rfl,
    show started { request with body := body } w = started request w from rfl, hinner]
  set passed := inward (valueOf? (chosen supply request w)) request
  set lines₁ := lines "request" request.headers request.body
  set lines₂ := lines "request" request.headers body
  obtain ⟨events, -, hadds⟩ := (reports passed).adds ((started request w).logging lines₁)
  have hlogs : (started request w).logging lines₂ =
      ((started request w).logging lines₁).withLog ((started request w).events ++ lines₂) := rfl
  rw [hlogs, hadds]
  exact ⟨rfl, _, rfl⟩

end Http

namespace Content

variable {α : Type} {shape : Shape α} {request : Request} {body : Body}

/-- The same record is in a body that varies. -/
theorem record_varies (hname : shape.ByName) (fits : request.body.Fits) (fits' : body.Fits)
    (h : shape.Varies request.body.bytes body.bytes) {a : α}
    (hread : shape.ofBytes request.body.bytes = .ok a) :
    record shape { request with body := body } = record shape request := by
  cases hdeclared : request.headers.declareJson with
  | true =>
    rw [record_eq_ok_iff.mpr ⟨hdeclared, fits.unbroken, fits.length_le, hread⟩]
    exact record_eq_ok_iff.mpr
      ⟨hdeclared, fits'.unbroken, fits'.length_le, (hname.varies h a).mp hread⟩
  | false => simp [record, hdeclared]

end Content

namespace Endpoint

variable {α : Type} {endpoint : Endpoint α} {server : Server} {request : Request} {body : Body}

/-- An endpoint that looks at a request for its record only. -/
def Reads (endpoint : Endpoint α) : Prop :=
  ∀ {server : Server} {request request' : Request},
    Content.record endpoint.shape request' = Content.record endpoint.shape request →
    endpoint.handler server request' = endpoint.handler server request

/-- **The same answer** is given to a body that varies, and the same is done for it. -/
theorem handle_varies (hreads : endpoint.Reads) (hname : endpoint.shape.ByName)
    (receives : endpoint.Receives request) (fits : request.body.Fits) (fits' : body.Fits)
    (h : endpoint.shape.Varies request.body.bytes body.bytes) {a : α}
    (hread : endpoint.shape.ofBytes request.body.bytes = .ok a) (w : World) :
    AlikeAside (server.handle request w) (server.handle { request with body := body } w) := by
  have hreadable := fits.readable request.headers
  have hreadable' := fits'.readable request.headers
  have hroute (value : Option Bytes) :
      server.route (Trace.inward value { request with body := body }) =
        server.route (Trace.inward value request) := by
    have receives₁ : endpoint.Receives (Trace.inward value request) := receives
    have receives₂ : endpoint.Receives (Trace.inward value { request with body := body }) :=
      receives
    rw [receives₁.route_eq, receives₂.route_eq]
    refine congrArg Handler.respond (hreads ?_)
    -- The trace id makes no difference to the record.
    rw [(Trace.same_inward value hreadable).record_eq,
      (Trace.same_inward value hreadable').record_eq]
    exact Content.record_varies hname fits fits' h hread
  have hinner (value : Option Bytes) :
      Cors.around server.policy server.route (Trace.inward value { request with body := body }) =
        Cors.around server.policy server.route (Trace.inward value request) := by
    unfold Cors.around
    rw [hroute]
    rfl
  obtain ⟨hresponse, hworld⟩ := Trace.around_alike server.supply
    (Cors.around_complete server.policy server.route_complete) server.around_route_reports
    hreadable hreadable' hinner w
  rw [Server.handle_apply, Server.handle_apply]
  refine ⟨?_, hworld⟩
  dsimp only
  rw [hresponse]
  rfl

/-- **A body that is spoiled** is rejected, and nothing happens. -/
theorem handle_spoils (hname : endpoint.shape.ByName) (receives : endpoint.Receives request)
    (fits' : body.Fits) (h : endpoint.shape.Spoils request.body.bytes body.bytes) {a : α}
    (hread : endpoint.shape.ofBytes request.body.bytes = .ok a) (w : World) :
    (server.handle { request with body := body } w).1.status = 400 ∧
      w.Beside (server.handle { request with body := body } w).2 := by
  have receives' : endpoint.Receives { request with body := body } := receives
  obtain ⟨failure, hfailure⟩ := hname.spoils h hread
  have hunread (a : α) : ¬({ request with body := body } : Request).Brings endpoint.shape a := by
    -- A record would have been read from the body.
    intro brings
    have hok := brings.read_eq
    rw [show endpoint.shape.ofBytes body.bytes = .error failure from hfailure] at hok
    cases hok
  have hanswers : endpoint.Answers server { request with body := body } w _ _ :=
    handle_answers receives' (.inl (fits'.readable request.headers)) w
  cases hanswers with
  | rejected message _ tells beside => exact ⟨tells.status_eq, beside⟩
  | lacking a brings => exact absurd brings (hunread a)
  | served a brings => exact absurd brings (hunread a)

end Endpoint

namespace Server

open Endpoint

/-! ### All of them -/

/-- All that the handler reads of a request is the record in its body. -/
theorem reads_messageEndpoint : messageEndpoint.Reads := by
  intro server request request' h
  show server.addMessage request' = server.addMessage request
  unfold addMessage
  rw [show Content.record AddMessage.shape request' = Content.record AddMessage.shape request
    from h]

/-- So it is for texts. -/
theorem reads_analysisEndpoint : analysisEndpoint.Reads := by
  intro server request request' h
  show server.analyzeText request' = server.analyzeText request
  unfold analyzeText
  rw [show Content.record Analyze.shape request' = Content.record Analyze.shape request from h]

/-- So it is for the bot. -/
theorem reads_botEndpoint : botEndpoint.Reads := by
  intro server request request' h
  show server.processMessage request' = server.processMessage request
  unfold processMessage
  rw [show Content.record BotQuestion.shape request' = Content.record BotQuestion.shape request
    from h]

/-- So it is for the relay. -/
theorem reads_relayEndpoint : relayEndpoint.Reads := by
  intro server request request' h
  show server.chatMessage request' = server.chatMessage request
  unfold chatMessage
  rw [show Content.record ChatMessage.shape request' = Content.record ChatMessage.shape request
    from h]

/-- What is posted to an endpoint is read by name. -/
structure ReadsByName {α : Type} (server : Server) (endpoint : Endpoint α) : Prop where
  byName : endpoint.shape.ByName
  varies : ∀ {request body a}, endpoint.Receives request → request.body.Fits → body.Fits →
    endpoint.shape.ofBytes request.body.bytes = .ok a →
    endpoint.shape.Varies request.body.bytes body.bytes → ∀ w,
      AlikeAside (server.handle request w) (server.handle { request with body := body } w)
  spoils : ∀ {request body a}, endpoint.Receives request → body.Fits →
    endpoint.shape.ofBytes request.body.bytes = .ok a →
    endpoint.shape.Spoils request.body.bytes body.bytes → ∀ w,
      (server.handle { request with body := body } w).1.status = 400 ∧
        w.Beside (server.handle { request with body := body } w).2

/-- What holds of the shape of an endpoint holds of the server there. -/
theorem readsByName {α : Type} (server : Server) {endpoint : Endpoint α} (hreads : endpoint.Reads)
    (hname : endpoint.shape.ByName) : server.ReadsByName endpoint where
  byName := hname
  varies receives fits fits' hread h w := handle_varies hreads hname receives fits fits' h hread w
  spoils receives fits' hread h w := handle_spoils hname receives fits' h hread w

/-- **Records are read by name, not by place**, at every depth of a document of fixtures and in the
    body of every request to one of the four endpoints. The members of an object may come in another
    order, members of unknown keys may come in with any well-formed value, a missing option may be
    `null`, and white space may come and go: what is read stays the same. So the same server is
    started from such a document, and a request with such a body is answered in the same way, with
    the same effect on the store and the same calls. But nothing is read without a member whose
    field is no option and has no default, or with a known key that comes twice: such a document
    starts no server, and such a body is rejected with 400, and nothing happens. -/
theorem reads_by_name (server : Server) :
    (∀ (key : String) (lead spelling gap indent value trail : Bytes), Blank lead →
      readString spelling = .ok (key, []) → Blank gap → Blank indent → WellFormed value →
      Blank trail → ∃ m : MemberText, m.pair = (key, value) ∧ m.text = lead ++ 0x22 ::
        (spelling ++ (gap ++ 0x3A :: (indent ++ (value ++ trail))))) ∧
    Fixtures.shape.ByName ∧
    (∀ (files files' : Files) (path : String) (bs bs' : Bytes), files path = .ok bs →
      files' path = .ok bs' →
      (Fixtures.shape.Varies bs bs' → ∀ (config : Config) (platform : Platform) (supply : Supply)
        (started : Server), config.fixturesPath = some path →
        (Launches files config platform supply started ↔
          Launches files' config platform supply started)) ∧
      (Fixtures.shape.Spoils bs bs' → ∀ fixtures, Fixtures.ofBytes bs = .ok fixtures →
        ∃ fault, Fixtures.load files' (some path) = .error fault)) ∧
    server.ReadsByName messageEndpoint ∧ server.ReadsByName analysisEndpoint ∧
    server.ReadsByName botEndpoint ∧ server.ReadsByName relayEndpoint := by
  refine ⟨?_, Fixtures.byName, fun files files' path bs bs' hfile hfile' => ⟨?_, ?_⟩,
    server.readsByName reads_messageEndpoint AddMessage.byName,
    server.readsByName reads_analysisEndpoint Analyze.byName,
    server.readsByName reads_botEndpoint BotQuestion.byName,
    server.readsByName reads_relayEndpoint ChatMessage.byName⟩
  · intro key lead spelling gap indent value trail hlead hkey hgap hindent hvalue htrail
    exact ⟨.ofWellFormed hlead hkey hgap hindent hvalue htrail, rfl, rfl⟩
  · intro h config platform supply started hpath
    exact launches_iff hfile hfile' h hpath
  · intro h fixtures hread
    exact Fixtures.load_spoils hfile' h hread

/-! ### A small message -/

theorem blank_space : Blank [0x20] :=
  List.forall_mem_singleton.mpr rfl

/-- A text without escapes. -/
theorem wellFormed_text {s : String}
    (h : s.toList.all (fun c => 0x20 ≤ c.toNat ∧ c.toNat ≠ 0x22 ∧ c.toNat ≠ 0x5C) = true) :
    WellFormed (0x22 :: (Utf8.encode s.toList ++ [0x22])) := by
  refine .string ⟨_, rfl, .of_chars fun c hc => ?_⟩
  simpa using List.all_eq_true.mp h c hc

/-- An array with a `null` and white space. -/
theorem wellFormed_array : WellFormed (Utf8.bytes "[null ]") := by
  have hnull : WellFormed (Utf8.bytes "null") := .word List.mem_cons_self
  have hitems : ∀ i ∈ [Framed.mk [] (Utf8.bytes "null") [0x20] blank_nil blank_space],
      WellFormed i.core := List.forall_mem_singleton.mpr hnull
  exact .list blank_nil hitems

/-- A member without white space. -/
def sampleMember (key : String) {value : Bytes} (h : WellFormed value) : MemberText :=
  .ofWellFormed blank_nil (readString_plainSpelling key) blank_nil blank_nil h blank_nil

def sampleContent : MemberText :=
  sampleMember "content" (wellFormed_text (s := "hi") (by decide))

def sampleSessionId : MemberText :=
  sampleMember "session_id" (wellFormed_text (s := "a") (by decide))

/-- An intent that is `null`. -/
def sampleIntent : MemberText :=
  sampleMember "intent" (show WellFormed (Utf8.bytes "null") from .word List.mem_cons_self)

/-- A member of no field. -/
def sampleUnknown : MemberText :=
  sampleMember "x" wellFormed_array

/-- A document of one object, with a space before it. -/
def sampleObject {inner : Bytes} (hinner : Blank inner) (members : List MemberText) : ItemText :=
  ⟨[0x20], braces inner members, [], blank_space, flush_braces inner members,
    (isValue_braces hinner members).passes, blank_nil⟩

/-- A message. -/
def sampleGiven : ItemText :=
  sampleObject blank_nil [sampleContent, sampleSessionId]

/-- The same message, with its members in another order, one that is not known and one that is
    `null`. -/
def sampleVaried : ItemText :=
  sampleObject blank_nil [sampleSessionId, sampleUnknown, sampleIntent, sampleContent]

/-- A message with its content in it twice. -/
def sampleSpoilt : ItemText :=
  sampleObject blank_nil [sampleContent, sampleSessionId, sampleContent]

/-- Members change places, an option comes in with `null`, and so does a member of an unknown
    key. -/
theorem varies_sample : AddMessage.shape.Varies sampleGiven.text sampleVaried.text := by
  -- The changes are made one after the other: order, `null`, and the unknown key.
  have hpermuted : AddMessage.shape.Within @Fields.Harmless
      (braces [] [sampleContent, sampleSessionId]) (braces [] [sampleSessionId, sampleContent]) :=
    .here blank_nil (.permuted (.swap _ _ _))
  have hnulled : AddMessage.shape.Within @Fields.Harmless
      (braces [] ([sampleSessionId] ++ [sampleContent]))
      (braces [] ([sampleSessionId] ++ sampleIntent :: [sampleContent])) := by
    refine .here blank_nil (.nulled (.there ?_ (.there ?_ (.there ?_ .here))) rfl ?_ rfl)
    · decide
    · decide
    · decide
    · intro m hm
      simp only [List.singleton_append, List.mem_cons, List.not_mem_nil, or_false] at hm
      rcases hm with rfl | rfl
      · decide
      · decide
  have hinserted : AddMessage.shape.Within @Fields.Harmless
      (braces [] ([sampleSessionId] ++ [sampleIntent, sampleContent]))
      (braces [] ([sampleSessionId] ++ sampleUnknown :: [sampleIntent, sampleContent])) :=
    .here blank_nil (.inserted (by decide) wellFormed_array)
  exact ⟨sampleGiven, sampleVaried, rfl, rfl, .trans _ _ _ (.rel _ _ (.inr hpermuted))
    (.trans _ _ _ (.rel _ _ (.inr hnulled)) (.rel _ _ (.inr hinserted)))⟩

/-- A key comes twice. -/
theorem spoils_sample : AddMessage.shape.Spoils sampleGiven.text sampleSpoilt.text := by
  have hrepeated : AddMessage.shape.Within @Fields.Fatal
      (braces [] ([sampleContent, sampleSessionId] ++ []))
      (braces [] ([sampleContent, sampleSessionId] ++ sampleContent :: [])) :=
    .here blank_nil (.repeated (by decide) List.mem_cons_self rfl)
  exact ⟨sampleGiven, sampleSpoilt, rfl, rfl, hrepeated⟩

/-- A post of a text to the endpoint for messages. -/
def samplePosting (body : Bytes) : Request :=
  ⟨.post, ⟨"/api/v1/chat/messages"⟩, [("content-type", Utf8.bytes "application/json")], .full body⟩

/-- A result is an error or a value. -/
theorem exists_of_isOk {ε α : Type} {result : Except ε α} (h : result.isOk = true) :
    ∃ a, result = .ok a := by
  cases result with
  | error e => cases h
  | ok a => exact ⟨a, rfl⟩

/-- A body that is not too long fits. -/
theorem fits_full {bs : Bytes} (h : bs.length ≤ Content.maxLength) : (Body.full bs).Fits where
  unbroken := rfl
  faithful := fun _ n hn => by
    rw [Body.bytes_full]
    exact Option.some.inj hn
  length_le := by rwa [Body.bytes_full]

/-- Both messages are added in the same way, and the spoilt one is rejected. The same server is
    started from a document and from one with its members in reverse. -/
theorem reads_by_name_sample :
    let config : Config := { Config.standard with fixturesPath := some "f" }
    sampleVaried.text = Utf8.bytes
      " \x7b\"session_id\":\"a\",\"x\":[null ],\"intent\":null,\"content\":\"hi\"\x7d" ∧
    (sample.handle (samplePosting sampleGiven.text) sample.initial).1.status = 200 ∧
    AlikeAside (sample.handle (samplePosting sampleGiven.text) sample.initial)
      (sample.handle (samplePosting sampleVaried.text) sample.initial) ∧
    (sample.handle (samplePosting sampleSpoilt.text) sample.initial).1.status = 400 ∧
    ∃ document, Fixtures.shape.Varies sampleDocument document ∧
      ∀ platform supply started,
        Launches (fun _ => .ok sampleDocument) config platform supply started ↔
          Launches (fun _ => .ok document) config platform supply started := by
  intro config
  obtain ⟨-, hfixtures, hfiles, hmessage, -⟩ := reads_by_name sample
  have receives : messageEndpoint.Receives (samplePosting sampleGiven.text) := ⟨rfl, rfl⟩
  obtain ⟨a, hread⟩ : ∃ a, AddMessage.shape.ofBytes sampleGiven.text = .ok a :=
    exists_of_isOk (by decide +kernel)
  obtain ⟨fixtures, hloaded⟩ : ∃ a, Fixtures.shape.ofBytes sampleDocument = .ok a :=
    exists_of_isOk (by decide +kernel)
  have hbody :
      messageEndpoint.shape.ofBytes (samplePosting sampleGiven.text).body.bytes = .ok a := by
    rw [samplePosting, Body.bytes_full]
    exact hread
  have hvaries : messageEndpoint.shape.Varies (samplePosting sampleGiven.text).body.bytes
      (Body.full sampleVaried.text).bytes := by
    rw [samplePosting, Body.bytes_full, Body.bytes_full]
    exact varies_sample
  have hspoils : messageEndpoint.shape.Spoils (samplePosting sampleGiven.text).body.bytes
      (Body.full sampleSpoilt.text).bytes := by
    rw [samplePosting, Body.bytes_full, Body.bytes_full]
    exact spoils_sample
  have hfits : (Body.full sampleGiven.text).Fits ∧ (Body.full sampleVaried.text).Fits ∧
      (Body.full sampleSpoilt.text).Fits :=
    ⟨fits_full (by decide +kernel), fits_full (by decide +kernel), fits_full (by decide +kernel)⟩
  refine ⟨by decide +kernel, by decide +kernel, ?_, ?_, ?_⟩
  · generalize sampleGiven.text = given, sampleVaried.text = varied at *
    exact hmessage.varies receives hfits.1 hfits.2.1 hbody hvaries sample.initial
  · generalize sampleGiven.text = given, sampleSpoilt.text = spoilt at *
    exact (hmessage.spoils receives hfits.2.2 hbody hspoils sample.initial).1
  · obtain ⟨d, htext, hwritten⟩ := hfixtures.written hloaded
    obtain ⟨b, more, hbegin, hspace, -⟩ := d.exists_begin
    have hskip : skipBlank d.text = b :: (more ++ d.trail) := by
      rw [ItemText.text, hbegin, List.cons_append, skipBlank_append_cons d.lead_blank hspace]
    have hobject : skipBlank sampleDocument = 0x7B :: (skipBlank sampleDocument).tail := by
      decide +kernel
    obtain rfl : 0x7B = b := by
      rw [htext, hobject] at hskip
      exact (List.cons.inj hskip).1
    -- The outermost object is an object of the document.
    have hplace : Fixtures.shape.Place (0x7B :: more) (0x7B :: more) Fixtures.shape d.value
        d.value := by
      rw [hbegin]
      exact .here ⟨_, _, rfl, .inr rfl⟩ ⟨_, _, rfl, .inr rfl⟩
    obtain ⟨inner, members, hinner, hvalue⟩ := hwritten hplace
    have hreversed : Fixtures.shape.Within @Fields.Harmless (braces inner members)
        (braces inner members.reverse) := .here hinner (.permuted members.reverse_perm.symm)
    rw [← hvalue, ← hbegin] at hreversed
    have hdocument : Fixtures.shape.Varies sampleDocument
        (sampleObject hinner members.reverse).text :=
      ⟨d, sampleObject hinner members.reverse, htext, rfl, .rel _ _ (.inr hreversed)⟩
    refine ⟨_, hdocument, fun platform supply started => ?_⟩
    exact (hfiles (fun _ => .ok sampleDocument) (fun _ => .ok _) "f" _ _ rfl rfl).1 hdocument
      config platform supply started rfl

end Server

end DialogStub
