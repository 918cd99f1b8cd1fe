import DialogStub.Proofs.Api.Endpoint
import DialogStub.Proofs.Json.Canonical

/-!
# Data that is sent back

* `Request.PostsData` — a request that posts data, with a body of any kind;
* `Response.Echoes` — a response that holds a text under `received_data`, and no other there;
* `Json.Canonical` — a text that is read as a value, with its keys in order and no white space;
* `Server.handle_echoes` — what is sent back for every body.

Only a value without floating point numbers is sent back in a text that is known to be read as this
value again.
-/

namespace DialogStub

open Http Json

/-- A request that posts data. Its body comes to its end within the limit and has the size that was
    announced for it, and may be declared as anything. -/
structure Http.Request.PostsData (request : Request) : Prop where
  method_eq : request.method = .post
  path_eq : request.target.path = "/api/data"
  unbroken : request.body.broken = false
  faithful : request.body.Faithful
  length_le : request.body.bytes.length ≤ Content.maxLength

/-- A response that is an object with this text under `received_data`, and with no other there. -/
def Http.Response.Echoes (response : Response) (text : Bytes) : Prop :=
  ∀ value, Holds response.body.bytes "received_data" value ↔ value = text

/-- A text from which a value is read, with the keys of all objects in the order of their bytes and
    no white space outside its strings. -/
structure Json.Canonical (text : Bytes) (j : Json) : Prop where
  reads : ofBytes text = .ok j
  ordered : j.Ordered
  solid : ∀ b ∈ outside .outside text, isSpace b = false

/-! ### What a printed object holds -/

/-- A printed object holds nothing but its members. -/
theorem Json.holds_print_iff {members : List (String × Json)}
    (h : ∀ m ∈ members, IsValue m.2.print ∧ Flush m.2.print) {key : String} {value : Bytes} :
    Holds (Json.obj members).print key value ↔ ∃ j, (key, j) ∈ members ∧ value = j.print := by
  constructor
  · rintro ⟨o, htext, hmem⟩
    obtain ⟨o', htext', hpairs⟩ := exists_objectText members h
    rw [ObjectText.pairs_eq_of_text (htext.trans htext'.symm), hpairs] at hmem
    obtain ⟨⟨key', j⟩, hm, heq⟩ := List.mem_map.mp hmem
    obtain ⟨rfl, rfl⟩ := Prod.mk.inj heq
    exact ⟨j, hm, rfl⟩
  · rintro ⟨j, hmem, rfl⟩
    exact holds_print h hmem

namespace Server

/-! ### The answer -/

/-- The bytes of such a request come as they were sent. -/
theorem raw_of_postsData {request : Request} (posts : request.PostsData) :
    Content.raw request = .ok request.body.bytes := by
  rw [Content.raw, Body.collect, if_neg (Nat.not_lt.mpr posts.length_le), posts.unbroken]
  rfl

/-- **The answer to data.** It is 200 whatever the body is, and the body is seen in one place. -/
theorem exists_received (server : Server) (w : World) {request : Request}
    (posts : request.PostsData) :
    (server.handle request w).1.status = 200 ∧ ∃ time : String,
      (server.handle request w).1.body.bytes = (Json.obj
        [("message", .str "Data received successfully"),
          ("received_data", receivedData request.body.bytes), ("processed", .bool true),
          ("id", .str ("req_" ++ time)), ("status", .str "ok")]).print := by
  have goes : request.GoesTo .data .write := ⟨⟨trivial, posts.path_eq⟩, posts.method_eq, rfl⟩
  -- A body that the trace cannot read is broken, and this one is not.
  have readable : Trace.isReadable request.headers request.body = true := by
    by_contra unreadable
    have hbroken := posts.faithful.broken_of_not_readable (Bool.not_eq_true _ ▸ unreadable)
    rw [posts.unbroken] at hbroken
    cases hbroken
  obtain ⟨passed, w₁, hsame, -, halike, -⟩ :=
    server.exists_dispatch goes (.inr posts.method_eq) readable w
  have hraw : Content.raw passed = .ok request.body.bytes := by
    rw [Content.raw, hsame.body_same.collect_eq]
    exact raw_of_postsData posts
  obtain ⟨time, w₂, hreply⟩ : ∃ time w₂, server.postData request.body.bytes w₁ =
      (.ok (DataReceived.shape.toJson ⟨"Data received successfully",
        receivedData request.body.bytes, true, "req_" ++ time, "ok"⟩), w₂) :=
    ⟨_, _, rfl⟩
  have hdispatch : server.dispatch .data .write passed w₁ = (.json 200 (DataReceived.shape.toJson
      ⟨"Data received successfully", receivedData request.body.bytes, true, "req_" ++ time, "ok"⟩),
      w₂) := by
    show withBody passed server.postData w₁ = _
    rw [withBody, hraw]
    exact Handler.respond_of_ok hreply
  rw [hdispatch] at halike
  refine ⟨halike.status_eq, time, halike.bytes_eq.trans ?_⟩
  rw [Response.json, Response.withBody, Body.bytes_full]
  rfl

/-- What is sent back is held, if it is one value. -/
theorem echoes_of_isValue (server : Server) (w : World) {request : Request}
    (posts : request.PostsData) {j : Json} (hreceived : receivedData request.body.bytes = j)
    (hvalue : IsValue j.print) (hflush : Flush j.print) :
    (server.handle request w).1.Echoes j.print := by
  obtain ⟨-, time, hbytes⟩ := server.exists_received w posts
  have hstr (s : String) : IsValue (Json.str s).print ∧ Flush (Json.str s).print :=
    ((Shape.restores_scalar maxDepth trivial : Shape.text.Restores maxDepth s)).printed
  have hbool (b : Bool) : IsValue (Json.bool b).print ∧ Flush (Json.bool b).print :=
    ((Shape.restores_scalar maxDepth trivial : Shape.flag.Restores maxDepth b)).printed
  intro value
  rw [hbytes, hreceived, holds_print_iff]
  · simp
  · simp [hstr, hbool, hvalue, hflush]

/-- A body that reads as no value but `null` is sent back as an empty object. -/
theorem echoes_empty (server : Server) (w : World) {request : Request}
    (posts : request.PostsData)
    (h : ∀ j, ofBytes request.body.bytes = .ok j → j = .null) :
    (server.handle request w).1.Echoes (Utf8.bytes "\x7b\x7d") := by
  -- No text, `null` and a text that is no value: all three end in the same branch.
  have hreceived : receivedData request.body.bytes = .obj [] := by
    unfold receivedData
    split
    · rfl
    · rename_i value hne hread
      exact absurd (h value hread) hne
    · rfl
  have hform : Form 1 (Json.obj []).print (.obj []) :=
    form_print_obj List.Pairwise.nil (List.forall_mem_nil _)
  exact server.echoes_of_isValue w posts hreceived hform.isValue hform.flush

/-- An integral value is sent back as its printed text. -/
theorem echoes_print (server : Server) (w : World) {request : Request} (posts : request.PostsData)
    {j : Json} (h : ofBytes request.body.bytes = .ok j) (hnull : j ≠ .null) (hj : j.Integral) :
    (server.handle request w).1.Echoes j.print := by
  have hreceived : receivedData request.body.bytes = j := by
    unfold receivedData
    rw [h]
    split
    · rename_i heq
      exact absurd (Except.ok.inj heq) hnull
    · rename_i heq
      exact (Except.ok.inj heq).symm
    · rename_i heq
      cases heq
  -- The value had a form when it was read, and so it has one when it is printed.
  obtain ⟨lead, text, trail, -, -, -, hform⟩ := ofBytes_eq_ok_iff.mp h
  have hprint := hform.print hj
  exact server.echoes_of_isValue w posts hreceived hprint.isValue hprint.flush

/-- The printed text of an integral value that was read is canonical, and not longer than the
    body. -/
theorem canonical_print {bs : Bytes} {j : Json} (h : ofBytes bs = .ok j) (hj : j.Integral) :
    Canonical j.print j ∧ j.print.length ≤ bs.length := by
  obtain ⟨lead, text, trail, -, -, rfl, hform⟩ := ofBytes_eq_ok_iff.mp h
  refine ⟨⟨?_, hform.ordered, hj.solid.forall_outside⟩, ?_⟩
  · exact ofBytes_eq_ok_iff.mpr ⟨[], j.print, [], blank_nil, blank_nil, by simp, hform.print hj⟩
  · have := hform.length_print_le hj
    simp only [List.length_append]
    omega

/-- **Data that is sent back.** Whatever is posted, the answer is 200. A body that is one JSON
    document other than `null`, whose numbers are all integers of 64 bits, is sent back in its
    printed text, which is read as the same value; numbers in members that are replaced do not
    count. This text is canonical: the keys are in the order of their bytes, the last member of each
    key is kept at every depth, as `Form` tells, and there is no white space. It is no longer than
    the body, so that it can be posted again, to any server and at any time; then it is sent back as
    it is, and so is every text that is read as the same value. All else is sent back as an empty
    object: `null`, no bytes at all, bytes that are not UTF-8, and whatever is no document. -/
theorem handle_echoes (server : Server) (w : World) {request : Request}
    (posts : request.PostsData) :
    (server.handle request w).1.status = 200 ∧
    (∀ j, ofBytes request.body.bytes = .ok j → j ≠ .null → j.Integral →
      (server.handle request w).1.Echoes j.print ∧ Canonical j.print j ∧
      (∃ lead source trail, Blank lead ∧ Blank trail ∧
        request.body.bytes = lead ++ (source ++ trail) ∧ Form maxDepth source j) ∧
      ({ request with body := .full j.print } : Request).PostsData ∧
      ∀ (server' : Server) (w' : World) (request' : Request), request'.PostsData →
        request'.body.bytes = j.print ∨ ofBytes request'.body.bytes = .ok j →
          (server'.handle request' w').1.status = 200 ∧
            (server'.handle request' w').1.Echoes j.print) ∧
    (ofBytes request.body.bytes = .ok .null ∨ (∀ j, ofBytes request.body.bytes ≠ .ok j) →
      (server.handle request w).1.Echoes (Utf8.bytes "\x7b\x7d")) ∧
    (request.body.bytes = [] ∨ ¬Utf8.Valid request.body.bytes →
      (server.handle request w).1.Echoes (Utf8.bytes "\x7b\x7d")) := by
  refine ⟨(server.exists_received w posts).1, fun j hread hnull hj => ?_, fun h => ?_, fun h => ?_⟩
  · obtain ⟨hcanonical, hlength⟩ := canonical_print hread hj
    refine ⟨server.echoes_print w posts hread hnull hj, hcanonical, ofBytes_eq_ok_iff.mp hread, ?_,
      fun server' w' request' posts' hsame => ?_⟩
    · -- The printed text is no longer than the body was, and so it can be posted as well.
      refine ⟨posts.method_eq, posts.path_eq, rfl, fun _ n hn => ?_, ?_⟩
      · cases hn
        exact congrArg List.length (Body.bytes_full _)
      · rw [Body.bytes_full]
        exact Nat.le_trans hlength posts.length_le
    · have hread' : ofBytes request'.body.bytes = .ok j := by
        rcases hsame with hsame | hsame
        · rw [hsame]
          exact hcanonical.reads
        · exact hsame
      exact ⟨(server'.exists_received w' posts').1, server'.echoes_print w' posts' hread' hnull hj⟩
  · refine server.echoes_empty w posts fun j hread => ?_
    rcases h with h | h
    · exact (Except.ok.inj (h.symm.trans hread)).symm
    · exact absurd hread (h j)
  · refine server.echoes_empty w posts fun j hread => ?_
    rcases h with h | h
    · rw [h] at hread
      cases hread
    · exact absurd (valid_of_ofBytes hread) h

/-- An array with an object in it, in which a key comes twice, and a larger integer than usual. -/
def sampleData : Request :=
  ⟨.post, ⟨"/api/data"⟩, [("content-type", Utf8.bytes "text/plain")],
    .full (Utf8.bytes " [ \x7b\"b\" : 1, \"a\": \"\\u0041\", \"b\":18446744073709551615\x7d ]")⟩

/-- A key that comes twice and an escape, around the greatest number of 64 bits. -/
theorem handle_echoes_sampleData :
    sampleData.PostsData ∧
      ofBytes sampleData.body.bytes =
        .ok (.arr [.obj [("a", .str "A"), ("b", .int 18446744073709551615)]]) ∧
      (sample.handle sampleData sample.initial).1.Echoes
        (Utf8.bytes "[\x7b\"a\":\"A\",\"b\":18446744073709551615\x7d]") := by
  have posts : sampleData.PostsData :=
    ⟨rfl, rfl, rfl, fun _ n hn => by cases hn; exact congrArg List.length (Body.bytes_full _),
      by decide +kernel⟩
  have hread : ofBytes sampleData.body.bytes =
      .ok (.arr [.obj [("a", .str "A"), ("b", .int 18446744073709551615)]]) := by
    rfl
  refine ⟨posts, hread, ?_⟩
  obtain ⟨-, hechoes, -⟩ := sample.handle_echoes sample.initial posts
  -- The array has one item, an object with one member left.
  refine (hechoes _ hread nofun (.arr fun item hitem => ?_)).1
  obtain rfl := List.mem_singleton.mp hitem
  refine .obj fun m hm => ?_
  simp only [List.mem_cons, List.not_mem_nil, or_false] at hm
  rcases hm with rfl | rfl
  · exact .str "A"
  · exact .int _ (by decide)

end Server

end DialogStub
