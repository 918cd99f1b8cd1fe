import DialogStub.Proofs.Http.Trace
import DialogStub.Proofs.Text.Utf8

/-!
# Traces change nothing but the trace id

* `Trace.valueOf?_of_idOf?` — an id that a request brings with it may stand in a header field;
* `Supply.Printable` — fresh ids that may stand in a header field too;
* `Request.Marked`, `Response.Marked` — a message with its trace id set, and nothing else changed;
* `Trace.around_transparent` — a traced service is the service inside, but for the trace id.

Whether the log shows a body depends on its size and its media type. What comes through does not:
a body that is read for the log is handed on in one piece, and it is never longer than what the
trace reads, since it is announced as shorter.
-/

namespace DialogStub

/-! ### Trace ids -/

/-- What is left between the white space was there before. -/
theorem Text.mem_of_mem_trim {c : Char} {cs : List Char} (h : c ∈ trim cs) : c ∈ cs := by
  have hstart {ds : List Char} (hc : c ∈ trimStart ds) : c ∈ ds :=
    (List.dropWhile_sublist isBlank).subset hc
  have hend : c ∈ (trimStart cs).reverse := hstart (List.mem_reverse.mp h)
  exact hstart (List.mem_reverse.mp hend)

namespace Http

namespace Header

/-- What is visible is ASCII. -/
theorem lt_of_isVisible {b : UInt8} (h : isVisible b = true) : b < 0x80 := by
  unfold isVisible at h
  simp only [Bool.or_eq_true, Bool.and_eq_true, decide_eq_true_eq] at h
  rcases h with ⟨-, hlt⟩ | rfl
  · exact UInt8.lt_trans hlt (by decide)
  · decide

/-- What is visible may stand in a header field. -/
theorem isValueByte_of_isVisible {b : UInt8} (h : isVisible b = true) : isValueByte b = true := by
  unfold isVisible at h
  unfold isValueByte
  simp only [Bool.or_eq_true, Bool.and_eq_true, decide_eq_true_eq] at h ⊢
  rcases h with ⟨hle, hlt⟩ | htab
  · exact .inl ⟨hle, UInt8.ne_of_lt hlt⟩
  · exact .inr htab

/-- What is read of a value as text is made of visible characters. -/
theorem mem_of_text? {bs : Bytes} {s : String} (h : text? bs = some s) {c : Char}
    (hc : c ∈ s.toList) : ∃ b, isVisible b = true ∧ c = Utf8.asciiChar b := by
  unfold text? at h
  split at h
  · rename_i hall
    have hvisible : ∀ b ∈ bs, isVisible b = true := List.all_eq_true.mp hall
    rw [Utf8.text?_of_ascii (fun b hb => lt_of_isVisible (hvisible b hb))] at h
    obtain rfl := Option.some.inj h
    rw [String.toList_ofList] at hc
    obtain ⟨b, hb, rfl⟩ := List.mem_map.mp hc
    exact ⟨b, hvisible b hb, rfl⟩
  · cases h

/-- A text may stand in a header field if its characters may. -/
theorem isValue_encode {cs : List Char} (h : ∀ c ∈ cs, isValue (Utf8.encodeChar c) = true) :
    isValue (Utf8.encode cs) = true := by
  unfold isValue Utf8.encode
  rw [List.all_flatMap]
  exact List.all_eq_true.mpr h

end Header

/-- An id that a request brings with it may stand in a header field. -/
theorem Trace.valueOf?_of_idOf? {headers : Headers} {id : String} (h : idOf? headers = some id) :
    valueOf? id = some (Utf8.bytes id) := by
  obtain ⟨hread, -⟩ := Option.filter_eq_some_iff.mp h
  obtain ⟨text, htext, rfl⟩ := Option.map_eq_some_iff.mp hread
  obtain ⟨value, -, hvalue⟩ := Option.bind_eq_some_iff.mp htext
  have hchars : Header.isValue (Utf8.bytes (Text.trimText text)) = true := by
    rw [Utf8.bytes, Text.trimText, String.toList_ofList]
    refine Header.isValue_encode (fun c hc => ?_)
    -- Trimming takes characters away and adds none.
    obtain ⟨b, hb, rfl⟩ := Header.mem_of_text? hvalue (Text.mem_of_mem_trim hc)
    rw [Utf8.encodeChar_asciiChar (Header.lt_of_isVisible hb)]
    exact List.all_eq_true.mpr fun _ hmem =>
      List.mem_singleton.mp hmem ▸ Header.isValueByte_of_isVisible hb
  exact if_pos hchars

end Http

/-- A supply whose ids may stand in a header field. -/
def Supply.Printable (supply : Supply) : Prop :=
  ∀ n, Http.Header.isValue (Utf8.bytes (supply.id n)) = true

/-- Strokes are printable. -/
theorem Supply.printable_strokes : Supply.strokes.Printable := by
  intro n
  show Http.Header.isValue (Utf8.encode (String.ofList (List.replicate (n + 1) 'i')).toList) = true
  rw [String.toList_ofList]
  refine Http.Header.isValue_encode (fun c hc => ?_)
  rw [List.eq_of_mem_replicate hc]
  decide

namespace Http

/-- The id of a request may stand in a header field, wherever it comes from. -/
theorem Trace.valueOf?_chosen {supply : Supply} (ids : supply.Printable) (request : Request)
    (w : World) :
    valueOf? (chosen supply request w) = some (Utf8.bytes (chosen supply request w)) := by
  unfold chosen
  cases h : idOf? request.headers with
  | some id => exact valueOf?_of_idOf? h
  | none => exact if_pos (ids w.drawn)

/-! ### Marked messages -/

/-- A request with its trace id set, and nothing else changed. -/
structure Request.Marked (id : String) (request passed : Request) : Prop where
  method_eq : passed.method = request.method
  target_eq : passed.target = request.target
  headers_eq : passed.headers = request.headers.set Trace.header (Utf8.bytes id)
  complete : passed.body.Complete
  bytes_eq : passed.body.bytes = request.body.bytes

/-- An answer with its trace id set, and nothing else changed. -/
structure Response.Marked (id : String) (answer response : Response) : Prop where
  status_eq : response.status = answer.status
  headers_eq : response.headers = answer.headers.set Trace.header (Utf8.bytes id)
  complete : response.body.Complete
  bytes_eq : response.body.bytes = answer.body.bytes

namespace Trace

/-- The bytes of a body are handed on. -/
theorem bytes_handed (headers : Headers) (body : Body) :
    (handed headers body).bytes = body.bytes := by
  unfold handed
  split
  · exact Body.bytes_full _
  · rfl

/-- The service inside gets the request with its mark. -/
theorem marked_inward (id : String) {request : Request} (h : request.body.Complete) :
    request.Marked id (inward (some (Utf8.bytes id)) request) where
  method_eq := rfl
  target_eq := rfl
  headers_eq := rfl
  complete := complete_handed request.headers h
  bytes_eq := bytes_handed request.headers request.body

/-- The answer goes out with its mark. -/
theorem marked_outward (id : String) {answer : Response} (h : answer.body.Complete) :
    answer.Marked id (outward (some (Utf8.bytes id)) answer) where
  status_eq := rfl
  headers_eq := rfl
  complete := complete_handed answer.headers h
  bytes_eq := bytes_handed answer.headers answer.body

/-- A body that comes as it is announced is never refused. -/
theorem logBody_ne_error (direction : String) (headers : Headers) {body : Body}
    (h : body.Complete) (w : World) (fault : BodyFault) :
    (logBody direction headers body w).1 ≠ .error fault := by
  rw [logBody_of_readable direction (isReadable_of_complete headers h)]
  intro heq
  cases heq

/-- **Traces are transparent.** Let the bodies of a request and of all answers come as they are
    announced. Then the service inside is called once, and all that it does to the world is left;
    the request that it gets and the answer that goes out differ from those that came in in
    their trace id only. Neither body is refused. -/
theorem around_transparent {supply : Supply} (ids : supply.Printable)
    {inner : Request → Effect Response}
    (answers : ∀ request w, (inner request w).1.body.Complete)
    {request : Request} (sent : request.body.Complete) (w : World) :
    ∃ passed, request.Marked (chosen supply request w) passed ∧
      let answer := inner passed
        ((started request w).logging (lines "request" request.headers request.body))
      answer.1.Marked (chosen supply request w) (around supply inner request w).1 ∧
      (around supply inner request w).2 = answer.2.logging
        (lines "response" answer.1.headers answer.1.body ++ [finished answer.1.status]) ∧
      (∀ w' fault, (logBody "request" request.headers request.body w').1 ≠ .error fault) ∧
      ∀ w' fault, (logBody "response" answer.1.headers answer.1.body w').1 ≠ .error fault := by
  -- Complete bodies can be read, so that the exchange takes its longest way.
  have haround := around_of_readable supply answers
    (isReadable_of_complete request.headers sent) w
  dsimp only at haround
  rw [valueOf?_chosen ids request w] at haround
  refine ⟨inward (some (Utf8.bytes (chosen supply request w))) request,
    marked_inward _ sent, ?_, ?_, ?_, ?_⟩
  · rw [haround]
    exact marked_outward _ (answers _ _)
  · rw [haround]
  · exact logBody_ne_error "request" request.headers sent
  · exact logBody_ne_error "response" _ (answers _ _)

/-- A service that answers with what it is sent, and draws a value each time. -/
def echo (request : Request) : Effect Response := do
  let _ ← Effect.newId .strokes
  return ⟨200, request.headers, .full request.body.bytes⟩

/-- A small request with JSON. -/
def sampleEcho : Request where
  method := .post
  target := ⟨"/echo"⟩
  headers := [("content-type", Utf8.bytes "application/json")]
  body := ⟨[[0x7B], [0x7D]], some 2, false⟩

/-- The body comes back, and one value is drawn for the id and one by the service. -/
theorem around_transparent_echo :
    (around .strokes echo sampleEcho (.ofStore .empty)).1.body.bytes = [0x7B, 0x7D] ∧
      (around .strokes echo sampleEcho (.ofStore .empty)).2.drawn = 2 := by
  obtain ⟨passed, hpassed, hanswer, hworld, -, -⟩ :=
    @around_transparent .strokes Supply.printable_strokes echo
      (fun request _ => Body.complete_full request.body.bytes) sampleEcho ⟨rfl, rfl⟩
      (.ofStore .empty)
  refine ⟨?_, ?_⟩
  · -- Both bodies are the same, and the echo has the bytes of the one that it gets.
    rw [hanswer.bytes_eq]
    show (Body.full passed.body.bytes).bytes = [0x7B, 0x7D]
    rw [Body.bytes_full, hpassed.bytes_eq]
    rfl
  · rw [hworld]
    rfl

end Trace

end Http

end DialogStub
