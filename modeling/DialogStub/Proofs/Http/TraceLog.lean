import DialogStub.Proofs.Http.Trace
import DialogStub.Proofs.Text.Decode
import DialogStub.Proofs.Text.LowerCase

/-!
# What the log says of a request

* `Trace.opening`, `Trace.finished` — the events at both ends of a request;
* `Event.Inner`, `Effect.Reports` — events that are neither, and effects that report such only;
* `Trace.Declared` — a media type that declares JSON;
* `Trace.Tells` — what the log says of a body of known size;
* `Trace.logBody_of_hidden` — a body that is long, or not declared as JSON, leaves no trace of its
  bytes;
* `Trace.around_ends` — a request is opened first and closed last, whatever comes of it;
* `Trace.Recounts`, `Trace.around_log` — all that one request adds to the log, around any service.

What is said of a body depends on its size and its media type, and on its bytes only if it is small
and declared as JSON.
-/

namespace DialogStub

open Http

/-! ### Events between the ends -/

namespace Http.Trace

/-- The event that opens a request. -/
def opening : Event := ⟨.info, "→ request started", []⟩

/-- The texts of the events at both ends of a request. -/
def borders : List String := ["→ request started", "← response finished"]

end Http.Trace

/-- An event that neither opens nor closes a request. -/
def Event.Inner (e : Event) : Prop :=
  e.text ∉ Trace.borders

/-- An effect that reports such events only, and never reads the log. -/
abbrev Effect.Reports {α : Type} (f : Effect α) : Prop :=
  f.OnlyReports Event.Inner

/-- A report in any other words. -/
theorem Effect.report_reports (level : Level) {text : String} (fields : List (String × String))
    (h : text ∉ Trace.borders) : (Effect.report level text fields).Reports :=
  .report h

namespace Http.Trace

/-! ### Lines about bodies -/

/-- A media type that declares JSON. -/
def Declared (type : String) : Prop :=
  "application/json".toList <:+: type.toList

instance (type : String) : Decidable (Declared type) :=
  decidable_of_iff _ (Text.contains_eq_true_iff "application/json".toList type.toList)

/-- The line with a body in full. -/
def wholeLine (direction text : String) : Event :=
  ⟨.info, direction ++ " body: " ++ text, []⟩

/-- The line about a body that is skipped. -/
def skippedLine (direction type : String) (size : Nat) : Event :=
  ⟨.info, direction ++ " body: [skipped: type=" ++ type ++ ", size=" ++ toString size ++ "]", []⟩

/-- What the log says of a body with the given media type, announced size and bytes. -/
structure Tells (direction type : String) (n : Nat) (bytes : Bytes) (events : List Event) :
    Prop where
  empty : n = 0 → events = []
  whole : Declared type → 0 < n → n < maxLogged → ∀ text, Utf8.bytes text = bytes →
    events = [wholeLine direction text]
  ill_formed : Declared type → 0 < n → n < maxLogged → (∀ text, Utf8.bytes text ≠ bytes) →
    events = []
  skipped : 0 < n → ¬(Declared type ∧ n < maxLogged) → events = [skippedLine direction type n]

/-- The plan for a body of known size. -/
theorem plan_eq (type : String) (n : Nat) :
    plan type (some n) =
      if n = 0 then .silent
      else if Declared type ∧ n < maxLogged then .whole
      else .skip type (some n) := by
  cases n with
  | zero => rfl
  | succ n =>
    have hiff : Text.contains "application/json".toList type.toList = true ↔ Declared type :=
      Text.contains_eq_true_iff _ _
    rw [if_neg (Nat.succ_ne_zero n), plan]
    simp only [hiff]

section Lines

variable {direction : String} {headers : Headers} {body : Body}

/-- **What the log says of a body** of known size. -/
theorem tells_lines {n : Nat} (h : body.size = some n) :
    Tells direction (contentType headers) n body.bytes (lines direction headers body) := by
  have hplan := plan_eq (contentType headers) n
  rw [← h] at hplan
  -- Nothing is said of an empty body, all of a short text, nothing of short bytes that are no text,
  -- and of others that they are skipped.
  constructor
  · intro hzero
    rw [if_pos hzero] at hplan
    rw [lines, hplan]
  · intro hdeclared hpos hlt text htext
    rw [if_neg (Nat.ne_of_gt hpos), if_pos ⟨hdeclared, hlt⟩] at hplan
    rw [lines, hplan]
    dsimp only
    rw [Utf8.text?_eq_some_iff.mpr htext]
    rfl
  · intro hdeclared hpos hlt hill
    rw [if_neg (Nat.ne_of_gt hpos), if_pos ⟨hdeclared, hlt⟩] at hplan
    rw [lines, hplan]
    dsimp only
    rw [Utf8.text?_eq_none_iff.mpr hill]
  · intro hpos hskip
    rw [if_neg (Nat.ne_of_gt hpos), if_neg hskip, h] at hplan
    rw [lines, h, hplan]
    rfl

/-- **Hidden bodies.** Of a body that is announced as long, or not declared as JSON, the log says
    the same as of every other body of that size. -/
theorem logBody_of_hidden {body' : Body} {n : Nat} (h : body.size = some n)
    (h' : body'.size = some n) (hidden : maxLogged ≤ n ∨ ¬Declared (contentType headers))
    (w : World) :
    (logBody direction headers body' w).2 = (logBody direction headers body w).2 := by
  have hskip : ¬(Declared (contentType headers) ∧ n < maxLogged) := by
    rintro ⟨hdeclared, hlt⟩
    rcases hidden with hlong | hundeclared
    · exact Nat.not_lt.mpr hlong hlt
    · exact hundeclared hdeclared
  have hplan := plan_eq (contentType headers) n
  rw [if_neg hskip] at hplan
  rw [logBody, logBody, h, h', hplan]
  split <;> rfl

/-- Lines about bodies begin with the direction. -/
theorem inner_of_direction {level : Level} {text : String} {fields : List (String × String)}
    (h : direction = "request" ∨ direction = "response") :
    Event.Inner ⟨level, direction ++ text, fields⟩ := by
  have hfirst : (direction ++ text).toList.head? = some 'r' := by
    rw [String.toList_append]
    rcases h with rfl | rfl <;> rfl
  have hborders : ∀ border ∈ borders, border.toList.head? ≠ some 'r' := by decide
  exact fun hmem => hborders _ hmem hfirst

/-- The lines about bodies are inner ones, in either direction. -/
theorem logBody_reports (h : direction = "request" ∨ direction = "response") (headers : Headers)
    (body : Body) : (logBody direction headers body).Reports := by
  unfold logBody
  -- The plan tells whether there is a line, and which.
  split
  · exact .pure _
  · refine .bind (.report ?_) fun _ => .pure _
    unfold skipLine
    simp only [String.append_assoc]
    exact inner_of_direction h
  · split
    · exact .pure _
    · split
      · refine .bind (.report ?_) fun _ => .pure _
        rw [String.append_assoc]
        exact inner_of_direction h
      · exact .bind (.pure _) fun _ => .pure _

end Lines

/-! ### Exchanges -/

/-- The service inside aside, an exchange reports inner events only. -/
theorem exchange_reports {inner : Request → Effect Response} (h : ∀ passed, (inner passed).Reports)
    (value : Option Bytes) (request : Request) : (exchange value inner request).Reports := by
  refine .bind (logBody_reports (.inl rfl) _ _) fun result => ?_
  cases result with
  | error fault => exact .bind (Effect.report_reports _ _ (by decide)) fun _ => .pure _
  | ok body =>
    refine .bind (h _) fun response => .bind (logBody_reports (.inr rfl) _ _) fun result => ?_
    cases result with
    | ok body => exact .pure _
    | error fault => exact .bind (Effect.report_reports _ _ (by decide)) fun _ => .pure _

/-- **The ends of a request.** Whatever comes of a request, the log opens it first and closes it
    last, with the status of the answer, and neither happens in between. -/
theorem around_ends (supply : Supply) {inner : Request → Effect Response}
    (h : ∀ passed, (inner passed).Reports) (request : Request) (w : World) :
    ∃ middle : List Event, (∀ e ∈ middle, e.Inner) ∧
      (around supply inner request w).2.events = w.events ++ opening :: middle ++
        [finished (around supply inner request w).1.status] ∧
      (started request w).drawn ≤ (around supply inner request w).2.drawn := by
  rw [around_eq]
  dsimp only
  have hexchange := exchange_reports h (valueOf? (chosen supply request w)) request
  obtain ⟨middle, hmiddle, hevents⟩ := hexchange.exists_events (started request w)
  refine ⟨middle, hmiddle, ?_, hexchange.drawn_le (started request w)⟩
  rw [World.logging, hevents, started, List.append_assoc w.events]
  rfl

/-- What one request adds to the log: what is said of its body, what the service inside says, and
    what is said of the body of its answer, between the two ends. -/
def Recounts (inner : Request → Effect Response) (request : Request) (n : Nat) (w : World)
    (result : Response × World) : Prop :=
  ∃ passed w₁ told inside told',
    request.Same passed ∧ w₁.events = w.events ++ opening :: told ∧
    (inner passed w₁).2.events = w₁.events ++ inside ∧
    result.1.status = (inner passed w₁).1.status ∧
    result.2.events =
      w.events ++ opening :: (told ++ inside ++ told') ++ [finished result.1.status] ∧
    Tells "request" (contentType request.headers) n request.body.bytes told ∧
    Tells "response" (contentType (inner passed w₁).1.headers)
      (inner passed w₁).1.body.bytes.length (inner passed w₁).1.body.bytes told'

/-- **All that one request adds to the log**, around any service whose answers come as they are
    announced, and which takes nothing out of the log. -/
theorem around_log (supply : Supply) {inner : Request → Effect Response}
    (answers : ∀ passed w, (inner passed w).1.body.Complete)
    (grows : ∀ passed w, w.events <+: (inner passed w).2.events)
    {request : Request} {n : Nat} (size : request.body.size = some n)
    (readable : isReadable request.headers request.body = true) (w : World) :
    Recounts inner request n w (around supply inner request w) := by
  have haround := around_of_readable supply answers readable w
  dsimp only at haround
  let passed := inward (valueOf? (chosen supply request w)) request
  let told := lines "request" request.headers request.body
  let w₁ := (started request w).logging told
  obtain ⟨inside, hinside⟩ := grows passed w₁
  -- The trace opens the exchange and tells the request before the inner layers see it.
  have hopened : w₁.events = w.events ++ opening :: told := by
    show w.events ++ [opening] ++ told = _
    rw [List.append_assoc]
    rfl
  refine ⟨passed, w₁, told, inside, _, same_inward _ readable, hopened, hinside.symm, ?_, ?_,
    tells_lines size, tells_lines (answers passed w₁).size_eq⟩
  · rw [haround]
    rfl
  · rw [haround]
    show (inner passed w₁).2.events ++ (_ ++ [_]) = _
    rw [← hinside, hopened]
    simp only [List.append_assoc, List.cons_append]
    rfl

/-- A body that cannot be read leaves no line of its own, and the service inside says nothing. -/
theorem around_log_of_not_readable (supply : Supply) (inner : Request → Effect Response)
    {request : Request} (h : isReadable request.headers request.body = false) (w : World) :
    ∃ fault : BodyFault, (around supply inner request w).2.events =
      w.events ++ [opening,
        ⟨.warn, "failed to read request body", [("error", fault.message)]⟩,
        finished (around supply inner request w).1.status] := by
  obtain ⟨fault, hlog⟩ := logBody_of_not_readable "request" h (started request w)
  refine ⟨fault, ?_⟩
  rw [around_eq]
  dsimp only
  rw [exchange, Effect.bind_apply, hlog]
  -- The one event stands between the two lines of the request.
  show (w.events ++ [opening] ++ [_]) ++ [_] = _
  rw [List.append_assoc, List.append_assoc]
  rfl

end Http.Trace

end DialogStub
