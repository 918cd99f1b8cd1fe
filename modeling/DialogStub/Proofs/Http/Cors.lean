import DialogStub.Http.Cors
import DialogStub.Proofs.Http.Trace

/-!
# Requests from other origins

* `Response.allowedOrigins` — the origins that an answer allows: all values of its field;
* `Cors.listed` — the origins that a setting lists, and `Policy.ofSetting?_eq_list`,
  `Policy.ofSetting?_eq_any` — the policy that comes of it;
* `Policy.allowed_list` — whom such a policy allows;
* `Cors.around_allowedOrigins` — each answer allows what the policy says, for any service inside;
* `Cors.around_of_options`, `Cors.around_of_not_options` — `OPTIONS` never reaches the service
  inside; every other request does, and the answer keeps its status and its body.
-/

namespace DialogStub.Http

/-! ### All values of a name -/

/-- All values of a name. -/
def Headers.values (headers : Headers) (name : String) : List Bytes :=
  (headers.filter (·.1 = name)).map Prod.snd

/-- A name that no field has has no values. -/
theorem Headers.values_eq_nil {headers : Headers} {name : String}
    (h : ∀ field ∈ headers, field.1 ≠ name) : headers.values name = [] := by
  have hnone : headers.filter (·.1 = name) = [] :=
    List.filter_eq_nil_iff.mpr fun field hfield => by simpa using h field hfield
  rw [values, hnone]
  rfl

@[simp] theorem Headers.values_set_self (headers : Headers) (name : String) (value : Bytes) :
    (headers.set name value).values name = [value] := by
  simp [values, set, List.filter_filter]

/-- The fields of other names stay as they are. -/
theorem Headers.values_set_ne (headers : Headers) {name other : String} (value : Bytes)
    (h : other ≠ name) : (headers.set name value).values other = headers.values other := by
  have hlast : [(name, value)].filter (·.1 = other) = [] := by
    simp [Ne.symm h]
  rw [values, values, set, List.filter_append, hlast, List.append_nil, List.filter_filter]
  congr 1
  refine List.filter_congr fun field _ => ?_
  -- The fields that are taken out have another name.
  by_cases hname : field.1 = other
  · simp [hname, h]
  · simp [hname]

/-- The origins that an answer allows: all values of its field. -/
def Response.allowedOrigins (response : Response) : List Bytes :=
  response.headers.values "access-control-allow-origin"

/-- A field of another name does not allow an origin. -/
theorem Response.allowedOrigins_setHeader (response : Response) {name : String} (value : Bytes)
    (h : "access-control-allow-origin" ≠ name) :
    (response.setHeader name value).allowedOrigins = response.allowedOrigins :=
  response.headers.values_set_ne value h

/-- The trace sets no field but its own. -/
theorem Trace.values_mark (value : Option Bytes) (headers : Headers) {name : String}
    (h : name ≠ header) : (mark value headers).values name = headers.values name := by
  cases value with
  | none => rfl
  | some value => exact headers.values_set_ne value h

/-! ### Values that may stand in a message -/

/-- Header fields whose values may stand in a message. -/
def Headers.Valid (headers : Headers) : Prop :=
  ∀ field ∈ headers, Header.isValue field.2 = true

/-- A value that is found may stand in a header field. -/
theorem Headers.Valid.isValue {headers : Headers} (h : headers.Valid) {name : String}
    {value : Bytes} (hvalue : headers.get? name = some value) : Header.isValue value = true := by
  obtain ⟨before, after, rfl, -⟩ := List.lookup_eq_some_iff.mp hvalue
  exact h (name, value) (by simp)

/-- Requests are built of such header fields only. -/
theorem valid_of_buildHeaders : (fields : List (String × Bytes)) → {headers : Headers} →
    buildHeaders fields = .ok headers → headers.Valid
  | [], headers, h => by
    cases h
    exact List.forall_mem_nil _
  | (name, value) :: rest, headers, h => by
    -- The name is read, then the value, and then the other fields.
    unfold buildHeaders at h
    split at h
    · cases h
    split at h
    · rename_i hvalue
      split at h
      · cases h
      rename_i hrest
      cases h
      exact List.forall_mem_cons.mpr ⟨hvalue, valid_of_buildHeaders rest hrest⟩
    · cases h

/-- So the header fields of a request that was built are valid. -/
theorem Request.valid_of_build {method target : String} {fields : List (String × Bytes)}
    {body : Body} {request : Request} (h : Request.build method target fields body = .ok request) :
    request.headers.Valid := by
  unfold build at h
  split at h
  · cases h
  split at h
  · cases h
  split at h
  · cases h
  rename_i hheaders
  cases h
  exact valid_of_buildHeaders fields hheaders

namespace Cors

/-! ### The origins of a setting -/

/-- The origins that a setting lists: its pieces between commas, without the white space around
    them, as far as something is left. -/
def listed (setting : String) : List Bytes :=
  (((pieces setting.toList).map Text.trim).filter (· ≠ [])).map Utf8.encode

theorem mem_origins_iff {setting : String} {origin : Bytes} :
    origin ∈ origins setting ↔ origin ∈ listed setting ∧ Header.isValue origin = true :=
  List.mem_filter

/-- **A setting that lists an origin** makes a list of all that may stand in a header field. -/
theorem Policy.ofSetting?_eq_list {setting : String} {policy : Policy}
    (h : Policy.ofSetting? (some setting) = .ok policy)
    (husable : ∃ piece ∈ listed setting, Header.isValue piece = true) :
    policy = .list (origins setting) := by
  obtain ⟨piece, hpiece, hvalue⟩ := husable
  have hmem : piece ∈ origins setting := mem_origins_iff.mpr ⟨hpiece, hvalue⟩
  rw [ofSetting?, if_neg (List.ne_nil_of_mem hmem)] at h
  split at h
  · cases h
  · cases h
    rfl

/-- **A setting of which nothing is left** allows any origin, even if it lists some. -/
theorem Policy.ofSetting?_eq_any {setting : String}
    (h : ∀ piece ∈ listed setting, Header.isValue piece = false) :
    Policy.ofSetting? (some setting) = .ok .any := by
  have hnone : origins setting = [] := by
    refine List.eq_nil_iff_forall_not_mem.mpr fun piece hmem => ?_
    obtain ⟨hpiece, hvalue⟩ := mem_origins_iff.mp hmem
    rw [h piece hpiece] at hvalue
    cases hvalue
  rw [ofSetting?, if_pos hnone]

/-- **Whom a list allows**: the origin of the request, if it is on the list. -/
theorem Policy.allowed_list {setting : String} {request : Request} {origin : Bytes}
    (horigin : request.headers.get? "origin" = some origin)
    (hvalue : Header.isValue origin = true) :
    (Policy.list (origins setting)).allowed request =
      if origin ∈ listed setting then some origin else none := by
  have hiff : (origins setting).contains origin = true ↔ origin ∈ listed setting := by
    rw [List.contains_iff_mem, mem_origins_iff]
    exact and_iff_left hvalue
  rw [allowed, horigin]
  dsimp only
  by_cases hmem : origin ∈ listed setting
  · rw [if_pos (hiff.mpr hmem), if_pos hmem]
  · rw [if_neg fun hcontains => hmem (hiff.mp hcontains), if_neg hmem]

end Cors

end DialogStub.Http

namespace DialogStub.Http.Cors

/-! ### Answers from inside -/

variable (policy : Policy) {inner : Request → Effect Response} {request : Request}

/-- Marks leave the status as it is. -/
theorem Policy.mark_status (request : Request) (response : Response) :
    (policy.mark request response).status = response.status := by
  unfold mark
  split <;> rfl

/-- They leave the body as it is. -/
theorem Policy.mark_body (request : Request) (response : Response) :
    (policy.mark request response).body = response.body := by
  unfold mark
  split <;> rfl

/-- A marked answer keeps all header fields but the two of the mark. -/
theorem Policy.get?_mark (request : Request) (response : Response) {name : String}
    (horigin : name ≠ "access-control-allow-origin") (hvary : name ≠ "vary") :
    (policy.mark request response).headers.get? name = response.headers.get? name := by
  unfold mark Response.setHeader
  rw [Headers.get?_set_ne _ _ hvary]
  split
  · exact Headers.get?_set_ne _ _ horigin
  · rfl

theorem around_of_options (h : request.method = .options) :
    around policy inner request = pure (policy.preflight request) := by
  rw [around, if_pos h]

/-- Any other request comes to the service inside, and its answer is marked. -/
theorem around_of_not_options (h : request.method ≠ .options) (w : World) :
    around policy inner request w
      = (policy.mark request (inner request w).1, (inner request w).2) := by
  rw [around, if_neg h]
  rfl

/-- An answer that is complete stays so. -/
theorem around_complete (complete : ∀ request w, (inner request w).1.body.Complete)
    (request : Request) (w : World) : (around policy inner request w).1.body.Complete := by
  by_cases h : request.method = .options
  · rw [around_of_options policy h]
    show (policy.mark request (.bare 200)).body.Complete
    rw [Policy.mark_body]
    exact Body.complete_empty
  · rw [around_of_not_options policy h, Policy.mark_body]
    exact complete request w

/-! ### Answers that go out -/

/-- The origin of a request is all that the policy looks at. -/
theorem Policy.allowed_eq_of_get?_eq {request' : Request}
    (h : request'.headers.get? "origin" = request.headers.get? "origin") :
    policy.allowed request' = policy.allowed request := by
  unfold allowed
  rw [h]

/-- A marked answer allows what the policy says, and nothing besides. -/
theorem Policy.allowedOrigins_mark (request : Request) {response : Response}
    (h : response.allowedOrigins = []) :
    (policy.mark request response).allowedOrigins = (policy.allowed request).toList := by
  unfold mark
  dsimp only
  rw [Response.allowedOrigins_setHeader _ _ (by decide)]
  cases policy.allowed request with
  | none => exact h
  | some origin => exact response.headers.values_set_self _ origin

/-- **What goes out allows what the policy says**, by every method. -/
theorem around_allowedOrigins (hinner : ∀ request w, (inner request w).1.allowedOrigins = [])
    (request : Request) (w : World) :
    (around policy inner request w).1.allowedOrigins = (policy.allowed request).toList := by
  by_cases h : request.method = .options
  · rw [around_of_options policy h]
    show (policy.preflight request).allowedOrigins = _
    unfold Policy.preflight
    rw [Response.allowedOrigins_setHeader _ _ (by decide),
      Response.allowedOrigins_setHeader _ _ (by decide)]
    exact policy.allowedOrigins_mark request rfl
  · rw [around_of_not_options policy h]
    exact policy.allowedOrigins_mark request (hinner request w)

end DialogStub.Http.Cors
