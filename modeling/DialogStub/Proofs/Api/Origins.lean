import DialogStub.Proofs.Api.Run

/-!
# Whom answers allow

* `Server.handle_allowedOrigins` — an answer allows what the policy of the server says;
* `Server.handle_origins` — a server that lists origins allows those on the list, and no other;
* `Server.handle_origins_lines` — a list from which nothing can be used allows any origin.

The routes never allow an origin themselves, and the layers around the policy leave its field as it
is. So an answer allows one origin at most, whatever the method and the path of the request.
-/

namespace DialogStub

open Http

/-- The routes allow no origin. -/
theorem Http.Response.Made.allowedOrigins {response : Response} (h : response.Made) :
    response.allowedOrigins = [] := by
  refine Headers.values_eq_nil fun field hfield => ?_
  rcases h.name_cases hfield with hname | hname
  · rw [hname]
    decide
  · rw [hname]
    decide

namespace Server

section Layers

variable (server : Server) {request : Request}

/-- The last touches do not allow an origin. -/
theorem finish_allowedOrigins (request : Request) (response : Response) :
    (server.finish request response).allowedOrigins = response.allowedOrigins := by
  have hbody (r : Response) :
      (if request.method = .head then r.withoutBody else r).allowedOrigins = r.allowedOrigins := by
    split <;> rfl
  unfold finish
  rw [hbody]
  split
  · split
    · exact Response.allowedOrigins_setHeader _ _ (by decide)
    · rfl
  · rfl

/-- **Each answer allows what the policy says**, if the trace can read the request. -/
theorem handle_allowedOrigins (readable : Trace.isReadable request.headers request.body = true)
    (w : World) :
    (server.handle request w).1.allowedOrigins = (server.policy.allowed request).toList := by
  obtain ⟨passed, w₁, value, hsame, -, heq, -, -⟩ := server.handle_of_readable readable w
  have hmark (response : Response) :
      (Trace.outward value response).allowedOrigins = response.allowedOrigins :=
    Trace.values_mark value response.headers (by decide)
  have horigin : passed.headers.get? "origin" = request.headers.get? "origin" :=
    hsame.get?_eq "origin" (by decide)
  rw [heq, finish_allowedOrigins, hmark, Cors.around_allowedOrigins server.policy
    (fun r w => (server.route_made r w).allowedOrigins),
    server.policy.allowed_eq_of_get?_eq horigin]

/-- The trace allows no origin. -/
theorem handle_allowedOrigins_of_not_readable
    (h : Trace.isReadable request.headers request.body = false) (w : World) :
    (server.handle request w).1.allowedOrigins = [] := by
  obtain ⟨value, hanswer, -⟩ := Trace.around_of_not_readable server.supply
    (Cors.around server.policy server.route) h w
  have heq : (server.handle request w).1 = server.finish request { Trace.unreadableRequest with
      headers := Trace.mark value Trace.unreadableRequest.headers } := by
    rw [handle_apply]
    exact congrArg (server.finish request) hanswer
  rw [heq, finish_allowedOrigins]
  exact Trace.values_mark value _ (by decide)

end Layers

/-- A server has the policy of its configuration. -/
theorem policy_of_start? {config : Config} {fixtures : Fixtures} {platform : Platform}
    {supply : Supply} {server : Server}
    (starts : start? config fixtures platform supply = .ok server) :
    Cors.Policy.ofSetting? config.corsAllowedOrigins = .ok server.policy := by
  unfold start? at starts
  split at starts
  · cases starts
  · rename_i policy hpolicy
    cases starts
    exact hpolicy

/-- **A list of origins narrows whom a server allows.** Let a setting list at least one origin that
    may stand in a header field. Then an origin that is not listed is allowed by no answer, and one
    that is listed is allowed by every answer to it, by any method and on any path, unless the trace
    cannot read the request. -/
theorem handle_origins {config : Config} {fixtures : Fixtures} {platform : Platform}
    {supply : Supply} {server : Server} {setting : String} {request : Request} {origin : Bytes}
    (starts : start? config fixtures platform supply = .ok server)
    (configured : config.corsAllowedOrigins = some setting)
    (usable : ∃ piece ∈ Cors.listed setting, Header.isValue piece = true)
    (sent : request.headers.Valid) (asks : request.headers.get? "origin" = some origin)
    (w : World) :
    (origin ∈ Cors.listed setting → Trace.isReadable request.headers request.body = true →
      (server.handle request w).1.allowedOrigins = [origin]) ∧
    (origin ∉ Cors.listed setting → (server.handle request w).1.allowedOrigins = []) := by
  have hpolicy : server.policy = .list (Cors.origins setting) :=
    Cors.Policy.ofSetting?_eq_list (configured ▸ policy_of_start? starts) usable
  have hallowed : (Cors.Policy.list (Cors.origins setting)).allowed request =
      if origin ∈ Cors.listed setting then some origin else none :=
    Cors.Policy.allowed_list asks (sent.isValue asks)
  -- Whether the trace can read the request counts for an origin on the list only.
  refine ⟨fun hlisted readable => ?_, fun hunlisted => ?_⟩
  · rw [server.handle_allowedOrigins readable, hpolicy, hallowed, if_pos hlisted]
    rfl
  · cases readable : Trace.isReadable request.headers request.body with
    | true =>
      rw [server.handle_allowedOrigins readable, hpolicy, hallowed, if_neg hunlisted]
      rfl
    | false => exact server.handle_allowedOrigins_of_not_readable readable w

/-- The small server with a setting for origins. -/
def sampleListing (setting : String) (policy : Cors.Policy) : Server :=
  { sample with
    config := { Config.standard with corsAllowedOrigins := some setting }
    policy := policy }

/-- A look at the catalog from an origin. -/
def sampleVisit (origin : String) : Request :=
  ⟨.get, ⟨"/api/v1/scenarios"⟩, [("origin", Utf8.bytes origin)], .empty⟩

/-- The small server starts with such a setting, if the setting has a policy. -/
theorem start?_sampleListing {setting : String} {policy : Cors.Policy}
    (h : Cors.Policy.ofSetting? (some setting) = .ok policy) :
    start? (sampleListing setting policy).config sample.fixtures (fun _ => .failed) .strokes
      = .ok (sampleListing setting policy) := by
  unfold start?
  have hpolicy : Cors.Policy.ofSetting?
      (sampleListing setting policy).config.corsAllowedOrigins = .ok policy := h
  rw [hpolicy]
  rfl

/-- Of two origins the second is allowed, and a third is not. -/
theorem handle_origins_sampleListing :
    let setting := "http://allowed.test, http://also.test"
    let server := sampleListing setting
      (.list [Utf8.bytes "http://allowed.test", Utf8.bytes "http://also.test"])
    (server.handle (sampleVisit "http://also.test") server.initial).1.allowedOrigins
        = [Utf8.bytes "http://also.test"] ∧
      (server.handle (sampleVisit "http://evil.test") server.initial).1.allowedOrigins = [] := by
  intro setting server
  have hpolicy : Cors.Policy.ofSetting? (some setting) = .ok server.policy := by decide +kernel
  have starts := start?_sampleListing hpolicy
  -- One piece of the setting is enough for a list.
  have usable : ∃ piece ∈ Cors.listed setting, Header.isValue piece = true := by decide +kernel
  have sent (origin : String) (h : Header.isValue (Utf8.bytes origin) = true) :
      (sampleVisit origin).headers.Valid := by
    intro field hfield
    rw [List.mem_singleton.mp hfield]
    exact h
  refine ⟨?_, ?_⟩
  · exact (handle_origins starts rfl usable (sent "http://also.test" (by decide +kernel)) rfl
      server.initial).1 (by decide +kernel) (by decide +kernel)
  · exact (handle_origins starts rfl usable (sent "http://evil.test" (by decide +kernel)) rfl
      server.initial).2 (by decide +kernel)

/-- **A list on lines.** This setting lists one piece, which may not stand in a header field. So the
    server allows any origin, and one that is not listed at all is told so. And with a list of one
    origin, a request of this origin that breaks off is answered without leave. -/
theorem handle_origins_lines :
    let setting := "http://a.test\nhttp://b.test"
    let server := sampleListing setting .any
    let single := sampleListing "http://a.test" (.list [Utf8.bytes "http://a.test"])
    let broken : Request := ⟨.post, ⟨"/api/v1/chat/sessions"⟩,
      [("content-type", Utf8.bytes "application/json"), ("origin", Utf8.bytes "http://a.test")],
      ⟨[[0x7B]], some 5, true⟩⟩
    (start? server.config sample.fixtures (fun _ => .failed) .strokes = .ok server ∧
      Cors.listed setting = [Utf8.bytes "http://a.test\nhttp://b.test"] ∧
      Utf8.bytes "http://evil.test" ∉ Cors.listed setting ∧
      (server.handle (sampleVisit "http://evil.test") server.initial).1.allowedOrigins
        = [Utf8.bytes "*"]) ∧
    start? single.config sample.fixtures (fun _ => .failed) .strokes = .ok single ∧
      Utf8.bytes "http://a.test" ∈ Cors.listed "http://a.test" ∧
      (single.handle broken single.initial).1.allowedOrigins = [] := by
  intro setting server single broken
  refine ⟨⟨start?_sampleListing (by decide +kernel), by decide +kernel, by decide +kernel,
    by decide +kernel⟩, start?_sampleListing (by decide +kernel), by decide +kernel,
    by decide +kernel⟩

end Server

end DialogStub
