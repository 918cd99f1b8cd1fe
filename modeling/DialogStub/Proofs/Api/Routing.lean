import DialogStub.Proofs.Api.Run
import Mathlib.Data.List.Chain

/-!
# Routing

* `Route.path` — the path of a route;
* `Route.IsServed` — the routes of a server without the pages about the API;
* `Route.ofPath_eq_some_iff` — a path leads to a route only if it is the path of the route, letter
  by letter;
* `Route.IsServed.noDoubleSlash`, `Route.IsServed.noSlashAtEnd` — what no path of a route looks
  like;
* `Route.Registers` — which methods a route answers;
* `Server.route_of_goesTo` — a request that goes to a route is dispatched there;
* `Server.Routes` — how a request finds its way, and `Server.handle_routes` — that all do so.

A session id is one segment of a path, so that it has no slash. It may be empty before the messages
of its session, and nowhere else.
-/

namespace DialogStub

open Http

namespace Route

/-! ### Paths -/

/-- The path of a route. -/
def path : Route → String
  | .health => "/health"
  | .data => "/api/data"
  | .info => "/api/info"
  | .users => "/api/users"
  | .complexData => "/api/complex-data"
  | .chatStart => "/chat/start"
  | .chatMessage => "/chat/message"
  | .chatDemo => "/chat/demo"
  | .chatStatus => "/api/v1/chat/status"
  | .sessions => "/api/v1/chat/sessions"
  | .session id => String.ofList (sessionPath ++ id)
  | .sessionMessages id => String.ofList (sessionPath ++ id ++ messagesPath)
  | .messages => "/api/v1/chat/messages"
  | .dialogs => "/api/v1/dialogs"
  | .scenarios => "/api/v1/scenarios"
  | .nluStatus => "/api/v1/nlu/status"
  | .nluAnalyze => "/api/v1/nlu/analyze"
  | .orchestratorStatus => "/api/v1/orchestrator/status"
  | .orchestratorProcess => "/api/v1/orchestrator/process"
  | .document => "/api-docs/openapi.json"
  | .pages => "/swagger-ui"
  | .page file => "/swagger-ui/" ++ file

/-- The routes of a server without the pages about the API. Their session ids are segments. -/
def IsServed : Route → Prop
  | .session id => id ≠ [] ∧ '/' ∉ id
  | .sessionMessages id => '/' ∉ id
  | .document | .pages | .page _ => False
  | _ => True

/-- A route that is served has a fixed path, or a session id in its path. -/
theorem IsServed.cases {route : Route} (h : route.IsServed) :
    (route.path, route) ∈ fixed ∨ (∃ id, route = .session id) ∨
      ∃ id, route = .sessionMessages id := by
  cases route with
  | session id => exact .inr (.inl ⟨id, rfl⟩)
  | sessionMessages id => exact .inr (.inr ⟨id, rfl⟩)
  | document => exact h.elim
  | pages => exact h.elim
  | page file => exact h.elim
  | _ => exact .inl (by decide)

theorem fixed_served : ∀ entry ∈ fixed, entry.2.IsServed ∧ entry.2.path = entry.1 := by
  simp [fixed, IsServed, path]

theorem lookup_fixed : ∀ entry ∈ fixed, fixed.lookup entry.1 = some entry.2 := by
  decide

/-- What stands behind the path of the sessions leads to a session, or to its messages. -/
theorem ofSegment_eq_some_iff {rest : List Char} {route : Route} :
    ofSegment rest = some route ↔
      (∃ id, '/' ∉ id ∧ rest = id ++ messagesPath ∧ route = .sessionMessages id) ∨
        (rest ≠ [] ∧ '/' ∉ rest ∧ route = .session rest) := by
  constructor
  · intro h
    have hslash : '/' ∉ rest.takeWhile (· ≠ '/') := by
      intro hmem
      have hne := List.all_eq_true.mp List.all_takeWhile _ hmem
      simp at hne
    have hsplit : rest.takeWhile (· ≠ '/') ++ rest.drop (rest.takeWhile (· ≠ '/')).length = rest :=
      List.prefix_iff_eq_append.mp (List.takeWhile_prefix _)
    unfold ofSegment at h
    dsimp only at h
    split at h
    · -- A slash ends the id, and what follows it is the path of the messages.
      rename_i hbehind
      rw [hbehind] at hsplit
      exact .inl ⟨_, hslash, hsplit.symm, (Option.some.inj h).symm⟩
    · split at h
      · -- No slash follows, and so all of it is the id.
        rename_i hid
        rw [hid.1, List.append_nil] at hsplit
        rw [hsplit] at h hslash hid
        exact .inr ⟨hid.2, hslash, (Option.some.inj h).symm⟩
      · cases h
  · rintro (⟨id, hslash, rfl, rfl⟩ | ⟨hne, hslash, rfl⟩)
    · rw [ofSegment, takeWhile_segment hslash (.inr rfl), List.drop_left]
      exact if_pos rfl
    · have htake : rest.takeWhile (· ≠ '/') = rest := by
        simpa using takeWhile_segment hslash (.inl rfl)
      rw [ofSegment, htake, List.drop_length, if_neg (by decide), if_pos ⟨rfl, hne⟩]

/-- The path of a route that is served leads to it, with the pages about the API or without. -/
theorem IsServed.ofPath_path {route : Route} (h : route.IsServed) (withPages : Bool) :
    ofPath withPages route.path = some route := by
  rcases h.cases with hmem | ⟨id, rfl⟩ | ⟨id, rfl⟩
  · rw [ofPath, lookup_fixed _ hmem]
  · rw [path, ofPath_below_sessions]
    exact ofSegment_eq_some_iff.mpr (.inr ⟨h.1, h.2, rfl⟩)
  · exact ofPath_sessionMessages withPages h

/-- **Paths.** A path leads to a route if it is the path of this route, and only then. -/
theorem ofPath_eq_some_iff {text : String} {route : Route} :
    ofPath false text = some route ↔ route.IsServed ∧ text = route.path := by
  constructor
  · intro h
    -- A fixed path is looked up first, and only then is the path cut.
    unfold ofPath at h
    split at h
    · rename_i found hlookup
      obtain ⟨before, after, heq, -⟩ := List.lookup_eq_some_iff.mp hlookup
      have hserved := fixed_served (text, found) (by rw [heq]; simp)
      obtain rfl := Option.some.inj h
      exact ⟨hserved.1, hserved.2.symm⟩
    · split at h
      · rename_i hbegins
        obtain ⟨rest, hrest⟩ := List.isPrefixOf_iff_prefix.mp hbegins
        have htext : text = String.ofList (sessionPath ++ rest) := by
          rw [hrest, String.ofList_toList]
        rw [← hrest, List.drop_left] at h
        rcases ofSegment_eq_some_iff.mp h with ⟨id, hslash, rfl, rfl⟩ | ⟨hne, hslash, rfl⟩
        · exact ⟨hslash, by rw [htext, path, List.append_assoc]⟩
        · exact ⟨⟨hne, hslash⟩, htext⟩
      · cases h
  · rintro ⟨hserved, rfl⟩
    exact hserved.ofPath_path false

/-! ### What no path of a route looks like -/

/-- No path of a route ends with a slash. -/
theorem IsServed.noSlashAtEnd {route : Route} (h : route.IsServed) :
    route.path.toList.getLast? ≠ some '/' := by
  have hfixed : ∀ entry ∈ fixed, entry.1.toList.getLast? ≠ some '/' := by decide
  rcases h.cases with hmem | ⟨id, rfl⟩ | ⟨id, rfl⟩
  · exact hfixed _ hmem
  · -- The path ends with the id, in which there is no slash.
    rw [path, String.toList_ofList, List.getLast?_append, List.getLast?_eq_some_getLast h.1]
    intro heq
    have hlast : id.getLast h.1 = '/' := Option.some.inj heq
    exact h.2 (hlast ▸ List.getLast_mem h.1)
  · rw [path, String.toList_ofList, List.getLast?_append]
    intro heq
    have hlast : messagesPath.getLast? = some 's' := by decide
    rw [hlast] at heq
    cases heq

/-- Two characters are not both slashes. -/
def NotBoth (c d : Char) : Prop :=
  ¬(c = '/' ∧ d = '/')

instance (c d : Char) : Decidable (NotBoth c d) :=
  inferInstanceAs (Decidable (¬_))

/-- Two slashes in a row are not found in a chain of characters that never are both slashes. -/
theorem not_infix_of_isChain {cs : List Char} (h : cs.IsChain NotBoth) : ¬['/', '/'] <:+: cs := by
  intro hinfix
  have hpair := h.infix hinfix
  simp [NotBoth] at hpair

/-- A text without a slash is such a chain. -/
theorem isChain_of_not_mem {cs : List Char} (h : '/' ∉ cs) : cs.IsChain NotBoth := by
  induction cs with
  | nil => exact .nil
  | cons c cs ih =>
    have hrest := ih fun hmem => h (List.mem_cons_of_mem c hmem)
    refine List.isChain_cons.mpr ⟨fun d _ hboth => h ?_, hrest⟩
    exact hboth.1 ▸ List.mem_cons_self

/-- Of all paths of a route, only that of the messages of no session has two slashes in a row. -/
theorem IsServed.noDoubleSlash {route : Route} (h : route.IsServed)
    (hslash : ['/', '/'] <:+: route.path.toList) : route = .sessionMessages [] := by
  have hfixed : ∀ entry ∈ fixed, entry.1.toList.IsChain NotBoth := by decide
  have hbefore : sessionPath.IsChain NotBoth := by decide
  -- A segment that is not empty keeps the slashes around it apart.
  have hsession {id : List Char} (hne : id ≠ []) (hid : '/' ∉ id) :
      (sessionPath ++ id).IsChain NotBoth := by
    refine List.isChain_append.mpr ⟨hbefore, isChain_of_not_mem hid, ?_⟩
    rintro c - d hd ⟨-, rfl⟩
    exact hid (List.mem_of_mem_head? hd)
  rcases h.cases with hmem | ⟨id, rfl⟩ | ⟨id, rfl⟩
  · exact absurd hslash (not_infix_of_isChain (hfixed _ hmem))
  · rw [path, String.toList_ofList] at hslash
    exact absurd hslash (not_infix_of_isChain (hsession h.1 h.2))
  · by_cases hne : id = []
    · rw [hne]
    · rw [path, String.toList_ofList] at hslash
      refine absurd hslash (not_infix_of_isChain (List.isChain_append.mpr ⟨hsession hne h, ?_, ?_⟩))
      · decide
      · rintro c hc d - ⟨rfl, -⟩
        rw [List.getLast?_append, List.getLast?_eq_some_getLast hne] at hc
        have hlast : id.getLast hne = '/' := Option.some.inj hc
        exact h (hlast ▸ List.getLast_mem hne)

/-! ### Methods -/

/-- The routes that are read with `GET`, and so with `HEAD`. -/
def isRead : Route → Bool
  | .chatStart | .chatMessage | .chatDemo | .messages | .nluAnalyze | .orchestratorProcess => false
  | _ => true

/-- The routes that are written to with `POST`. -/
def isWritten : Route → Bool
  | .data | .sessions => true
  | .chatStart | .chatMessage | .chatDemo | .messages | .nluAnalyze | .orchestratorProcess => true
  | _ => false

/-- Whether a method does this on a route. -/
def Registers (route : Route) (method : Method) : Action → Prop
  | .read => (method = .get ∨ method = .head) ∧ route.isRead = true
  | .write => method = .post ∧ route.isWritten = true

/-- The methods of a route are read and written ones. -/
theorem lookup_methods (route : Route) :
    route.methods.lookup "GET" = (if route.isRead then some .read else none) ∧
      route.methods.lookup "HEAD" = (if route.isRead then some .read else none) ∧
      route.methods.lookup "POST" = (if route.isWritten then some .write else none) := by
  cases route <;> exact ⟨rfl, rfl, rfl⟩

/-- A method does on a route what it is registered for. -/
theorem action?_eq_some_iff {route : Route} {method : Method} {action : Action} :
    route.action? method = some action ↔ route.Registers method action := by
  obtain ⟨hget, hhead, hpost⟩ := route.lookup_methods
  cases method with
  | get => rw [action?, hget]; cases action <;> simp [Registers]
  | head => rw [action?, hhead]; cases action <;> simp [Registers]
  | post => rw [action?, hpost]; cases action <;> simp [Registers]
  | options => cases action <;> simp [action?, Registers]
  | other name => cases action <;> simp [action?, Registers]

end Route

/-! ### Requests -/

/-- A request for a route, with the path of the route. -/
def Http.Request.IsFor (request : Request) (route : Route) : Prop :=
  route.IsServed ∧ request.target.path = route.path

/-- A request for a route with a method that does something on it. -/
def Http.Request.GoesTo (request : Request) (route : Route) (action : Action) : Prop :=
  request.IsFor route ∧ route.Registers request.method action

/-- What the trace hands on goes to the same route. -/
theorem Http.Request.GoesTo.of_same {request passed : Request} {route : Route} {action : Action}
    (goes : request.GoesTo route action) (same : request.Same passed) :
    passed.GoesTo route action := by
  rw [GoesTo, IsFor, same.target_eq, same.method_eq]
  exact goes

namespace Server

/-- Where a request is dispatched to. -/
def target? (server : Server) (request : Request) : Option (Route × Action) :=
  (server.routeOf request).bind fun route =>
    (route.action? request.method).map fun action => (route, action)

variable {server : Server}

/-- **A request that goes to a route** is dispatched there, with the pages about the API or without
    them. -/
theorem route_of_goesTo {request : Request} {route : Route} {action : Action}
    (goes : request.GoesTo route action) :
    server.route request = server.dispatch route action request := by
  have hroute : server.routeOf request = some route := by
    rw [routeOf, goes.1.2]
    exact goes.1.1.ofPath_path _
  exact route_of_action hroute (Route.action?_eq_some_iff.mpr goes.2)

/-- Without the pages about the API, a request is for the route of its path. -/
theorem routeOf_eq_some_iff (pages : server.config.enableSwagger = false) {request : Request}
    {route : Route} : server.routeOf request = some route ↔ request.IsFor route := by
  rw [routeOf, pages]
  exact Route.ofPath_eq_some_iff

/-- And it is dispatched to the route that it goes to. -/
theorem target?_eq_some_iff (pages : server.config.enableSwagger = false) {request : Request}
    {route : Route} {action : Action} :
    server.target? request = some (route, action) ↔ request.GoesTo route action := by
  rw [target?, Option.bind_eq_some_iff]
  constructor
  · rintro ⟨found, hfound, hmap⟩
    obtain ⟨done, hdone, heq⟩ := Option.map_eq_some_iff.mp hmap
    obtain ⟨rfl, rfl⟩ := Prod.mk.inj heq
    exact ⟨(routeOf_eq_some_iff pages).mp hfound, Route.action?_eq_some_iff.mp hdone⟩
  · rintro ⟨hroute, haction⟩
    refine ⟨route, (routeOf_eq_some_iff pages).mpr hroute, ?_⟩
    rw [Route.action?_eq_some_iff.mpr haction]
    rfl

/-- A request with `HEAD` is answered without a body. -/
theorem bytes_of_head {request : Request} (h : request.method = .head) (w : World) :
    (server.handle request w).1.body.bytes = [] := by
  rw [handle_apply]
  dsimp only
  rw [finish, if_pos h]
  rfl

section Passes

variable {request passed : Request} {w w₁ : World}

/-- A request with a method that a route does not know. -/
theorem Passes.refused (h : server.Passes request passed w w₁) {route : Route}
    (hroute : server.routeOf request = some route)
    (haction : route.action? request.method = none) :
    (server.handle request w).1.status = 405 ∧ w.Beside (server.handle request w).2 := by
  have hfound : server.routeOf passed = some route := by
    rw [← hroute, routeOf, routeOf, h.same.target_eq]
  have heq := route_of_no_action hfound (h.same.method_eq ▸ haction)
  have hafter := h.beside_after
  rw [heq] at hafter
  refine ⟨?_, h.beside.trans hafter⟩
  rw [h.status_eq, heq]
  rfl

/-- A request that is for no route. -/
theorem Passes.unknown (h : server.Passes request passed w w₁)
    (hroute : server.routeOf request = none) :
    (server.handle request w).1.status = 404 ∧
      (server.handle request w).1.body.bytes =
        (if request.method = .head then [] else (ApiError.body "Not found").print) ∧
      w.Beside (server.handle request w).2 := by
  -- The layers hand the same target on, so that no route is found there either.
  have hfound : server.routeOf passed = none := by
    rw [← hroute, routeOf, routeOf, h.same.target_eq]
  obtain ⟨w₂, hanswer, hbeside⟩ := (ApiError.notFound "Not found").answer_eq w₁
  rw [← route_of_none hfound] at hanswer
  have hafter := h.beside_after
  rw [hanswer] at hafter
  refine ⟨?_, ?_, h.beside.trans (hbeside.trans hafter)⟩
  · rw [h.status_eq, hanswer]
    rfl
  · by_cases hhead : request.method = .head
    · rw [if_pos hhead, bytes_of_head hhead]
    · rw [if_neg hhead, h.bytes_eq hhead, hanswer]
      exact Body.bytes_full _

end Passes

/-- How a request finds its way. Nothing is said of `OPTIONS` with a body that the trace cannot
    read. -/
structure Routes (server : Server) (request : Request) (w : World) : Prop where
  /-- The route is the one whose path the request has, letter by letter, if the method does
      something on it. -/
  target : ∀ route action,
    server.target? request = some (route, action) ↔ request.GoesTo route action
  /-- There is no other route with this path. -/
  unique : ∀ route route', request.IsFor route → request.IsFor route' → route = route'
  /-- No path of a route ends with a slash. -/
  noSlashAtEnd : ∀ route, request.IsFor route → request.target.path.toList.getLast? ≠ some '/'
  /-- Only the path of the messages of no session has two slashes in a row. -/
  noDoubleSlash : ∀ route, request.IsFor route → ['/', '/'] <:+: request.target.path.toList →
    route = .sessionMessages []
  /-- A request that goes to a route is dispatched there. -/
  dispatched : Trace.isReadable request.headers request.body = true → request.method ≠ .options →
    ∀ route action, request.GoesTo route action →
      ∃ passed w₁, server.Passes request passed w w₁ ∧
        server.route passed = server.dispatch route action passed
  /-- A method that does nothing on a route is answered with 405, and nothing is done. -/
  refused : Trace.isReadable request.headers request.body = true → request.method ≠ .options →
    ∀ route, request.IsFor route → (∀ action, ¬route.Registers request.method action) →
      (server.handle request w).1.status = 405 ∧ w.Beside (server.handle request w).2
  /-- A path of no route is answered with 404, and nothing is done. -/
  unknown : Trace.isReadable request.headers request.body = true → request.method ≠ .options →
    (∀ route, ¬request.IsFor route) →
      (server.handle request w).1.status = 404 ∧
        (server.handle request w).1.body.bytes =
          (if request.method = .head then [] else (ApiError.body "Not found").print) ∧
        w.Beside (server.handle request w).2
  /-- `OPTIONS` is answered before the routes, whatever the path. -/
  options : Trace.isReadable request.headers request.body = true → request.method = .options →
    (server.handle request w).1.status = 200 ∧ (server.handle request w).1.body.bytes = []
  /-- With any other method, a request that the trace cannot read is answered with 400 and not
      dispatched. -/
  unreadable : Trace.isReadable request.headers request.body = false →
    request.method ≠ .options →
      (server.handle request w).1.status = 400 ∧ w.Beside (server.handle request w).2

/-- **Routing.** Without the pages about the API, every request finds its way by its path, letter by
    letter, and its method. -/
theorem handle_routes (pages : server.config.enableSwagger = false) (request : Request)
    (w : World) : server.Routes request w where
  target _ _ := target?_eq_some_iff pages
  unique route route' hfor hfor' := by
    have hroute := (routeOf_eq_some_iff pages).mpr hfor
    rw [(routeOf_eq_some_iff pages).mpr hfor'] at hroute
    exact (Option.some.inj hroute).symm
  noSlashAtEnd := by
    rintro route ⟨hserved, hpath⟩
    rw [hpath]
    exact hserved.noSlashAtEnd
  noDoubleSlash := by
    rintro route ⟨hserved, hpath⟩
    rw [hpath]
    exact hserved.noDoubleSlash
  dispatched readable hoptions route action hgoes := by
    obtain ⟨passed, w₁, hpasses⟩ := server.exists_passes readable hoptions w
    exact ⟨passed, w₁, hpasses, route_of_goesTo (hgoes.of_same hpasses.same)⟩
  refused readable hoptions route hfor hmethod := by
    obtain ⟨passed, w₁, hpasses⟩ := server.exists_passes readable hoptions w
    -- The route has no handler for the method.
    refine hpasses.refused ((routeOf_eq_some_iff pages).mpr hfor) ?_
    rw [Option.eq_none_iff_forall_ne_some]
    intro action haction
    exact hmethod action (Route.action?_eq_some_iff.mp haction)
  unknown readable hoptions hnone := by
    obtain ⟨passed, w₁, hpasses⟩ := server.exists_passes readable hoptions w
    -- No route is found, or the request would be for it.
    refine hpasses.unknown ?_
    rw [Option.eq_none_iff_forall_ne_some]
    intro route hroute
    exact hnone route ((routeOf_eq_some_iff pages).mp hroute)
  options readable hoptions := by
    obtain ⟨hstatus, hbytes, -⟩ := server.handle_of_options readable hoptions w
    exact ⟨hstatus, hbytes⟩
  unreadable hunreadable _ := server.handle_of_not_readable hunreadable w

/-- The small server without the pages about the API. -/
def samplePlain : Server :=
  { sample with config := { Config.standard with enableSwagger := false } }

/-- A method that is not known on a route, and a slash behind a path. -/
theorem handle_routes_samplePlain :
    samplePlain.config.enableSwagger = false ∧
      (samplePlain.handle ⟨.other "PUT", ⟨"/health"⟩, [], .empty⟩
        samplePlain.initial).1.status = 405 ∧
      (samplePlain.handle ⟨.get, ⟨"/health/"⟩, [], .empty⟩ samplePlain.initial).1.status = 404 := by
  have readable : Trace.isReadable [] Body.empty = true := by decide
  refine ⟨rfl, ?_, ?_⟩
  · have hroutes := @handle_routes samplePlain rfl ⟨.other "PUT", ⟨"/health"⟩, [], .empty⟩
      samplePlain.initial
    refine (hroutes.refused readable (by simp) .health ⟨trivial, rfl⟩ fun action => ?_).1
    cases action <;> simp [Route.Registers]
  · have hroutes := @handle_routes samplePlain rfl ⟨.get, ⟨"/health/"⟩, [], .empty⟩
      samplePlain.initial
    refine (hroutes.unknown readable (by simp) fun route hfor => ?_).1
    exact hroutes.noSlashAtEnd route hfor (by decide)

/-- **An empty segment, and a body that breaks.** The first request is for no route but that of the
    messages of no session. Yet it is dispatched, and not answered as one with an unknown path. The
    second one has an unknown path and is not answered so either. -/
theorem handle_empty_segment :
    let empty : Request := ⟨.get, ⟨"/api/v1/chat/sessions//messages"⟩, [], .empty⟩
    let broken : Request := ⟨.post, ⟨"/nope"⟩,
      [("content-type", Utf8.bytes "application/json")], ⟨[[0x7B]], some 5, true⟩⟩
    samplePlain.config.enableSwagger = false ∧
      (∀ route, empty.IsFor route → route = .sessionMessages []) ∧
      samplePlain.target? empty = some (.sessionMessages [], .read) ∧
      (samplePlain.handle empty samplePlain.initial).1.body.bytes =
        (ApiError.body "Session not found").print ∧
      (ApiError.body "Session not found").print ≠ (ApiError.body "Not found").print ∧
      (∀ route, ¬broken.IsFor route) ∧
      (samplePlain.handle broken samplePlain.initial).1.status = 400 := by
  dsimp only
  refine ⟨rfl, fun route hfor => ?_, by decide +kernel, by decide +kernel, by decide +kernel,
    fun route hfor => ?_, by decide +kernel⟩
  · -- Both paths are looked up: the first has this route, and the second has none.
    have hroute := (@routeOf_eq_some_iff samplePlain rfl
      ⟨.get, ⟨"/api/v1/chat/sessions//messages"⟩, [], .empty⟩ route).mpr hfor
    exact (Option.some.inj hroute).symm
  · have hroute := (@routeOf_eq_some_iff samplePlain rfl
      ⟨.post, ⟨"/nope"⟩, [("content-type", Utf8.bytes "application/json")],
        ⟨[[0x7B]], some 5, true⟩⟩ route).mpr hfor
    cases hroute

end Server

end DialogStub
