import DialogStub.Platform.Client
import DialogStub.Proofs.Url.Base
import DialogStub.Proofs.World

/-!
# Calls to the platform

* `Client.address_ofAddress` — slashes at the end of the address of a platform do not count;
* `Client.url?` — the address of a path, if it is one of the web;
* `Outcome` — how a call ends: its answer is taken, it is refused, or it is lost;
* `Client.post_eq` — one call is made, and what is made of it depends on how it ends;
* `Client.post_calls`, `Client.post_of_answer`, `Client.post_of_status` — what follows for a call
  to an address of the web.
-/

namespace DialogStub

open Json

/-- The world after one more call. -/
def World.calling (w : World) (call : Call) : World :=
  { w with calls := w.calls ++ [call] }

namespace Platform.Client

/-! ### Addresses -/

/-- Slashes behind an address are left out. -/
theorem withoutSlashes_append_slashes (cs : List Char) (n : Nat) :
    withoutSlashes (cs ++ List.replicate n '/') = withoutSlashes cs := by
  rw [withoutSlashes, withoutSlashes, List.reverse_append, List.reverse_replicate,
    List.dropWhile_append_of_pos (fun c hc => by simp [(List.mem_replicate.mp hc).2])]

/-- Nothing is left out of an address without slashes behind it. -/
theorem withoutSlashes_eq {cs : List Char} (h : cs.getLast? ≠ some '/') :
    withoutSlashes cs = cs := by
  have hback : cs.reverse.dropWhile (· = '/') = cs.reverse :=
    Url.dropWhile_of_head fun c hc => by
      have hne : c ≠ '/' := by
        rintro rfl
        exact h (by simpa using hc)
      simpa using hne
  rw [withoutSlashes, hback, List.reverse_reverse]

/-- **Slashes do not count** at the end of the address of a platform. -/
theorem address_ofAddress (platform : Platform) {base path : String} (n : Nat)
    (hbase : base.toList.getLast? ≠ some '/') (hpath : path.toList.head? ≠ some '/') :
    (ofAddress platform (base ++ String.ofList (List.replicate n '/'))).address path
      = base ++ "/" ++ path := by
  have hfront : path.toList.dropWhile (· = '/') = path.toList :=
    Url.dropWhile_of_head fun c hc => by
      have hne : c ≠ '/' := by
        rintro rfl
        exact hpath hc
      simpa using hne
  rw [address, ofAddress, hfront, String.toList_append, String.toList_ofList,
    withoutSlashes_append_slashes, withoutSlashes_eq hbase, ← String.toList_inj]
  simp [String.toList_append]

/-! ### Calls -/

variable {α : Type} {client : Client} {shape : Shape α} {path : String} {body : Json} {u : Url}
  {w : World}

/-- A call to an address of the web comes to the platform. -/
theorem send_eq (client : Client) (method : String) {address : String} (body : Option Bytes)
    (hurl : Url.parse address = some u) (hweb : u.isWeb = true) :
    client.send method address body w =
      match client.platform (w.calls ++ [⟨method, u, body⟩]) with
      | .failed => (.error (.sending u), w.calling ⟨method, u, body⟩)
      | .answered status bytes => (.ok (u, status, bytes), w.calling ⟨method, u, body⟩) := by
  unfold send
  rw [hurl]
  dsimp only
  rw [if_pos hweb, Effect.bind_apply]
  show (match client.platform (w.calls ++ [⟨method, u, body⟩]) with
    | .failed => _
    | .answered status bytes => _ : Effect _) _ = _
  split
  all_goals
    rename_i hreply
    rw [hreply]
    rfl

/-- A call takes no earlier call back. -/
theorem send_addsCalls (client : Client) (method address : String) (body : Option Bytes) :
    (client.send method address body).AddsCalls := by
  intro w
  -- Without an address of the web no call is made.
  cases hurl : Url.parse address with
  | none =>
    unfold send
    rw [hurl]
    exact List.prefix_refl _
  | some u =>
    by_cases hweb : u.isWeb = true
    · rw [client.send_eq method body hurl hweb]
      split <;> exact List.prefix_append _ _
    · unfold send
      rw [hurl]
      dsimp only
      rw [if_neg hweb]
      exact List.prefix_refl _

end Platform.Client

/-! ### How calls end -/

/-- How a call ends: the answer is taken, or it is refused for its status, or the call is lost,
    since no answer comes or none that can be read. -/
inductive Outcome (α : Type) where
  | taken (answer : α)
  | refused (status : Nat)
  | lost

/-- Whether a call is lost. -/
def Outcome.isLost {α : Type} : Outcome α → Bool
  | .lost => true
  | _ => false

/-- The answer that is taken. -/
def Outcome.answer? {α : Type} : Outcome α → Option α
  | .taken answer => some answer
  | _ => none

/-- What the caller gets for a call to an address; `fault` says why no answer can be read. -/
def Outcome.result {α : Type} (address : String) (fault : CallFault) :
    Outcome α → Except PlatformError α
  | .taken answer => .ok answer
  | .refused status => .error (.status address status)
  | .lost => .error (.request address fault)

/-- How a call ends for which this comes back, if answers have a shape. -/
def Reply.outcome {α : Type} (shape : Shape α) : Reply → Outcome α
  | .failed => .lost
  | .answered status bytes =>
    if status = 200 then
      match shape.ofBytes bytes with
      | .ok answer => .taken answer
      | .error _ => .lost
    else .refused status

/-- The call that posts a value. -/
def Call.post (u : Url) (body : Json) : Call :=
  ⟨"POST", u, some body.print⟩

namespace Platform.Client

variable {α : Type} {client : Client} {path : String} {u : Url}

/-- The address of a path, if it is one of the web. -/
def url? (client : Client) (path : String) : Option Url :=
  (Url.parse (client.address path)).filter Url.isWeb

/-- The paths that a demo calls are below one directory, and so all of them have an address of the
    web or none has. -/
theorem url?_isSome (h : client.url? "chat/sessions" = some u) :
    ∀ path ∈ ["chat/continue", "chat/messages"], (client.url? path).isSome = true := by
  have hweb := Option.filter_eq_some_iff.mp h
  have hbelow (tail : List Char) (hvisible : ∀ c ∈ "chat".toList ++ '/' ::
      ("sessions".toList ++ tail), 0x20 < c.toNat) :=
    Url.isWeb_below client.base ⟨'c', by simp, by decide⟩ hvisible ⟨u, hweb⟩
  intro path hpath
  simp only [List.mem_cons, List.not_mem_nil, or_false] at hpath
  rcases hpath with rfl | rfl
  · obtain ⟨u', hu'⟩ := hbelow "continue".toList (by simp)
    exact Option.isSome_iff_exists.mpr ⟨u', Option.filter_eq_some_iff.mpr hu'⟩
  · obtain ⟨u', hu'⟩ := hbelow "messages".toList (by simp)
    exact Option.isSome_iff_exists.mpr ⟨u', Option.filter_eq_some_iff.mpr hu'⟩

/-- Nothing is called without an address of the web. -/
theorem send_of_no_url (h : client.url? path = none) (method : String) (body : Option Bytes)
    (w : World) : ∃ fault, client.send method (client.address path) body w = (.error fault, w) := by
  have hnone := Option.filter_eq_none_iff.mp h
  unfold send
  cases hparse : Url.parse (client.address path) with
  | none => exact ⟨_, rfl⟩
  | some u =>
    dsimp only
    rw [if_neg (hnone u hparse)]
    exact ⟨_, rfl⟩

/-- Without an address of the web, nothing is sent. -/
theorem post_of_no_url (h : client.url? path = none) (shape : Shape α) (body : Json) (w : World) :
    ∃ fault, client.post shape path body w =
      (.error (.request (client.address path) fault), w) := by
  obtain ⟨fault, hsend⟩ := send_of_no_url h "POST" (some body.print) w
  refine ⟨fault, ?_⟩
  rw [post, Effect.bind_apply, hsend]
  rfl

/-- **Calls.** One call is made, and what is made of it depends on how it ends. -/
theorem post_eq (h : client.url? path = some u) (shape : Shape α) (body : Json) (w : World) :
    ∃ fault, client.post shape path body w =
      (((client.platform (w.calls ++ [.post u body])).outcome shape).result (client.address path)
        fault, w.calling (.post u body)) := by
  obtain ⟨hparse, hweb⟩ := Option.filter_eq_some_iff.mp h
  unfold Call.post
  rw [post, Effect.bind_apply, client.send_eq "POST" (some body.print) hparse hweb]
  -- The platform fails, refuses, or answers with something that is a record or not.
  cases client.platform (w.calls ++ [⟨"POST", u, some body.print⟩]) with
  | failed => exact ⟨.sending u, rfl⟩
  | answered status bytes =>
    refine ⟨.decoding u, ?_⟩
    unfold Reply.outcome
    dsimp only
    by_cases hstatus : status = 200
    · rw [if_pos hstatus, if_pos hstatus]
      cases shape.ofBytes bytes <;> rfl
    · rw [if_neg hstatus, if_neg hstatus]
      rfl

section Web

variable {shape : Shape α} {body : Json} {w : World}

/-- A call is made, whatever comes back. -/
theorem post_calls (hurl : Url.parse (client.address path) = some u) (hweb : u.isWeb = true) :
    (client.post shape path body w).2.calls = w.calls ++ [.post u body] := by
  obtain ⟨fault, hpost⟩ :=
    post_eq (Option.filter_eq_some_iff.mpr ⟨hurl, hweb⟩) shape body w
  rw [hpost]
  rfl

/-- An answer that can be read is read. -/
theorem post_of_answer {bytes : Bytes} {answer : α}
    (hurl : Url.parse (client.address path) = some u) (hweb : u.isWeb = true)
    (hreply : client.platform (w.calls ++ [.post u body]) = .answered 200 bytes)
    (hanswer : shape.ofBytes bytes = .ok answer) :
    client.post shape path body w = (.ok answer, w.calling (.post u body)) := by
  obtain ⟨fault, hpost⟩ :=
    post_eq (Option.filter_eq_some_iff.mpr ⟨hurl, hweb⟩) shape body w
  have houtcome : (client.platform (w.calls ++ [.post u body])).outcome shape = .taken answer := by
    rw [hreply, Reply.outcome, if_pos rfl, hanswer]
  rw [hpost, houtcome]
  rfl

/-- An answer with another status than 200 is not read. -/
theorem post_of_status {status : Nat} {bytes : Bytes}
    (hurl : Url.parse (client.address path) = some u) (hweb : u.isWeb = true)
    (hreply : client.platform (w.calls ++ [.post u body]) = .answered status bytes)
    (hstatus : status ≠ 200) :
    client.post shape path body w =
      (.error (.status (client.address path) status), w.calling (.post u body)) := by
  obtain ⟨fault, hpost⟩ :=
    post_eq (Option.filter_eq_some_iff.mpr ⟨hurl, hweb⟩) shape body w
  have houtcome :
      (client.platform (w.calls ++ [.post u body])).outcome shape = .refused status := by
    rw [hreply, Reply.outcome, if_neg hstatus]
  rw [hpost, houtcome]
  rfl

end Web

end Platform.Client

end DialogStub
