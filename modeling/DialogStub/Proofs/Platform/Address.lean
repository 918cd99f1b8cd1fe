import DialogStub.Proofs.Api.Agreement
import DialogStub.Proofs.Platform.Client

/-!
# Addresses on the platform

How the address of a platform and a path make one address, with slashes at the joint or without.

* `Platform.slashes` — a text of slashes;
* `Client.exists_leading`, `Client.exists_trailing` — a text is slashes before, or behind, a text
  that has none there;
* `Client.ofAddress_slashes`, `Client.address_slashes` — slashes at the joint do not count;
* `Client.exists_joint` — what an address is made of;
* `Client.joins` — all of this, and two servers whose platforms are told with more slashes or fewer.

The base and the path may be empty, or slashes alone. What stands away from the joint is kept as it
is, slashes as well.
-/

namespace DialogStub

open Http

namespace Platform

/-- A text of slashes. -/
def slashes (n : Nat) : String :=
  String.ofList (List.replicate n '/')

theorem toList_slashes (n : Nat) : (slashes n).toList = List.replicate n '/' :=
  String.toList_ofList

namespace Client

/-! ### Slashes at an end -/

/-- What follows the slashes at the start of a text. -/
theorem dropSlashes_append (n : Nat) (cs : List Char) :
    (List.replicate n '/' ++ cs).dropWhile (· = '/') = cs.dropWhile (· = '/') :=
  List.dropWhile_append_of_pos fun c hc => by simp [(List.mem_replicate.mp hc).2]

/-- A text begins with slashes, and what follows them does not. By induction on the text. -/
theorem exists_leading (cs : List Char) :
    ∃ n, cs = List.replicate n '/' ++ cs.dropWhile (· = '/') ∧
      (cs.dropWhile (· = '/')).head? ≠ some '/' := by
  induction cs with
  | nil => exact ⟨0, rfl, by simp⟩
  | cons c cs ih =>
    by_cases hc : c = '/'
    · subst hc
      obtain ⟨n, hsplit, hhead⟩ := ih
      rw [List.dropWhile_cons_of_pos (by simp)]
      refine ⟨n + 1, ?_, hhead⟩
      rw [List.replicate_succ, List.cons_append, ← hsplit]
    · rw [List.dropWhile_cons_of_neg (by simpa using hc)]
      exact ⟨0, rfl, by simpa using hc⟩

/-- A text ends in slashes, and what stands before them does not. -/
theorem exists_trailing (cs : List Char) :
    ∃ n, cs = withoutSlashes cs ++ List.replicate n '/' ∧
      (withoutSlashes cs).getLast? ≠ some '/' := by
  obtain ⟨n, hsplit, hhead⟩ := exists_leading cs.reverse
  refine ⟨n, ?_, ?_⟩
  · rw [withoutSlashes, ← List.reverse_replicate, ← List.reverse_append, ← hsplit,
      List.reverse_reverse]
  · rw [withoutSlashes, List.getLast?_reverse]
    exact hhead

/-! ### Addresses -/

/-- **The client is the same**, whatever number of slashes ends the address of the platform. -/
theorem ofAddress_slashes (platform : Platform) (base : String) (n : Nat) :
    ofAddress platform (base ++ slashes n) = ofAddress platform base := by
  rw [ofAddress, ofAddress, String.toList_append, toList_slashes, withoutSlashes_append_slashes]

/-- Slashes at the start of a path do not count. -/
theorem address_slashes (client : Client) (n : Nat) (path : String) :
    client.address (slashes n ++ path) = client.address path := by
  rw [address, address, String.toList_append, toList_slashes, dropSlashes_append]

/-- **An address** is what stands before the slashes of the base, one slash, and what follows the
    slashes of the path. -/
theorem exists_joint (platform : Platform) (base path : String) :
    ∃ front m n back, base = front ++ slashes m ∧ path = slashes n ++ back ∧
      front.toList.getLast? ≠ some '/' ∧ back.toList.head? ≠ some '/' ∧
      (ofAddress platform base).address path = front ++ "/" ++ back := by
  obtain ⟨m, hbase, hlast⟩ := exists_trailing base.toList
  obtain ⟨n, hpath, hhead⟩ := exists_leading path.toList
  let front := String.ofList (withoutSlashes base.toList)
  let back := String.ofList (path.toList.dropWhile (· = '/'))
  have hfront : front.toList = withoutSlashes base.toList := String.toList_ofList
  have hback : back.toList = path.toList.dropWhile (· = '/') := String.toList_ofList
  refine ⟨front, m, n, back, ?_, ?_, hfront ▸ hlast, hback ▸ hhead, ?_⟩
  · rw [← String.toList_inj, String.toList_append, toList_slashes, hfront]
    exact hbase
  · rw [← String.toList_inj, String.toList_append, toList_slashes, hback]
    exact hpath
  · -- The client drops the slashes of both texts and puts one between them.
    rw [← String.toList_inj, String.toList_append, String.toList_append, hfront, hback, address,
      ofAddress, String.toList_ofList, List.append_assoc]
    rfl

end Client

end Platform

/-! ### Servers -/

namespace Server

/-- The setting for the address of the platform is looked at for the client alone. So a server
    agrees with one that is told the address with more slashes behind it, or with fewer. -/
theorem agrees_of_slashes {config : Config} {base : String} {k k' : Nat} {fixtures : Fixtures}
    {platform : Platform} {supply : Supply} {server server' : Server}
    (h : start? { config with platformUrl := base ++ Platform.slashes k } fixtures platform supply
      = .ok server)
    (h' : start? { config with platformUrl := base ++ Platform.slashes k' } fixtures platform supply
      = .ok server') :
    server.AgreesFrom 0 server' ∧ server'.initial = server.initial := by
  obtain ⟨policy, hpolicy, rfl⟩ := exists_of_start? h
  obtain ⟨policy', hpolicy', rfl⟩ := exists_of_start? h'
  -- Both servers have started, so the policy was read from the same setting.
  obtain rfl : policy' = policy := Except.ok.inj (hpolicy'.symm.trans hpolicy)
  have hclient : Platform.Client.ofAddress platform (base ++ Platform.slashes k') =
      Platform.Client.ofAddress platform (base ++ Platform.slashes k) := by
    rw [Platform.Client.ofAddress_slashes, Platform.Client.ofAddress_slashes]
  exact ⟨{ AgreesFrom.refl 0 _ with client := hclient }, rfl⟩

end Server

open Platform

/-- **Slashes at the joint do not count.** The address of a path is the same however many slashes
    are put behind the base and before the path. It is the base without the slashes at its end, one
    slash, and the path without the slashes at its start.

    So of two servers that are told the same address of a platform, up to slashes at its end, both
    start or neither does. They begin in the same world, and any requests get the same answers from
    both and lead to the same calls to the platform. -/
theorem Platform.Client.joins (platform : Platform) (base : String) :
    (∀ path k j, (ofAddress platform (base ++ slashes k)).address (slashes j ++ path) =
      (ofAddress platform base).address path) ∧
    (∀ path, ∃ front m n back, base = front ++ slashes m ∧ path = slashes n ++ back ∧
      front.toList.getLast? ≠ some '/' ∧ back.toList.head? ≠ some '/' ∧
      (ofAddress platform base).address path = front ++ "/" ++ back) ∧
    ∀ k k' (config : Config) fixtures supply,
      let start n :=
        Server.start? { config with platformUrl := base ++ slashes n } fixtures platform supply
      (∀ message, start k' = .error message ↔ start k = .error message) ∧
      ∀ server server', start k = .ok server → start k' = .ok server' →
        server'.initial = server.initial ∧
        ∀ requests w, server'.run requests w = server.run requests w := by
  refine ⟨fun path k j => ?_, exists_joint platform base, fun k k' config fixtures supply => ?_⟩
  · rw [address_slashes, ofAddress_slashes]
  · intro start
    refine ⟨fun message => ?_, fun server server' h h' => ?_⟩
    · -- Whether there is a server depends on the setting for origins.
      simp only [start, Server.start?]
      cases Cors.Policy.ofSetting? config.corsAllowedOrigins <;> simp
    · obtain ⟨hagrees, hinitial⟩ := Server.agrees_of_slashes h h'
      refine ⟨hinitial, fun requests w => ?_⟩
      exact (Server.run_same hagrees requests w (Nat.zero_le _)).1

/-- **Two slashes or none.** The probe for the health of a server goes to the same address. -/
theorem Platform.Client.joins_sample :
    let platform : Platform := fun _ => .answered 503 []
    let start n := Server.start? { Config.standard with platformUrl := "http://p/v1" ++ slashes n }
      Server.sample.fixtures platform .strokes
    let health : Request := ⟨.get, ⟨"/health"⟩, [], .empty⟩
    ∃ server server', start 0 = .ok server ∧ start 2 = .ok server' ∧
      server'.run [health] server'.initial = server.run [health] server.initial ∧
      (server.run [health] server.initial).2.calls.map (fun call => call.url.text) =
        ["http://p/v1/health"] := by
  intro platform start health
  refine ⟨_, _, rfl, rfl, ?_, by decide +kernel⟩
  obtain ⟨-, -, hservers⟩ := joins platform "http://p/v1"
  obtain ⟨hinitial, hrun⟩ :=
    (hservers 0 2 .standard Server.sample.fixtures .strokes).2 _ _ rfl rfl
  rw [hinitial]
  exact hrun [health] _

end DialogStub
