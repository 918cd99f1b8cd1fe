import DialogStub.Fixtures.Basic
import DialogStub.Proofs.Chat.Records

/-!
# Fixtures that are loaded again

* `Session.restores_list`, `Scenario.restores_list` — sessions and scenarios of a document are read
  back as they were written;
* `Fixtures.load_eq_ok_iff` — what it means that a file is loaded;
* `Fixtures.ofBytes_putsIn_sessions`, `Fixtures.ofBytes_putsIn_scenarios` — a document with other
  sessions, or other scenarios, is read with these.
-/

namespace DialogStub

open Json

/-! ### Sessions and scenarios -/

/-- Sessions that are all counted in 64 bits. -/
theorem Session.restores_list {sessions : List Session}
    (h : ∀ s ∈ sessions, s.messageCount < 0x10000000000000000) :
    (Shape.list Session.shape).Restores 126 sessions :=
  Shape.restores _ _ fun s hs => Session.writable (h s hs) 124

theorem Scenario.restores_list (scenarios : List Scenario) :
    (Shape.list Scenario.shape).Restores 126 scenarios :=
  Shape.restores _ _ fun s _ => Scenario.writable s 123

/-! ### Documents -/

namespace Fixtures

variable {files : Files} {path : String} {document : Bytes} {fixtures : Fixtures}

/-- A file is loaded if it is well-formed and a document of fixtures. -/
theorem load_eq_ok_iff (hfile : files path = .ok document) :
    load files (some path) = .ok fixtures ↔
      Utf8.Valid document ∧ ofBytes document = .ok fixtures := by
  unfold load
  dsimp only
  rw [hfile]
  dsimp only
  constructor
  · -- The file was decoded, and the document was read.
    intro h
    split at h
    · cases h
    rename_i cs hdecode
    split at h
    · cases h
    rename_i found hread
    cases h
    exact ⟨⟨cs, hdecode⟩, hread⟩
  · rintro ⟨⟨cs, hdecode⟩, hread⟩
    rw [hdecode]
    dsimp only
    rw [hread]

/-- A document with other sessions. -/
theorem ofBytes_putsIn_sessions {bs bs' text : Bytes} {sessions : List Session}
    (hread : ofBytes bs = .ok fixtures) (h : PutsIn "sessions" text bs bs')
    (hspells : Spells (fun fuel => (Shape.list Session.shape).read fuel 126) text sessions) :
    ofBytes bs' = .ok { fixtures with sessions := sessions } := by
  refine h.ofBytes hread ?_
  rintro ⟨old, rest⟩ rfl
  exact ⟨(sessions, rest), .here rfl hspells, rfl⟩

/-- A document with other scenarios. -/
theorem ofBytes_putsIn_scenarios {bs bs' text : Bytes} {scenarios : List Scenario}
    (hread : ofBytes bs = .ok fixtures) (h : PutsIn "scenarios" text bs bs')
    (hspells : Spells (fun fuel => (Shape.list Scenario.shape).read fuel 126) text scenarios) :
    ofBytes bs' = .ok { fixtures with scenarios := scenarios } := by
  refine h.ofBytes hread ?_
  rintro ⟨sessions, old, rest⟩ rfl
  exact ⟨(sessions, scenarios, rest), .there (by decide) (.here rfl hspells), rfl⟩

end Fixtures

end DialogStub
