import DialogStub.Chat.Message
import DialogStub.Chat.Scenario
import DialogStub.Chat.Session
import DialogStub.Proofs.Json.Range

/-!
# Sessions, messages and scenarios on the wire

* `Session.writable`, `Message.writable`, `Scenario.writable` — which of them are read back as they
  were written;
* `Session.messageCount_lt_of_inRange` — a session that a text spells counts its messages in
  64 bits;
* `records_roundTrip` — all three are wire formats.

The count of messages is the only part that restricts a value: all texts and all timestamps can be
written, and so can an option that is absent, as `null`.
-/

namespace DialogStub

open Json

/-! ### Records that can be written -/

/-- An optional text can be written at any depth. -/
theorem writable_option_text (depth : Nat) (text : Option String) :
    (Shape.option .text).Writable depth text := by
  cases text with
  | none => exact trivial
  | some s => exact ⟨nofun, trivial⟩

/-- A session is read back if its messages are counted in 64 bits. -/
theorem Session.writable {s : Session} (h : s.messageCount < 0x10000000000000000) (depth : Nat) :
    Session.shape.Writable (depth + 1) s :=
  ⟨by decide, rfl, trivial, rfl, trivial, rfl, trivial, rfl, h, rfl, trivial, rfl,
    writable_option_text depth s.userId, rfl, writable_option_text depth s.scenarioId, trivial⟩

/-- Every message is read back. -/
theorem Message.writable (m : Message) (depth : Nat) : Message.shape.Writable (depth + 1) m :=
  ⟨by decide, rfl, trivial, rfl, trivial, rfl, trivial, rfl, trivial, rfl,
    writable_option_text depth m.intent, rfl, trivial, trivial⟩

/-- Every scenario is read back. -/
theorem Scenario.writable (s : Scenario) (depth : Nat) :
    Scenario.shape.Writable (depth + 2) s :=
  ⟨by decide, rfl, trivial, rfl, trivial, rfl, trivial, rfl, trivial, rfl, fun _ _ => trivial, rfl,
    trivial, rfl, trivial, rfl, trivial, trivial⟩

/-! ### Records that texts spell -/

/-- The count of a session has to be in its text, so that nothing stands for it. -/
theorem Session.messageCount_lt_of_inRange {s : Session} (h : Session.shape.InRange s) :
    s.messageCount < 0x10000000000000000 := by
  obtain ⟨⟨id, status, start, count, last, user, scenario, ⟨⟩⟩, rfl, hparts⟩ := h
  obtain ⟨-, -, -, hcount | hdefault, -⟩ := hparts
  · exact hcount
  · cases hdefault

/-- **Sessions, messages and scenarios on the wire.** Each is read back from the text that is
    written for it, with any texts and at any time. So different ones are written differently, and
    what a text of any other spelling gives is read again from the text that is written for it. -/
theorem records_roundTrip :
    Session.shape.RoundTrips (fun s => s.messageCount < 0x10000000000000000) ∧
      Message.shape.RoundTrips (fun _ => True) ∧ Scenario.shape.RoundTrips (fun _ => True) := by
  refine ⟨.of_writable (fun s hs => ?_) (fun s hs => ?_),
    .of_writable (fun m _ => ?_) (fun _ _ => trivial),
    .of_writable (fun s _ => ?_) (fun _ _ => trivial)⟩
  · exact Session.writable hs 126
  · exact Session.messageCount_lt_of_inRange hs
  · exact Message.writable m 126
  · exact Scenario.writable s 125

/-- A message with a control character, in the leap second at the end of 2016. -/
example : (Message.shape.toJson ⟨"m", "s", .bot, "\u0001\"𝄞", none,
      ⟨24720479, 60, 120000000, by decide, by decide, by decide, by decide⟩⟩).print
    = Utf8.bytes ("\x7b\"id\":\"m\",\"session_id\":\"s\",\"type\":\"bot\",\"content\":" ++
        "\"\\u0001\\\"𝄞\",\"intent\":null,\"timestamp\":\"2016-12-31T23:59:60.120Z\"\x7d") := by
  decide +kernel

end DialogStub
