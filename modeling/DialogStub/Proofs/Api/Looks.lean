import DialogStub.Proofs.Http.TraceLog
import DialogStub.Proofs.Platform.Client

/-!
# Effects that only look

* `Effect.Looks` — an effect that is made of looks at the store, fresh values, reports and calls;
* `Effect.Looks.keepsStore` — it leaves the store alone;
* `Effect.Looks.reports` — it never reads the log, and neither opens nor closes a request in it;
* `Effect.Looks.addsCalls` — it takes no call back.

What such effects do is proved by one induction, with a case for each of its parts, and so without
the text of any handler.
-/

namespace DialogStub

open Http

/-- An effect that looks at the store, draws fresh values, reports inner events and calls the
    platform, and does nothing else. -/
inductive Effect.Looks : {α : Type} → Effect α → Prop where
  | pure {α : Type} (a : α) : Looks (Pure.pure a)
  | bind {α β : Type} {f : Effect α} {g : α → Effect β} (first : Looks f)
      (second : ∀ a, Looks (g a)) : Looks (f >>= g)
  | report (level : Level) {text : String} (fields : List (String × String))
      (inner : text ∉ Trace.borders) : Looks (Effect.report level text fields)
  | draw {α : Type} (values : Nat → α) : Looks (Effect.draw values)
  | ofStore {α : Type} (f : Store → α) : Looks (Effect.ofStore f)
  | send (client : Platform.Client) (method address : String) (body : Option Bytes) :
      Looks (client.send method address body)

namespace Platform.Client

variable (client : Client) (method address : String) (body : Option Bytes)

/-- A call goes to the platform, and the store has no part in it. -/
theorem send_keepsStore : (client.send method address body).KeepsStore := by
  unfold send
  split
  · exact .pure _
  · split
    · -- The world gets one call more, and is then looked at for all of them.
      refine .bind (fun _ => ⟨rfl, Nat.le_refl _⟩) fun _ => .bind (fun w => .refl w) ?_
      intro w
      split <;> exact .pure _
    · exact .pure _

/-- A call says nothing in the log, and does not depend on it. -/
theorem send_reports : (client.send method address body).Reports := by
  unfold send
  split
  · exact .pure _
  · split
    · -- The platform looks at the calls, and at nothing else of the world.
      refine .bind (.of_silent (fun _ _ => rfl) fun _ => Nat.le_refl _) fun _ => ?_
      refine .get_bind (fun _ _ => rfl) fun w => ?_
      cases client.platform w.calls <;> exact .pure _
    · exact .pure _

end Platform.Client

namespace Effect.Looks

variable {α : Type} {f : Effect α}

/-- The time in milliseconds is a fresh value. -/
theorem nowMillis (supply : Supply) : (Effect.nowMillis supply).Looks :=
  .bind (.draw _) fun _ => .pure _

/-- So is the time in seconds. -/
theorem nowSeconds (supply : Supply) : (Effect.nowSeconds supply).Looks :=
  .bind (.draw _) fun _ => .pure _

/-- **The store is left alone** by all that only looks. -/
theorem keepsStore (h : f.Looks) : f.KeepsStore := by
  induction h with
  | pure a => exact .pure a
  -- What comes second depends on what the first one gave, so that this is about every value.
  | bind _ _ ihf ihg => exact .bind ihf ihg
  | report level fields => exact .report level _ fields
  | draw values => exact .draw values
  | ofStore f => exact .ofStore f
  | send client method address body => exact client.send_keepsStore method address body

/-- **The log is not read**, and no request is opened or closed in it. -/
theorem reports (h : f.Looks) : f.Reports := by
  induction h with
  | pure a => exact .pure a
  | bind _ _ ihf ihg => exact .bind ihf ihg
  | report level fields inner => exact .report inner
  | draw values => exact .draw values
  | ofStore f => exact .ofStore f
  | send client method address body => exact client.send_reports method address body

/-- **No call is taken back.** -/
theorem addsCalls (h : f.Looks) : f.AddsCalls := by
  induction h with
  | pure a => exact .pure a
  | bind _ _ ihf ihg => exact .bind ihf ihg
  | report level fields => exact .report level _ fields
  | draw values => exact .draw values
  | ofStore f => exact .ofStore f
  | send client method address body => exact client.send_addsCalls method address body

end Effect.Looks

end DialogStub
