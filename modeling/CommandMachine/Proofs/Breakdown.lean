import CommandMachine.Proofs.Protocol
import CommandMachine.Proofs.Traffic
namespace CommandMachine

/-!
# What a machine can bear

An engine breaks down in a step that asks for a wait or for a page beyond what the machine
can bear.  Waits are fixed by the settings, and the size of pages by the memory, which no
instruction changes.  So whether an engine can break down at all is known before it starts.
What engines ask of each other and of the backend is never too much.
-/

/-- The machine can bear the waits of the settings and pages of the given size. -/
structure Settings.Bearable (settings : Settings) (pageSize : Nat) : Prop where
  pause : settings.pause ≤ settings.machine.longestWait
  backoff : settings.ping.backoff ≤ settings.machine.longestWait
  page : pageSize ≤ settings.machine.largestPage

namespace Engine

variable {engine : Engine} {context : Context}

theorem breakdown?_of_bearable (bearable : context.settings.Bearable engine.stores.memory.pageSize)
    (stopRequested : Bool) : engine.breakdown? context stopRequested = none := by
  have pause := Nat.not_lt.mpr bearable.pause
  have backoff := Nat.not_lt.mpr bearable.backoff
  have stores : engine.wake.tick.stores = engine.stores := engine.wake_stores
  have page := Nat.not_lt.mpr bearable.page
  unfold breakdown?
  split
  · rename_i op instruction _
    refine if_neg ?_
    cases op with
    | pause => simpa [overtaxes] using pause
    | ping => simp [overtaxes, backoff]
    | alloc => simp [overtaxes, stores, page]
    | _ => exact Bool.false_ne_true
  · rfl

/-- No instruction changes the size of pages. -/
theorem pageSize_step (engine : Engine) (context : Context) {surroundings : Surroundings}
    (honest : surroundings.Honest) :
    (engine.step context surroundings).1.stores.memory.pageSize =
      engine.stores.memory.pageSize := by
  rw [(engine.step_trades context honest).memory]
  cases engine.memoryRequest? context surroundings.stopRequested with
  | none => rfl
  | some request => exact (engine.stores.memory.served_serve request).pageSize_eq

/-- What engines ask of others is no burden to the machine. -/
theorem breakdown?_of_request? {stopRequested : Bool} {request : Request}
    (asked : engine.request? context stopRequested = some request) :
    engine.breakdown? context stopRequested = none := by
  unfold request? at asked
  unfold breakdown?
  cases fetched : engine.fetch context stopRequested with
  | operation op instruction =>
      rw [fetched] at asked
      cases op with
      | infer => rfl
      | thread => rfl
      | join => rfl
      | _ => cases asked
  | _ => rfl

/-- An engine that breaks down has shown nothing that the step would not have shown. -/
theorem events_of_breakdown? {surroundings : Surroundings} {reports : List Report}
    (broken : engine.breakdown? context surroundings.stopRequested = some reports) {event : Event}
    (shown : event ∈ Report.events reports) :
    event ∈ Report.events (engine.step context surroundings).2 := by
  unfold breakdown? at broken
  unfold step
  cases fetched : engine.fetch context surroundings.stopRequested with
  | operation op instruction =>
      rw [fetched] at broken
      dsimp only at broken ⊢
      split at broken
      · cases broken
        rw [Report.events_append, events_announcement, List.nil_append] at shown
        split at shown
        · rename_i check
          subst check
          rw [Report.events_append, Report.events_append]
          exact List.mem_append_left _ (List.mem_append_right _ shown)
        · cases shown
      · cases broken
  | _ =>
      rw [fetched] at broken
      cases broken

end Engine
end CommandMachine
