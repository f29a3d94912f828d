import Recovery.Proofs.Timed.Attempt
import Recovery.Proofs.Timed.Forecast
/-!
# What calls come to

Calls that are seen through end as the script has it for them after the calls made before, whatever
the guards around them. A task that rests only in calls goes on for ever only in one that hangs.
-/
set_option autoImplicit false

namespace Recovery

variable {I : Interface} {α β : Type}

/-! ## Attempts and their script -/

namespace Attempt

theorem Leave.calls {attempts : List (Attempt I)} {marks : List (Mark I)}
    (h : Leave attempts marks) :
    (marks.filterMap Mark.entry?).map Entry.call = attempts.map Attempt.call := by
  induction h with
  | nil => rfl
  | through _ _ c _ _ ih => exact congrArg (c :: ·) ih
  | cut _ c _ ih => exact congrArg (c :: ·) ih

/-- After the calls that were made before, each attempt ended as the script has it, if it was seen
through. -/
inductive Heard (script : Script I) : List I.Call → List (Attempt I) → Prop where
  | nil (past : List I.Call) : Heard script past []
  | through {past : List I.Call} {c : I.Call} {r : Except Fault (I.Reply c)}
      {attempts : List (Attempt I)} :
    (script.answer past c).ending = some r → Heard script (past ++ [c]) attempts →
    Heard script past (⟨c, some r⟩ :: attempts)
  | cut {past : List I.Call} {c : I.Call} {attempts : List (Attempt I)} :
    Heard script (past ++ [c]) attempts → Heard script past (⟨c, none⟩ :: attempts)

theorem Heard.append {script : Script I} {past : List I.Call} {attempts later : List (Attempt I)}
    (h : Heard script past attempts)
    (h' : Heard script (past ++ attempts.map Attempt.call) later) :
    Heard script past (attempts ++ later) := by
  induction h with
  | nil past => rwa [List.map_nil, List.append_nil] at h'
  | through ends _ ih => exact .through ends (ih (by rwa [List.append_assoc]))
  | cut _ ih => exact .cut (ih (by rwa [List.append_assoc]))

end Attempt

theorem World.Makes.calls {script : Script I} {w w' : World I} {attempts : List (Attempt I)}
    (h : w.Makes script attempts w') :
    w'.log.map Entry.call = w.log.map Entry.call ++ attempts.map Attempt.call := by
  obtain ⟨added, adds, leave⟩ := h
  rw [World.log, adds.marks, List.filterMap_append, List.map_append, leave.calls]
  rfl

/-! ## Tasks -/

/-- The step that a world has come to makes these attempts and hears what the script has for them;
it never ends only if the last of them hangs. -/
structure Step.Hears (script : Script I) (w : World I) (attempts : List (Attempt I))
    (step : Step I α) : Prop where
  makes : w.Makes script attempts step.world
  heard : Attempt.Heard script (w.log.map Entry.call) attempts
  hangs : ∀ {v : World I}, step = .endless v → ∃ before c, attempts = before ++ [⟨c, none⟩] ∧
    (script.answer (w.log.map Entry.call ++ before.map Attempt.call) c).hangs = true

namespace Task

def Hears (task : Task I α) : Prop :=
  ∀ (script : Script I) (guards : List Guard) (w : World I),
    ∃ attempts, (task script guards w).Hears script w attempts

theorem hears_pure (a : α) : (pure a : Task I α).Hears :=
  fun _ _ w => ⟨[], .refl w, .nil _, nofun⟩

theorem hears_call (c : I.Call) : (call c).Hears := by
  intro script guards w
  have foretold : (Saga.call c).Foretold id script (w.log.map Entry.call) _ _ _ :=
    Saga.foretold_call c
  have meets := (foretold.keeps guards w rfl).meets
  change (call c script guards w).Meets _ _ _ _ at meets
  cases ended : call c script guards w with
  | done r v =>
    rw [ended] at meets
    obtain ⟨ends, -⟩ := meets
    exact ⟨[⟨c, some r⟩], call_makes ended, .through ends (.nil _), nofun⟩
  | interrupted outside why v =>
    exact ⟨[⟨c, none⟩], call_makes_cut ended, .cut (.nil _), nofun⟩
  | endless v =>
    rw [ended] at meets
    obtain _ | ⟨never, -⟩ := meets
    refine ⟨[⟨c, none⟩], call_makes_endless ended, .cut (.nil _), fun _ => ⟨[], c, rfl, ?_⟩⟩
    rw [Outcome.ending] at never
    split at never
    · rename_i hangs
      rwa [List.map_nil, List.append_nil]
    · cases never

theorem Hears.bind {task : Task I α} {next : α → Task I β} (h : task.Hears)
    (h' : ∀ a, (next a).Hears) : (task >>= next).Hears := by
  intro script guards w
  obtain ⟨first, hears⟩ := h script guards w
  rw [bind_run]
  cases ended : task script guards w with
  | done a v =>
    rw [ended] at hears
    obtain ⟨later, hears'⟩ := h' a script guards v
    have calls : v.log.map Entry.call = _ := hears.makes.calls
    refine ⟨first ++ later, hears.makes.trans hears'.makes, ?_, fun endless => ?_⟩
    · exact hears.heard.append (calls ▸ hears'.heard)
    · obtain ⟨before, c, rfl, hangs⟩ := hears'.hangs endless
      refine ⟨first ++ before, c, (List.append_assoc ..).symm, ?_⟩
      rwa [List.map_append, ← List.append_assoc, ← calls]
  | interrupted outside why v =>
    rw [ended] at hears
    exact ⟨first, hears.makes, hears.heard, nofun⟩
  | endless v =>
    rw [ended] at hears
    exact ⟨first, hears.makes, hears.heard, fun _ => hears.hangs rfl⟩

theorem Hears.map {task : Task I α} (h : task.Hears) (f : α → β) : (f <$> task).Hears := by
  rw [map_eq_pure_bind]
  exact h.bind fun _ => hears_pure _

theorem Hears.within {task : Task I α} (h : task.Hears) (g : Guard) :
    (Task.within g task).Hears := by
  intro script guards w
  obtain ⟨attempts, hears⟩ := h script (g :: guards) w
  refine ⟨attempts, ?_, hears.heard, fun endless => hears.hangs (within_endless.mp endless)⟩
  rw [within_world]
  exact hears.makes

end Task

end Recovery
