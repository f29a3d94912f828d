import Recovery.Proofs.Timed.Cleanup
import Recovery.Proofs.Timed.Deadline
/-!
# How long a task may last

A cleanup that has a time of its own lasts no longer than that, whatever it does, since everything
within waits under the one deadline; cleanups that are run one after another last no longer than
their times come to. So what is followed by cleanups only is over soon.
-/
set_option autoImplicit false

namespace Recovery

variable {I : Interface} {α β : Type}

/-- It is over by this instant, done or ended by one of the guards around it. -/
inductive Step.EndsBy (guards : List Guard) (instant : Nat) : Step I α → Prop where
  | done {a : α} {w : World I} : w.clock.now ≤ instant → EndsBy guards instant (.done a w)
  | interrupted {outside : Nat} {why : Interrupt} {w : World I} :
    outside < guards.length → w.clock.now ≤ instant →
    EndsBy guards instant (.interrupted outside why w)

namespace Step.EndsBy

variable {guards : List Guard} {instant : Nat} {step : Step I α}

theorem mono {later : Nat} (h : step.EndsBy guards instant) (le : instant ≤ later) :
    step.EndsBy guards later := by
  cases h with
  | done now => exact .done (Nat.le_trans now le)
  | interrupted guarded now => exact .interrupted guarded (Nat.le_trans now le)

/-- Without guards it is done. -/
theorem unguarded (h : step.EndsBy [] instant) :
    ∃ a w, step = .done a w ∧ w.clock.now ≤ instant := by
  cases h with
  | done now => exact ⟨_, _, rfl, now⟩
  | interrupted guarded _ => exact absurd guarded (Nat.not_lt_zero _)

theorem bind {task : Task I α} {next : α → Task I β} {script : Script I} {w : World I}
    (h : (task script guards w).EndsBy guards instant)
    (h' : ∀ a v, v.clock.now ≤ instant → (next a script guards v).EndsBy guards instant) :
    ((task >>= next) script guards w).EndsBy guards instant := by
  rw [Task.bind_run]
  cases ended : task script guards w with
  | done a v =>
    rw [ended] at h
    cases h with
    | done now => exact h' a v now
  | interrupted outside why v =>
    rw [ended] at h
    cases h with
    | interrupted guarded now => exact .interrupted guarded now
  | endless v =>
    rw [ended] at h
    cases h

end Step.EndsBy

namespace Task

/-- Wherever it is begun, the task is over after this time. -/
def Lasts (task : Task I α) (limit : Nat) : Prop :=
  ∀ (script : Script I) (guards : List Guard) (w : World I),
    (task script guards w).EndsBy guards (w.clock.now + limit)

namespace Lasts

variable {task : Task I α} {limit : Nat}

theorem of_immediate (h : Immediate task) : Lasts task 0 := by
  intro script guards w
  obtain ⟨a, v, done, now⟩ := h script guards w
  rw [done]
  exact .done (Nat.le_of_eq now)

theorem pure (a : α) : Lasts (Pure.pure a : Task I α) 0 := of_immediate (.pure a)

theorem mono {longer : Nat} (h : Lasts task limit) (le : limit ≤ longer) : Lasts task longer :=
  fun script guards w => (h script guards w).mono (Nat.add_le_add_left le _)

theorem bind {next : α → Task I β} {more : Nat} (h : Lasts task limit)
    (h' : ∀ a, Lasts (next a) more) : Lasts (task >>= next) (limit + more) := by
  intro script guards w
  rw [Task.bind_run]
  have first := h script guards w
  cases ended : task script guards w with
  | done a v =>
    rw [ended] at first
    cases first with
    | done now => exact (h' a script guards v).mono (by omega)
  | interrupted outside why v =>
    rw [ended] at first
    cases first with
    | interrupted guarded now => exact .interrupted guarded (by omega)
  | endless v =>
    rw [ended] at first
    cases first

theorem map (f : α → β) (h : Lasts task limit) : Lasts (f <$> task) limit := by
  rw [map_eq_pure_bind]
  exact h.bind fun a => .pure (f a)

end Lasts

/-- Under a guard of its own a task is over by the deadline of that. -/
theorem Heeds.within_endsBy {task : Task I α} (h : Heeds task) {g : Guard} {deadline : Nat}
    (timed : g.deadline = some deadline) (script : Script I) (guards : List Guard) (w : World I) :
    (Task.within g task script guards w).EndsBy guards (max w.clock.now deadline) := by
  have now := h.by_deadline script w (List.mem_cons_self (a := g) (l := guards)) timed
  rw [← within_world] at now
  cases ended : Task.within g task script guards w with
  | done r v =>
    rw [ended] at now
    exact .done now
  | interrupted outside why v =>
    rw [ended] at now
    exact .interrupted ((h.within g).guarded ended) now
  | endless v => exact absurd (within_endless.mp ended) (h.ends List.mem_cons_self timed)

end Task

/-- A scope with a deadline is left by then. -/
theorem Scope.run_endsBy {s : Scope} (what : String) {operation : Saga I α} {deadline : Nat}
    (h : operation.run.Heeds) (timed : s.deadline = some deadline) (script : Script I)
    (guards : List Guard) (w : World I) :
    ((s.run what operation).run script guards w).EndsBy guards (max w.clock.now deadline) := by
  cases cancelled : s.isCancelled w.clock with
  | true =>
    rw [run_of_cancelled cancelled]
    exact .done (Nat.le_max_left ..)
  | false =>
    rw [run_of_open cancelled]
    refine (h.within_endsBy (g := s.guard) timed script guards w).bind fun ended v now => ?_
    cases ended <;> exact .done now

namespace Cleanup

/-- It has this much time of its own, and what it does then heeds its guards. -/
structure Bounded (c : Cleanup I α) (limit : Nat) : Prop where
  timeout : c.timeout = some limit
  heeds : ∀ operation, c.operation = .inr operation → ∀ s, (operation s).run.Heeds

variable {c : Cleanup I α} {limit : Nat}

theorem Bounded.lasts (h : c.Bounded limit) (caller : Scope) : (c.run caller).run.Lasts limit := by
  cases operates : c.operation with
  | inl value =>
    rw [run_nil operates]
    exact (Task.Lasts.pure _).mono (Nat.zero_le _)
  | inr operation =>
    intro script guards w
    have opened : Task.onClock (c.scope caller) script guards w =
        .done (Scope.detached limit w.clock).1
          { w with clock := (Scope.detached limit w.clock).2 } := by
      rw [scope, h.timeout]
      exact Task.onClock_done _ script guards w rfl (Scope.precedes_detached limit w.clock)
    rw [run_eq operates, Task.bind_run, opened]
    have kept := Scope.run_endsBy (s := (Scope.detached limit w.clock).1)
      (c.context.getD "cleanup") (h.heeds operation operates (Scope.detached limit w.clock).1) rfl
      script guards { w with clock := (Scope.detached limit w.clock).2 }
    exact (kept.mono (Nat.max_le.mpr ⟨Nat.le_add_right .., Nat.le_refl _⟩)).bind
      fun _ _ now => .done now

theorem Bounded.lasts_foldInto (h : c.Bounded limit) (caller : Scope) (result : Except Fault β) :
    (c.foldInto caller result).Lasts limit := by
  rw [foldInto_eq]
  exact (h.lasts caller).map _

theorem lasts_unwind {stack : List (Cleanup I Unit)} (h : ∀ c ∈ stack, c.Bounded limit)
    (caller : Scope) (result : Except Fault β) :
    (unwind caller result stack).Lasts (stack.length * limit) := by
  induction stack generalizing result with
  | nil => exact (Task.Lasts.pure _).mono (Nat.zero_le _)
  | cons c stack ih =>
    obtain ⟨first, rest⟩ := List.forall_mem_cons.mp h
    have all := (first.lasts_foldInto caller result).bind fun folded => ih rest folded
    rw [List.length_cons, Nat.succ_mul, Nat.add_comm]
    exact all

end Cleanup

end Recovery
