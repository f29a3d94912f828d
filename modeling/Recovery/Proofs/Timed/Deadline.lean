import Recovery.Proofs.Timed.Interrupt
import Recovery.Timed.Recorded
/-!
# Deadlines are kept

A guard that has a deadline ends what it is around at that instant, wherever this rests. A task that
heeds its guards leaves no other way to be cut short: all tasks that are built from calls, rests and
scopes do, even one that hangs and never looks at the scope it was given.
-/
set_option autoImplicit false

namespace Recovery

variable {I : Interface} {α β σ τ : Type}

/-! ## The next deadline -/

theorem earlier_le_either {a b : Option Nat} {t : Nat} (h : a = some t ∨ b = some t) :
    ∃ instant, earlier a b = some instant ∧ instant ≤ t := by
  rcases h with rfl | rfl
  · cases b with
    | none => exact ⟨t, rfl, Nat.le_refl t⟩
    | some b => exact ⟨min t b, rfl, Nat.min_le_left t b⟩
  · cases a with
    | none => exact ⟨t, rfl, Nat.le_refl t⟩
    | some a => exact ⟨min a t, rfl, Nat.min_le_right a t⟩

theorem earliest_le {instants : List (Option Nat)} {t : Nat} (mem : some t ∈ instants) :
    ∃ instant, earliest instants = some instant ∧ instant ≤ t := by
  induction instants with
  | nil => cases mem
  | cons a rest ih =>
    rcases List.mem_cons.mp mem with same | mem
    · exact earlier_le_either (.inl same.symm)
    · obtain ⟨later, found, le⟩ := ih mem
      obtain ⟨instant, first, le'⟩ := earlier_le_either (a := a) (.inr found)
      exact ⟨instant, first, Nat.le_trans le' le⟩

namespace Clock

variable {c d : Clock} {guards : List Guard} {g : Guard} {deadline : Nat} {wake : Option Nat}

theorem nextInterruption?_le (c : Clock) (mem : g ∈ guards) (timed : g.deadline = some deadline) :
    ∃ instant, c.nextInterruption? guards = some instant ∧ instant ≤ deadline := by
  obtain ⟨first, found, le⟩ := earliest_le (timed ▸ List.mem_map_of_mem (f := Guard.deadline) mem)
  obtain ⟨instant, next, le'⟩ := earlier_le_either (.inl found)
  exact ⟨instant, next, Nat.le_trans le' le⟩

/-- A rest under a guard with a deadline is over by then. -/
theorem rest_by_deadline (wake : Option Nat) (mem : g ∈ guards)
    (timed : g.deadline = some deadline) :
    (c.rest guards wake).clock.now ≤ max c.now deadline := by
  unfold rest
  split
  · rename_i found
    rw [interruption?_now found]
    exact Nat.le_max_left ..
  · obtain ⟨next, found, le⟩ := c.ring.nextInterruption?_le mem timed
    obtain ⟨instant, first, le'⟩ := earlier_le_either (a := wake) (.inr found)
    have advanced : (c.ring.advance instant).now ≤ max c.now deadline :=
      Nat.max_le.mpr ⟨Nat.le_max_left .., Nat.le_trans (Nat.le_trans le' le) (Nat.le_max_right ..)⟩
    rw [first]
    dsimp only
    split
    · exact advanced
    · cases found : (c.ring.advance instant).interruption? guards with
      | none => exact advanced
      | some r =>
        rw [Option.getD_some, interruption?_now found]
        exact advanced

theorem rest_ne_endless_of_deadline (mem : g ∈ guards) (timed : g.deadline = some deadline) :
    c.rest guards wake ≠ .endless d := by
  cases wake with
  | some wake => exact rest_ne_endless
  | none =>
    unfold rest
    intro h
    split at h
    · rename_i found
      exact interruption?_ne_endless (found.trans (congrArg some h))
    · obtain ⟨next, found, -⟩ := c.ring.nextInterruption?_le mem timed
      rw [found] at h
      obtain ⟨r, interrupted⟩ := Option.ne_none_iff_exists'.mp (interruption?_advance found)
      simp only [earlier, reduceCtorEq, if_false, interrupted, Option.getD_some] at h
      exact interruption?_ne_endless (interrupted.trans (congrArg some h))

/-- Who wakes had until then. -/
theorem wake_le_deadline {wake : Nat} (mem : g ∈ guards) (timed : g.deadline = some deadline)
    (h : c.rest guards (some wake) = .wakes d) : wake ≤ deadline := by
  unfold rest at h
  split at h
  · rename_i found
    exact absurd (found.trans (congrArg some h)) interruption?_ne_wakes
  · obtain ⟨next, found, le⟩ := c.ring.nextInterruption?_le mem timed
    obtain ⟨instant, first, le'⟩ := earlier_le_either (a := some wake) (.inr found)
    rw [first] at h
    dsimp only at h
    split at h
    · rename_i waking
      rw [Option.some.inj waking]
      exact Nat.le_trans le' le
    · cases found : (c.ring.advance instant).interruption? guards with
      | none =>
        rw [found] at h
        cases h
      | some r =>
        rw [found, Option.getD_some] at h
        exact absurd (found.trans (congrArg some h)) interruption?_ne_wakes

end Clock

/-! ## Tasks -/

namespace Task

/-- However it is left, the task is not cut short by anything but one of its guards, and a deadline
of one of them finds it ended. -/
structure Heeds (task : Task I α) : Prop where
  guarded : ∀ {script : Script I} {guards : List Guard} {w w' : World I} {outside : Nat}
    {why : Interrupt}, task script guards w = .interrupted outside why w' →
    outside < guards.length
  by_deadline : ∀ (script : Script I) (w : World I) {guards : List Guard} {g : Guard}
    {deadline : Nat}, g ∈ guards → g.deadline = some deadline →
    (task script guards w).world.clock.now ≤ max w.clock.now deadline
  ends : ∀ {script : Script I} {guards : List Guard} {w w' : World I} {g : Guard}
    {deadline : Nat}, g ∈ guards → g.deadline = some deadline →
    task script guards w ≠ .endless w'

/-- Is done at once. -/
def Immediate (task : Task I α) : Prop :=
  ∀ (script : Script I) (guards : List Guard) (w : World I),
    ∃ a w', task script guards w = .done a w' ∧ w'.clock.now = w.clock.now

theorem Immediate.pure (a : α) : Immediate (Pure.pure a : Task I α) :=
  fun _ _ w => ⟨a, w, rfl, rfl⟩

theorem immediate_clock : Immediate (clock : Task I Clock) := fun _ _ w => ⟨_, w, rfl, rfl⟩

theorem immediate_onClock (step : Clock → α × Clock) : Immediate (onClock step : Task I α) := by
  refine fun script guards w => ⟨_, _, rfl, ?_⟩
  simp only [Clock.step]
  split
  · rename_i h
    exact h.1
  · rfl

theorem immediate_start (c : I.Call) : Immediate (start c) := fun _ _ _ => ⟨_, _, rfl, rfl⟩

theorem immediate_finish (c : I.Call) (r : Except Fault (I.Reply c)) : Immediate (finish c r) :=
  fun _ _ _ => ⟨_, _, rfl, rfl⟩

theorem immediate_cancelRoot : Immediate (cancelRoot : Task I Unit) :=
  fun _ _ _ => ⟨_, _, rfl, rfl⟩

namespace Heeds

variable {task : Task I α}

theorem of_immediate (h : Immediate task) : Heeds task where
  guarded {script guards w _ _ _} ended := by
    obtain ⟨a, v, done, -⟩ := h script guards w
    rw [done] at ended
    cases ended
  by_deadline script w guards _ _ _ _ := by
    obtain ⟨a, v, done, now⟩ := h script guards w
    rw [done, Step.world, now]
    exact Nat.le_max_left ..
  ends {script guards w _ _ _} _ _ ended := by
    obtain ⟨a, v, done, -⟩ := h script guards w
    rw [done] at ended
    cases ended

theorem pure (a : α) : Heeds (Pure.pure a : Task I α) := of_immediate (.pure a)

theorem bind {next : α → Task I β} (h : Heeds task) (h' : ∀ a, Heeds (next a)) :
    Heeds (task >>= next) where
  guarded ended := by
    rcases bind_interrupted.mp ended with first | ⟨a, v, -, second⟩
    · exact h.guarded first
    · exact (h' a).guarded second
  by_deadline script w guards _ _ mem timed := by
    have first := h.by_deadline script w mem timed
    rw [bind_run]
    cases ended : task script guards w with
    | done a v =>
      rw [ended] at first
      exact Nat.le_trans ((h' a).by_deadline script v mem timed)
        (Nat.max_le.mpr ⟨first, Nat.le_max_right ..⟩)
    | interrupted outside why v => rwa [ended] at first
    | endless v => rwa [ended] at first
  ends mem timed ended := by
    rcases bind_endless.mp ended with first | ⟨a, v, -, second⟩
    · exact h.ends mem timed first
    · exact (h' a).ends mem timed second

theorem map (f : α → β) (h : Heeds task) : Heeds (f <$> task) := by
  rw [map_eq_pure_bind]
  exact h.bind fun a => .pure (f a)

theorem within (g : Guard) (h : Heeds task) : Heeds (Task.within g task) where
  guarded ended := by
    obtain ⟨inside, other⟩ := within_interrupted.mp ended
    exact Nat.lt_of_le_of_ne (Nat.le_of_lt_succ (h.guarded inside)) other
  by_deadline script w _ _ _ mem timed := by
    rw [within_world]
    exact h.by_deadline script w (List.mem_cons_of_mem _ mem) timed
  ends mem timed ended :=
    h.ends (List.mem_cons_of_mem _ mem) timed (within_endless.mp ended)

end Heeds

/-- What goes on at once on waking heeds its guards while it rests. -/
theorem heeds_pause (milliseconds : Nat) : Heeds (pause milliseconds : Task I Unit) where
  guarded ended := (pause_guarded ended).lt_length
  by_deadline _ w guards _ _ mem timed := by
    have kept := w.clock.rest_by_deadline (some (w.clock.now + milliseconds)) mem timed
    simp only [pause]
    cases rested : w.clock.rest guards (some (w.clock.now + milliseconds)) <;>
      rwa [rested] at kept
  ends _ _ := pause_ne_endless

theorem heeds_hang : Heeds (hang : Task I α) where
  guarded ended := (hang_guarded ended).lt_length
  by_deadline _ w guards _ _ mem timed := by
    have kept := w.clock.rest_by_deadline none mem timed
    simp only [hang]
    cases rested : w.clock.rest guards none <;> rwa [rested] at kept
  ends {_ guards w _ _ _} mem timed ended := by
    simp only [hang] at ended
    cases rested : w.clock.rest guards none with
    | wakes c => exact Clock.rest_ne_wakes rested
    | interrupted outside why c =>
      rw [rested] at ended
      cases ended
    | endless c => exact Clock.rest_ne_endless_of_deadline mem timed rested

theorem heeds_sleep (milliseconds : Nat) : Heeds (sleep milliseconds : Task I Unit) := by
  unfold sleep
  split
  · exact .pure ()
  · exact heeds_pause _

theorem heeds_ripen (outcome : Outcome α) : Heeds (ripen outcome : Task I (Except Fault α)) := by
  unfold ripen
  split
  · exact heeds_hang
  · exact (heeds_sleep _).bind fun _ => .pure _

theorem heeds_play (outcome : Outcome α) : Heeds (play outcome : Task I (Except Fault α)) := by
  unfold play
  dsimp only
  split
  · exact (Heeds.of_immediate immediate_cancelRoot).bind fun _ => heeds_ripen outcome
  · exact heeds_ripen outcome

theorem heeds_call (c : I.Call) : Heeds (call c) :=
  (Heeds.of_immediate (immediate_start c)).bind fun outcome =>
    (heeds_play outcome).bind fun r =>
      (Heeds.of_immediate (immediate_finish c r)).bind fun _ => .pure r

section InTime

variable {script : Script I} {guards : List Guard} {w w' : World I} {g : Guard} {deadline : Nat}
  (mem : g ∈ guards) (timed : g.deadline = some deadline)
include mem timed

/-- What has come to its end under a deadline had the time for it. -/
theorem ripen_in_time {outcome : Outcome α} {r : Except Fault α}
    (h : ripen outcome script guards w = .done r w') :
    outcome.hangs = false ∧ outcome.delay ≤ deadline - w.clock.now := by
  unfold ripen at h
  split at h
  · exact absurd h hang_ne_done
  · rename_i returns
    refine ⟨eq_false_of_ne_true returns, ?_⟩
    obtain ⟨_, v, slept, -⟩ := bind_done.mp h
    unfold sleep at slept
    split at slept
    · omega
    · simp only [pause] at slept
      cases rested : w.clock.rest guards (some (w.clock.now + outcome.delay)) <;>
        rw [rested] at slept <;> cases slept
      have kept := Clock.wake_le_deadline mem timed rested
      omega

theorem call_in_time {c : I.Call} {r : Except Fault (I.Reply c)}
    (h : call c script guards w = .done r w') :
    let outcome := script.answer (w.log.map Entry.call) c
    outcome.hangs = false ∧ outcome.delay ≤ deadline - w.clock.now := by
  obtain ⟨outcome, v, started, h⟩ := bind_done.mp h
  obtain ⟨r', v', played, -⟩ := bind_done.mp h
  cases started
  unfold play at played
  dsimp only at played
  split at played
  · obtain ⟨_, u, cancelled, ripened⟩ := bind_done.mp played
    cases cancelled
    exact (ripen_in_time mem timed ripened :)
  · exact (ripen_in_time mem timed played :)

end InTime

end Task

/-! ## Sagas and scopes -/

theorem Saga.heeds_call (c : I.Call) : (call c).run.Heeds := Task.heeds_call c

namespace Scope

theorem heeds_run (s : Scope) (what : String) {operation : Saga I α} (h : operation.run.Heeds) :
    (s.run what operation).run.Heeds := by
  refine (Task.Heeds.of_immediate Task.immediate_clock).bind fun clock => ?_
  split
  · exact .pure _
  · refine (h.within s.guard).bind fun ended => ?_
    cases ended <;> exact .pure _

theorem heeds_call (s : Scope) (what : String) (c : I.Call) : (s.call what c).run.Heeds :=
  (Task.Heeds.of_immediate (Task.immediate_start c)).bind fun outcome =>
    (s.heeds_run what (Task.heeds_play outcome)).bind fun r =>
      (Task.Heeds.of_immediate (Task.immediate_finish c r)).bind fun _ => .pure r

end Scope

namespace Recorded

/-- The same of a recorded saga, whatever is on record. -/
def Heeds (saga : Recorded σ I α) : Prop := ∀ record, (saga.runFrom record).Heeds

variable {saga : Recorded σ I α}

theorem heeds_bind {next : α → Recorded σ I β} (h : saga.Heeds) (h' : ∀ a, (next a).Heeds) :
    (saga >>= next).Heeds := by
  intro record
  rw [runFrom_bind]
  refine (h record).bind fun (r, record) => ?_
  cases r with
  | ok a => exact h' a record
  | error fault => exact .pure _

theorem heeds_pure (a : α) : (pure a : Recorded σ I α).Heeds := fun _ => .pure _

theorem heeds_get : (get : Recorded σ I σ).Heeds := fun _ => .pure _

theorem heeds_set (record : σ) : (set record : Recorded σ I PUnit).Heeds := fun _ => .pure _

theorem heeds_ofSaga {saga : Saga I α} (h : saga.run.Heeds) :
    (ofSaga saga : Recorded σ I α).Heeds := fun _ => h.bind fun _ => .pure _

theorem heeds_zoom {get : τ → σ} {set : σ → τ → τ} (h : saga.Heeds) : (zoom get set saga).Heeds :=
  fun record => (h (get record)).bind fun _ => .pure _

theorem heeds_evalFrom (h : saga.Heeds) (record : σ) : (saga.evalFrom record).run.Heeds :=
  (h record).map _

end Recorded

end Recovery
