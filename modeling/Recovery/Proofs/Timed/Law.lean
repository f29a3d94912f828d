import Recovery.Proofs.Timed.Attempt
import Recovery.Proofs.Timed.Interrupt
/-!
# Laws of attempts

A law is about all the attempts since a run began and about how long it has rested since the last of
them. A task upholds it if the law holds wherever the task is left: at its end, cut short by one of
the guards, or in a rest that never ends.
-/
set_option autoImplicit false

namespace Recovery

variable {I : Interface} {α β : Type}

abbrev Law (I : Interface) := List (Attempt I) → Nat → Prop

def Mark.instant : Mark I → Nat
  | .began entry => entry.instant
  | .ended instant _ _ => instant

/-- The instant of the last mark, or of the start if there is none. -/
def Mark.latest (start : Nat) (marks : List (Mark I)) : Nat :=
  (marks.getLast?.map Mark.instant).getD start

theorem Mark.latest_concat (start : Nat) (marks : List (Mark I)) (m : Mark I) :
    latest start (marks ++ [m]) = m.instant := by
  rw [latest, List.getLast?_concat]
  rfl

/-- From one world to the other just these attempts are made, and no more time than this has gone by
since the last one began or ended. -/
def World.Reaches (script : Script I) (w : World I) (attempts : List (Attempt I)) (rested : Nat)
    (w' : World I) : Prop :=
  ∃ added, w.Adds script added w' ∧ Attempt.Leave attempts added ∧
    w'.clock.now ≤ Mark.latest w.clock.now added + rested

namespace World.Reaches

variable {script : Script I} {base w w' : World I} {attempts : List (Attempt I)} {rested : Nat}

theorem refl (w : World I) : w.Reaches script [] 0 w := ⟨[], .refl w, .nil, Nat.le_refl _⟩

theorem rest (h : base.Reaches script attempts rested w) (milliseconds : Nat)
    (adds : w.Adds script [] w') (on_time : w'.clock.now ≤ w.clock.now + milliseconds) :
    base.Reaches script attempts (rested + milliseconds) w' := by
  obtain ⟨added, before, leave, now⟩ := h
  refine ⟨added, ?_, leave, ?_⟩
  · have both := before.trans adds
    rwa [List.append_nil] at both
  · omega

/-- Any time may go by. -/
theorem idle (h : base.Reaches script attempts rested w) (adds : w.Adds script [] w') :
    base.Reaches script attempts (rested + w'.clock.now) w' :=
  h.rest _ adds (Nat.le_add_left ..)

theorem through (h : base.Reaches script attempts rested w) {c : I.Call}
    {r : Except Fault (I.Reply c)} {instant : Nat}
    (adds : w.Adds script [.began ⟨instant, c⟩, .ended w'.clock.now c r] w') :
    base.Reaches script (attempts ++ [⟨c, some r⟩]) 0 w' := by
  obtain ⟨added, before, leave, -⟩ := h
  refine ⟨_, before.trans adds, leave.append (.through _ _ c r .nil), ?_⟩
  rw [List.append_cons, Mark.latest_concat]
  exact Nat.le_refl _

theorem cut (h : base.Reaches script attempts rested w) {c : I.Call} {instant : Nat}
    (adds : w.Adds script [.began ⟨instant, c⟩] w') :
    base.Reaches script (attempts ++ [⟨c, none⟩]) w'.clock.now w' := by
  obtain ⟨added, before, leave, -⟩ := h
  exact ⟨_, before.trans adds, leave.append (.cut _ c .nil), Nat.le_add_left ..⟩

end World.Reaches

/-- Begun after attempts that obey the law and satisfy `before`, the task obeys the law. If it ends,
`after` holds of its value and of all the attempts. -/
structure Task.Upholds (law before : Law I) (task : Task I α) (after : α → Law I) : Prop where
  left : ∀ {script : Script I} (guards : List Guard) {base w : World I} {past : List (Attempt I)}
    {rested : Nat},
    base.Reaches script past rested w → law past rested → before past rested →
    ∃ all rested', base.Reaches script all rested' (task script guards w).world ∧
      law all rested' ∧ (∀ a v, task script guards w = .done a v → after a all rested') ∧
      ∀ outside why v, task script guards w = .interrupted outside why v →
        Guard.Interrupts v.clock why guards outside

namespace Task

variable {law before before' : Law I} {after : α → Law I}

theorem Upholds.mono {task : Task I α} (h : task.Upholds law before after)
    (weaker : ∀ past rested, before' past rested → before past rested) :
    task.Upholds law before' after :=
  ⟨fun guards _ _ _ _ reaches lawful ready => h.left guards reaches lawful (weaker _ _ ready)⟩

theorem upholds_pure (a : α) (h : ∀ past rested, before past rested → after a past rested) :
    (pure a : Task I α).Upholds law before after := by
  constructor
  intro script guards base w past rested reaches lawful ready
  refine ⟨past, rested, reaches, lawful, ?_, nofun⟩
  rintro _ _ ⟨⟩
  exact h past rested ready

theorem Upholds.bind {task : Task I α} {next : α → Task I β} {finally_ : β → Law I}
    (h : task.Upholds law before after) (h' : ∀ a, (next a).Upholds law (after a) finally_) :
    (task >>= next).Upholds law before finally_ := by
  constructor
  intro script guards base w past rested reaches lawful ready
  obtain ⟨all, rested', reaches', lawful', done, guarded⟩ := h.left guards reaches lawful ready
  rw [bind_run]
  cases ended : task script guards w with
  | done a v =>
    rw [ended] at reaches'
    exact (h' a).left guards reaches' lawful' (done a v ended)
  | interrupted outside why v =>
    rw [ended] at reaches'
    refine ⟨all, rested', reaches', lawful', nofun, ?_⟩
    rintro _ _ _ ⟨⟩
    exact guarded outside why v ended
  | endless v =>
    rw [ended] at reaches'
    exact ⟨all, rested', reaches', lawful', nofun, nofun⟩

/-! Rests -/

theorem upholds_clock : (clock : Task I Clock).Upholds law before fun _ => before := by
  constructor
  intro script guards base w past rested reaches lawful ready
  exact ⟨past, rested, reaches, lawful, fun _ _ _ => ready, nofun⟩

theorem upholds_pause (milliseconds : Nat) {after : Law I}
    (lawful : ∀ past rested, law past rested → before past rested →
      law past (rested + milliseconds))
    (h : ∀ past rested, before past rested → after past (rested + milliseconds)) :
    (pause milliseconds : Task I Unit).Upholds law before fun _ => after := by
  constructor
  intro script guards base w past rested reaches obeys ready
  have adds := idle_adds (idle_pause milliseconds) script guards w
  exact ⟨past, rested + milliseconds, reaches.rest _ adds (pause_on_time milliseconds _ _ _),
    lawful past rested obeys ready, fun _ _ _ => h past rested ready,
    fun _ _ _ ended => pause_guarded ended⟩

theorem upholds_sleep (milliseconds : Nat) {after : Law I}
    (lawful : ∀ past rested, law past rested → before past rested →
      law past (rested + milliseconds))
    (h : ∀ past rested, before past rested → after past (rested + milliseconds)) :
    (sleep milliseconds : Task I Unit).Upholds law before fun _ => after := by
  unfold sleep
  split
  · rename_i none
    subst none
    exact upholds_pure () h
  · exact upholds_pause milliseconds lawful h

/-- What never goes on may promise anything. -/
theorem upholds_hang (lawful : ∀ past rested waited, law past rested → before past rested →
      law past (rested + waited)) :
    (hang : Task I α).Upholds law before after := by
  constructor
  intro script guards base w past rested reaches obeys ready
  have adds := idle_adds (α := α) idle_hang script guards w
  exact ⟨past, _, reaches.idle adds, lawful past rested _ obeys ready,
    fun _ _ ended => absurd ended hang_ne_done, fun _ _ _ ended => hang_guarded ended⟩

/-- A call is lawful if both of its attempts are: the one cut short, however long that takes, and
the one seen through. -/
theorem upholds_call {c : I.Call} {after : Except Fault (I.Reply c) → Law I}
    (cut : ∀ past rested waited, law past rested → before past rested →
      law (past ++ [⟨c, none⟩]) waited)
    (through : ∀ past rested r, law past rested → before past rested →
      law (past ++ [⟨c, some r⟩]) 0)
    (h : ∀ past rested r, before past rested → after r (past ++ [⟨c, some r⟩]) 0) :
    (call c).Upholds law before after := by
  constructor
  intro script guards base w past rested reaches obeys ready
  cases ended : call c script guards w with
  | done r v =>
    refine ⟨_, 0, reaches.through (call_done ended), through past rested r obeys ready, ?_, nofun⟩
    rintro _ _ ⟨⟩
    exact h past rested r ready
  | interrupted outside why v =>
    refine ⟨_, _, reaches.cut (call_interrupted ended), cut past rested _ obeys ready, nofun, ?_⟩
    rintro _ _ _ ⟨⟩
    exact call_guarded ended
  | endless v =>
    exact ⟨_, _, reaches.cut (call_endless ended), cut past rested _ obeys ready, nofun, nofun⟩

end Task

/-! ## Sagas -/

/-- What is to hold at the end, whether there is a value or not. -/
def Law.ending (after : α → Law I) (failing : Fault → Law I) : Except Fault α → Law I
  | .ok a => after a
  | .error fault => failing fault

abbrev Saga.Upholds (law before : Law I) (saga : Saga I α) (after : α → Law I)
    (failing : Fault → Law I) : Prop :=
  Task.Upholds law before saga.run (Law.ending after failing)

namespace Saga

variable {law before : Law I} {after : α → Law I} {failing : Fault → Law I}

theorem Upholds.bind {saga : Saga I α} {next : α → Saga I β} {finally_ : β → Law I}
    (h : saga.Upholds law before after failing)
    (h' : ∀ a, (next a).Upholds law (after a) finally_ failing) :
    (saga >>= next).Upholds law before finally_ failing := by
  show Task.Upholds law before (saga >>= next).run _
  rw [ExceptT.run_bind]
  refine Task.Upholds.bind h fun r => ?_
  cases r with
  | ok a => exact h' a
  | error fault => exact Task.upholds_pure _ fun _ _ failed => failed

theorem upholds_pure (a : α) (h : ∀ past rested, before past rested → after a past rested) :
    (pure a : Saga I α).Upholds law before after failing :=
  Task.upholds_pure _ h

theorem upholds_fail (fault : Fault)
    (h : ∀ past rested, before past rested → failing fault past rested) :
    (fail fault : Saga I α).Upholds law before after failing :=
  Task.upholds_pure _ h

theorem upholds_ofTask {task : Task I α} (h : task.Upholds law before after) :
    (ofTask task).Upholds law before after failing :=
  Task.Upholds.bind h fun _ => Task.upholds_pure _ fun _ _ ready => ready

/-- Run in a scope, the saga either ends by itself or is ended by the scope. -/
theorem Upholds.run {saga : Saga I α} (h : saga.Upholds law before after failing) (s : Scope)
    (what : String) {script : Script I} (guards : List Guard) {base w : World I}
    {past : List (Attempt I)} {rested : Nat} (reaches : base.Reaches script past rested w)
    (lawful : law past rested) (ready : before past rested) :
    ∃ all rested',
      base.Reaches script all rested' ((s.run what saga).run script guards w).world ∧
      law all rested' ∧
      ∀ r v, (s.run what saga).run script guards w = .done r v →
        Law.ending after failing r all rested' ∨
        ∃ why, r = .error (Interrupt.fault what why) ∧ s.guard.Trips v.clock why := by
  cases stopped : s.isCancelled w.clock with
  | true =>
    rw [Scope.run_of_cancelled stopped]
    refine ⟨past, rested, reaches, lawful, ?_⟩
    rintro _ _ ⟨⟩
    exact .inr ⟨.cancelled, rfl, stopped⟩
  | false =>
    obtain ⟨all, rested', reaches', lawful', done, guarded⟩ :=
      h.left (s.guard :: guards) reaches lawful ready
    refine ⟨all, rested', ?_, lawful', fun r v ended => ?_⟩
    · rw [Scope.run_world stopped]
      exact reaches'
    · rcases (Scope.run_done stopped).mp ended with inside | ⟨why, inside, rfl⟩
      · exact .inl (done r v inside)
      · exact .inr ⟨why, rfl, (guarded _ why v inside).trips⟩

end Saga

end Recovery
