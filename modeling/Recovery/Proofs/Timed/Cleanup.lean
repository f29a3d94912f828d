import Recovery.Proofs.Timed.Record
/-!
# What a cleanup runs in

A cleanup with a time of its own runs in a scope that is sheltered; one without runs in a child of
the caller's scope, which is sheltered if that is. Either way it is seen through or cut short by
the guard of the scope it runs in, and its result says so.
-/
set_option autoImplicit false

namespace Recovery

variable {I : Interface} {α β : Type}

namespace Task

/-- A step that issues tokens is taken as it is. -/
theorem onClock_done (step : Clock → α × Clock) (script : Script I) (guards : List Guard)
    (w : World I) (now : (step w.clock).2.now = w.clock.now)
    (precedes : w.clock.Precedes (step w.clock).2) :
    onClock step script guards w =
      .done (step w.clock).1 { w with clock := (step w.clock).2 } := by
  simp only [onClock, Clock.step_eq now precedes]

end Task

namespace Scope

variable {script : Script I} {guards : List Guard} {w w' : World I}

/-- A token that is new is not cancelled, so a derived scope is cancelled if an ancestor is. -/
theorem isCancelled_derive (ancestors : List Token) (deadline : Option Nat) (c : Clock) :
    (derive ancestors deadline c).1.isCancelled (derive ancestors deadline c).2 =
      c.anyCancelled ancestors := by
  have unused : c.cancelled.contains c.fresh = false := by
    simpa using (Clock.spares_of_fresh_le (Nat.le_refl c.fresh)).1
  show c.anyCancelled (c.fresh :: ancestors) = c.anyCancelled ancestors
  rw [Clock.anyCancelled, List.any_cons, unused, Bool.false_or, Clock.anyCancelled]

theorem isCancelled_child (s : Scope) (c : Clock) :
    (s.child c).1.isCancelled (s.child c).2 = s.isCancelled c :=
  isCancelled_derive s.tokens s.deadline c

theorem isCancelled_detached (milliseconds : Nat) (c : Clock) :
    (detached milliseconds c).1.isCancelled (detached milliseconds c).2 = false :=
  (isCancelled_derive _ _ _).trans (isCancelled_derive [] none c)

theorem precedes_detached (milliseconds : Nat) (c : Clock) :
    c.Precedes (detached milliseconds c).2 :=
  c.precedes_issue.trans c.issue.2.precedes_issue

/-- A detached scope is sheltered and ends when its time is up. -/
theorem detached_done {milliseconds : Nat} {s : Scope} (rooted : script.root < w.clock.fresh)
    (h : Task.onClock (detached milliseconds) script guards w = .done s w') :
    w.Adds script [] w' ∧ w'.Shelters script s ∧
      s.deadline = some (w'.clock.now + milliseconds) := by
  have precedes := precedes_detached milliseconds w.clock
  rw [Task.onClock_done _ script guards w rfl precedes] at h
  obtain ⟨rfl, rfl⟩ := Step.done.inj h
  refine ⟨.of_spares precedes.fresh_le fun t _ spared => spared, ?_, rfl⟩
  have tokens : ∀ t ∈ (detached milliseconds w.clock).1.tokens, w.clock.fresh ≤ t := by
    intro t ht
    rcases List.mem_cons.mp ht with rfl | ht
    · exact Nat.le_succ _
    · exact Nat.le_of_eq (List.mem_singleton.mp ht).symm
  exact World.Shelters.of_fresh (w := w) rooted tokens

/-- A child is sheltered if its parent is, and ends when that does. -/
theorem child_done {caller s : Scope} (rooted : script.root < w.clock.fresh)
    (h : Task.onClock caller.child script guards w = .done s w') :
    w.Adds script [] w' ∧ (w.Shelters script caller → w'.Shelters script s) ∧
      s.deadline = caller.deadline := by
  rw [Task.onClock_done caller.child script guards w rfl w.clock.precedes_issue] at h
  obtain ⟨rfl, rfl⟩ := Step.done.inj h
  refine ⟨.of_spares (Nat.le_succ _) fun t _ spared => spared, fun sheltered t ht => ?_, rfl⟩
  rcases List.mem_cons.mp ht with rfl | ht
  · have spared : w.clock.Spares w.clock.fresh := Clock.spares_of_fresh_le (Nat.le_refl _)
    exact ⟨Nat.ne_of_gt rooted, spared⟩
  · exact sheltered t ht

theorem only_run {p : I.Call → Prop} (s : Scope) (what : String) {operation : Saga I α}
    (h : Task.Only p operation.run) : Task.Only p (s.run what operation).run := by
  refine Task.only_clock.bind fun clock => ?_
  split
  · exact .pure _
  · refine (h.within s.guard).bind fun ended => ?_
    cases ended <;> exact .pure _

theorem only_call (s : Scope) (what : String) (c : I.Call) :
    Task.Only (· = c) (s.call what c).run := by
  have start : Task.Only (· = c) (Task.start c) :=
    fun _ _ w => ⟨_, .mark w _, by simp [Mark.call]⟩
  have finish (r : Except Fault (I.Reply c)) : Task.Only (· = c) (Task.finish c r) :=
    fun _ _ w => ⟨_, .mark w _, by simp [Mark.call]⟩
  exact start.bind fun outcome =>
    (only_run s what ((Task.idle_play outcome).mono fun _ => False.elim)).bind fun r =>
      (finish r).bind fun _ => .pure _

/-- A call in a scope has begun and has ended, if only with the scope. -/
theorem call_done {s : Scope} {what : String} {c : I.Call} {r : Except Fault (I.Reply c)}
    (h : (s.call what c).run script guards w = .done r w') :
    w.Adds script [.began ⟨w.clock.now, c⟩, .ended w'.clock.now c r] w' := by
  obtain ⟨outcome, v, started, h⟩ := Task.bind_done.mp h
  obtain ⟨r', v', played, h⟩ := Task.bind_done.mp h
  obtain ⟨_, v'', finished, h⟩ := Task.bind_done.mp h
  obtain ⟨rfl, rfl⟩ := Task.pure_done.mp h
  obtain ⟨rfl, rfl⟩ := Step.done.inj started
  obtain ⟨-, rfl⟩ := Step.done.inj finished
  have idle := Task.idle_done (only_run s what (Task.idle_play _)) played
  exact ((World.Adds.mark w _).trans idle).trans (.mark v' _)

end Scope

namespace Cleanup

variable {script : Script I} {guards : List Guard} {w w' : World I}

/-- The scope that a cleanup runs in. -/
def scope (c : Cleanup I α) (caller : Scope) : Clock → Scope × Clock :=
  match c.timeout with
  | some milliseconds => Scope.detached milliseconds
  | none => caller.child

theorem isCancelled_scope (c : Cleanup I α) (caller : Scope) (now : Clock) :
    (c.scope caller now).1.isCancelled (c.scope caller now).2 =
      (c.timeout.isNone && caller.isCancelled now) := by
  rw [scope]
  cases c.timeout with
  | none => exact caller.isCancelled_child now
  | some milliseconds => exact Scope.isCancelled_detached milliseconds now

/-- The scope is made at once. -/
theorem onClock_scope (c : Cleanup I α) (caller : Scope) :
    Task.onClock (c.scope caller) script guards w =
      .done (c.scope caller w.clock).1 { w with clock := (c.scope caller w.clock).2 } := by
  rw [scope]
  cases c.timeout with
  | none => exact Task.onClock_done caller.child script guards w rfl w.clock.precedes_issue
  | some milliseconds =>
    exact Task.onClock_done _ script guards w rfl (Scope.precedes_detached milliseconds w.clock)

section Run

variable {c : Cleanup I α} {operation : Scope → Saga I α} {caller : Scope}

theorem run_eq (h : c.operation = .inr operation) :
    (c.run caller).run = Task.onClock (c.scope caller) >>= fun s =>
      (s.run (c.context.getD "cleanup") (operation s)).run >>= fun r =>
        pure (r.mapError c.report) := by
  simp only [run, h]
  rfl

theorem run_nil {value : α} (h : c.operation = .inl value) :
    (c.run caller).run = pure (.ok value) := by
  simp only [run, h]
  rfl

theorem run_done {r : Except Fault α} (h : c.operation = .inr operation) :
    (c.run caller).run script guards w = .done r w' ↔
      ∃ s v r', Task.onClock (c.scope caller) script guards w = .done s v ∧
        (s.run (c.context.getD "cleanup") (operation s)).run script guards v = .done r' w' ∧
        r = r'.mapError c.report := by
  rw [run_eq h, Task.bind_done]
  constructor
  · rintro ⟨s, v, opened, h⟩
    obtain ⟨r', v', ran, h⟩ := Task.bind_done.mp h
    obtain ⟨rfl, rfl⟩ := Task.pure_done.mp h
    exact ⟨s, v, r', opened, ran, rfl⟩
  · rintro ⟨s, v, r', opened, ran, rfl⟩
    exact ⟨s, v, opened, Task.bind_done.mpr ⟨r', w', ran, Task.pure_done.mpr ⟨rfl, rfl⟩⟩⟩

theorem run_interrupted {outside : Nat} {why : Interrupt} (h : c.operation = .inr operation)
    (ended : (c.run caller).run script guards w = .interrupted outside why w') :
    ∃ s v, Task.onClock (c.scope caller) script guards w = .done s v ∧
      (s.run (c.context.getD "cleanup") (operation s)).run script guards v =
        .interrupted outside why w' := by
  rw [run_eq h] at ended
  rcases Task.bind_interrupted.mp ended with opened | ⟨s, v, opened, ended⟩
  · cases opened
  · rcases Task.bind_interrupted.mp ended with ran | ⟨_, _, _, ended⟩
    · exact ⟨s, v, opened, ran⟩
    · cases ended

end Run

/-- What becomes of an operation that runs in a sheltered scope. -/
inductive Ran (c : Cleanup I α) (operation : Saga I α) (script : Script I) (guards : List Guard)
    (s : Scope) (w w' : World I) : Except Fault α → Prop where
  | through (r : Except Fault α) : operation.run script (s.guard :: guards) w = .done r w' →
    Ran c operation script guards s w w' (r.mapError c.report)
  | cut (why : Interrupt) (what : String) :
    operation.run script (s.guard :: guards) w = .interrupted guards.length why w' →
    Ran c operation script guards s w w' (.error (c.report (why.fault what)))

theorem ran_of_done {c : Cleanup I α} {operation : Saga I α} {s : Scope} {what : String}
    {r : Except Fault α} (sheltered : w.Shelters script s)
    (h : (s.run what operation).run script guards w = .done r w') :
    Ran c operation script guards s w w' (r.mapError c.report) := by
  rcases (Scope.run_done sheltered.isCancelled).mp h with inside | ⟨why, inside, rfl⟩
  · exact .through r inside
  · exact .cut why what inside

/-- A cleanup with a time of its own runs in a sheltered scope. -/
theorem ran_of_timeout {c : Cleanup I α} {operation : Scope → Saga I α} {caller : Scope}
    {milliseconds : Nat} {r : Except Fault α} (rooted : script.root < w.clock.fresh)
    (operates : c.operation = .inr operation) (timeout : c.timeout = some milliseconds)
    (h : (c.run caller).run script guards w = .done r w') :
    ∃ s v, w.Adds script [] v ∧ v.Shelters script s ∧
      s.deadline = some (v.clock.now + milliseconds) ∧
      Ran c (operation s) script guards s v w' r := by
  obtain ⟨s, v, r', opened, ran, rfl⟩ := (run_done operates).mp h
  rw [scope, timeout] at opened
  obtain ⟨adds, sheltered, deadline⟩ := Scope.detached_done rooted opened
  exact ⟨s, v, adds, sheltered, deadline, ran_of_done sheltered ran⟩

/-- A cleanup without a time of its own is sheltered with its caller. -/
theorem ran_of_caller {c : Cleanup I α} {operation : Scope → Saga I α} {caller : Scope}
    {r : Except Fault α} (rooted : script.root < w.clock.fresh)
    (sheltered : w.Shelters script caller) (operates : c.operation = .inr operation)
    (timeout : c.timeout = none) (h : (c.run caller).run script guards w = .done r w') :
    ∃ s v, w.Adds script [] v ∧ v.Shelters script s ∧ s.deadline = caller.deadline ∧
      Ran c (operation s) script guards s v w' r := by
  obtain ⟨s, v, r', opened, ran, rfl⟩ := (run_done operates).mp h
  rw [scope, timeout] at opened
  obtain ⟨adds, shelters, deadline⟩ := Scope.child_done rooted opened
  exact ⟨s, v, adds, shelters sheltered, deadline, ran_of_done (shelters sheltered) ran⟩

/-- The scope is opened for a cleanup of its own: it is sheltered and ends when its time is up. -/
structure Opens (script : Script I) (milliseconds : Nat) (s : Scope) (w v : World I) : Prop where
  adds : w.Adds script [] v
  sheltered : v.Shelters script s
  deadline : s.deadline = some (v.clock.now + milliseconds)

/-- The operation was begun in a scope of its own and seen through or cut short by that scope. -/
inductive Detached (what : String) (milliseconds : Nat) (operation : Scope → Saga I α)
    (script : Script I) (guards : List Guard) (w w' : World I) : Except Fault α → Prop where
  | through {s : Scope} {v : World I} {r : Except Fault α} : Opens script milliseconds s w v →
    (operation s).run script (s.guard :: guards) v = .done r w' →
    Detached what milliseconds operation script guards w w' r
  | cut {s : Scope} {v : World I} {why : Interrupt} : Opens script milliseconds s w v →
    (operation s).run script (s.guard :: guards) v = .interrupted guards.length why w' →
    Detached what milliseconds operation script guards w w' (.error (why.fault what))

theorem detached_of_done {c : Cleanup I α} {operation : Scope → Saga I α} {caller : Scope}
    {milliseconds : Nat} {r : Except Fault α} (rooted : script.root < w.clock.fresh)
    (operates : c.operation = .inr operation) (timeout : c.timeout = some milliseconds)
    (h : (c.run caller).run script guards w = .done r w') :
    ∃ r', Detached (c.context.getD "cleanup") milliseconds operation script guards w w' r' ∧
      r = r'.mapError c.report := by
  obtain ⟨s, v, r', opened, ran, same⟩ := (run_done operates).mp h
  rw [scope, timeout] at opened
  obtain ⟨adds, sheltered, deadline⟩ := Scope.detached_done rooted opened
  refine ⟨r', ?_, same⟩
  rcases (Scope.run_done sheltered.isCancelled).mp ran with inside | ⟨why, inside, rfl⟩
  · exact .through ⟨adds, sheltered, deadline⟩ inside
  · exact .cut ⟨adds, sheltered, deadline⟩ inside

/-- The result after a cleanup that gave its own. -/
def folded (result : Except Fault β) : Except Fault α → Except Fault β
  | .ok _ => result
  | .error fault => Fault.foldInto result fault

theorem foldInto_eq (c : Cleanup I α) (caller : Scope) (result : Except Fault β) :
    c.foldInto caller result = folded result <$> (c.run caller).run := by
  rw [map_eq_pure_bind]
  unfold foldInto
  congr
  funext cleaned
  cases cleaned <;> rfl

theorem foldInto_done {c : Cleanup I α} {caller : Scope} {result r : Except Fault β} :
    c.foldInto caller result script guards w = .done r w' ↔
      ∃ cleaned, (c.run caller).run script guards w = .done cleaned w' ∧
        r = folded result cleaned := by
  rw [foldInto_eq, Task.map_done]
  simp only [eq_comm]

/-! ## What cleanups put on record -/

/-- Whatever scope it runs in, the cleanup puts nothing on record but calls of this sort. -/
def Only (p : I.Call → Prop) (c : Cleanup I α) : Prop :=
  ∀ operation, c.operation = .inr operation → ∀ s, Task.Only p (operation s).run

namespace Only

variable {p : I.Call → Prop} {c : Cleanup I α}

theorem ofScope {operation : Scope → Saga I α} (h : ∀ s, Task.Only p (operation s).run) :
    Only p (Cleanup.ofScope operation) := by
  rintro _ ⟨⟩
  exact h

theorem withContext (h : Only p c) (message : String) : Only p (c.withContext message) := h

theorem withTimeout (h : Only p c) (milliseconds : Nat) : Only p (c.withTimeout milliseconds) := h

theorem withMapFault (h : Only p c) (change : Fault → Fault) : Only p (c.withMapFault change) := h

theorem run (h : Only p c) (caller : Scope) : Task.Only p (c.run caller).run := by
  cases operates : c.operation with
  | inl value =>
    rw [run_nil operates]
    exact .pure _
  | inr operation =>
    rw [run_eq operates]
    refine (Task.only_onClock fun _ _ spared => ?_).bind fun s =>
      (Scope.only_run s _ (h operation operates s)).bind fun _ => .pure _
    unfold scope
    cases c.timeout <;> exact spared

theorem foldInto (h : Only p c) (caller : Scope) (result : Except Fault β) :
    Task.Only p (c.foldInto caller result) := by
  rw [foldInto_eq]
  exact (h.run caller).map _

theorem unwind {stack : List (Cleanup I Unit)} (h : ∀ c ∈ stack, Only p c) (caller : Scope)
    (result : Except Fault β) : Task.Only p (Cleanup.unwind caller result stack) := by
  induction stack generalizing result with
  | nil => exact .pure _
  | cons c stack ih =>
    obtain ⟨first, rest⟩ := List.forall_mem_cons.mp h
    exact (first.foldInto caller result).bind fun folded => ih rest folded

end Only

end Cleanup

end Recovery
