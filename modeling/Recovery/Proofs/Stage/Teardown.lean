import Recovery.Proofs.Stage.Course
import Recovery.Proofs.Timed.Duration
/-!
# How long a stage takes to end

A run of a stage is its work, up to the last action that was executed, and then the worker taken
down and the actions cleaned up. However these hang, each is over when its time is up, so that the
run ends soon after its work.
-/
set_option autoImplicit false

namespace Recovery

namespace Stage

variable {I : Interface} {A H : Type}

/-! ## The work and what follows it -/

/-- What the phases have come to before anything is taken down. -/
structure Worked (A H : Type) where
  result : Except Fault Unit
  actions : List (NamedAction A)
  /-- The worker, if one was provisioned. -/
  worker : Option H

section Work

variable [Action I A] (scope : Scope) (provisioner : Provisioner I H)

def employ (options : WorkerOptions) (actions : List (NamedAction A)) : Task I (Worked A H) := do
  match blame .execute workerAction (← (provisioner.provision scope options).attempt) with
  | .error fault => return ⟨.error fault, actions, none⟩
  | .ok worker =>
    let (result, actions) ← executeOn scope (provisioner.client worker) actions
    return ⟨result, actions, some worker⟩

/-- Everything before the worker is taken down. -/
def work (o : StageOptions) (actions : List (NamedAction A)) : Task I (Worked A H) := do
  match ← (validateAll scope actions).attempt with
  | .error fault => return ⟨.error fault, actions, none⟩
  | .ok () =>
    let (result, actions) ← setupAll scope actions o.seed
    match result with
    | .error fault => return ⟨.error fault, actions, none⟩
    | .ok worker => employ scope provisioner worker actions

def release (timeout : Nat) (x : Worked A H) : Task I (Except Fault Unit) :=
  match x.worker with
  | some worker => takeDown scope provisioner timeout worker x.result
  | none => return x.result

/-- The worker taken down, if there is one, and the actions cleaned up. -/
def finish (timeout : Nat) (x : Worked A H) : Task I (Except Fault Unit) := do
  let result ← release scope provisioner timeout x
  Cleanup.unwind scope result (cleanups timeout x.actions)

theorem execute_eq (timeout : Nat) (options : WorkerOptions) (actions : List (NamedAction A)) :
    execute scope provisioner timeout options actions =
      employ scope provisioner options actions >>= fun x =>
        release scope provisioner timeout x >>= fun r => pure (r, x.actions) := by
  simp only [execute, employ, bind_assoc]
  refine bind_congr fun provisioned => ?_
  cases blame .execute workerAction provisioned with
  | error fault => rfl
  | ok worker =>
    simp only [bind_assoc, pure_bind]
    rfl

theorem phases_eq (o : StageOptions) (actions : List (NamedAction A)) :
    phases scope provisioner o actions =
      work scope provisioner o actions >>= fun x =>
        release scope provisioner o.cleanupTimeout x >>= fun r => pure (r, x.actions) := by
  simp only [phases, work, bind_assoc]
  refine bind_congr fun validated => ?_
  cases validated with
  | error fault => rfl
  | ok _ =>
    simp only [bind_assoc]
    refine bind_congr fun prepared => ?_
    obtain ⟨ready, actions⟩ := prepared
    cases ready with
    | error fault => rfl
    | ok worker => exact execute_eq scope provisioner o.cleanupTimeout worker actions

theorem run_eq (o : StageOptions) (actions : List (NamedAction A)) :
    (run scope provisioner o actions).run =
      work scope provisioner o actions >>= finish scope provisioner o.cleanupTimeout := by
  show (phases scope provisioner o actions >>= fun p =>
    Cleanup.unwind scope p.1 (cleanups o.cleanupTimeout p.2)) = _
  simp only [phases_eq, bind_assoc, pure_bind]
  rfl

end Work

/-! ## The turns of the work -/

/-- A turn of one of the phases, which takes nothing down. -/
def Turn.isForward : Turn I A H → Bool
  | .validate .. | .setup .. | .provision .. | .execute .. => true
  | .close .. | .delete .. | .cleanup .. => false

def Turn.provides : Turn I A H → Bool
  | .provision _ (.ok _) => true
  | _ => false

/-- It goes forward and provides no worker. -/
structure Turn.IsPlain (t : Turn I A H) : Prop where
  forward : t.isForward = true
  unprovided : t.provides = false

section Plain

variable {a a' : NamedAction A} {r : Except Fault Unit} {t : Turn I A H}

theorem Validates.plain {s s' : Unit} (h : Validates s a r t a' s') : t.IsPlain := by
  cases h
  exact ⟨rfl, rfl⟩

theorem SetsUp.plain {s s' : WorkerOptions} (h : SetsUp s a r t a' s') : t.IsPlain := by
  cases h
  exact ⟨rfl, rfl⟩

theorem Executes.plain {client : WorkerClient I} {s s' : Unit}
    (h : Executes client s a r t a' s') : t.IsPlain := by
  cases h
  exact ⟨rfl, rfl⟩

end Plain

/-- The turns go forward; whether one of them has provided a worker. -/
structure Forward (turns : List (Turn I A H)) (provided : Bool) : Prop where
  forward : ∀ t ∈ turns, t.isForward = true
  provided : turns.any Turn.provides = provided

namespace Forward

variable {turns later : List (Turn I A H)} {b c : Bool}

theorem append (h : Forward turns b) (h' : Forward later c) :
    Forward (turns ++ later) (b || c) where
  forward t mem := (List.mem_append.mp mem).elim (h.forward t) (h'.forward t)
  provided := by rw [List.any_append, h.provided, h'.provided]

end Forward

section Turns

variable [Action I A] {scope : Scope} {provisioner : Provisioner I H}
  {actions : List (NamedAction A)} {script : Script I} {guards : List Guard} {w v : World I}
  {x : Worked A H}

end Turns

/-! ## How long the rest lasts -/

/-- Wherever they rest, closing the client, deleting the worker and cleaning up can be ended by the
guards around them. What they do and how long they hang is left open. -/
structure Interruptible [Action I A] (provisioner : Provisioner I H) : Prop where
  close : ∀ handle, (provisioner.close handle).run.Heeds
  delete : ∀ handle scope, (provisioner.delete handle scope).run.Heeds
  cleanup : ∀ scope, (Action.cleanup scope : Recorded A I Unit).Heeds

section Lasts

variable [Action I A] {provisioner : Provisioner I H} (h : Interruptible (A := A) provisioner)
include h

theorem Interruptible.lasts_takeDown (scope : Scope) (timeout : Nat) (worker : H)
    (result : Except Fault Unit) :
    (takeDown scope provisioner timeout worker result).Lasts (2 * timeout) := by
  have closing : (((Cleanup.of (provisioner.close worker)).withContext
      "close worker client").withTimeout timeout).Bounded timeout :=
    ⟨rfl, by rintro _ ⟨⟩ _; exact h.close worker⟩
  have deletion (worker : H) : (((Cleanup.ofScope (provisioner.delete worker)).withContext
      "delete worker").withTimeout timeout).Bounded timeout :=
    ⟨rfl, by rintro _ ⟨⟩ s; exact h.delete worker s⟩
  rw [Nat.two_mul]
  exact (closing.lasts scope).bind fun closed =>
    ((deletion _).lasts scope).bind fun _ => .pure _

theorem Interruptible.lasts_release (scope : Scope) (timeout : Nat) (x : Worked A H) :
    (release scope provisioner timeout x).Lasts
      ((if x.worker.isSome then 2 else 0) * timeout) := by
  unfold release
  cases x.worker with
  | none => exact (Task.Lasts.pure _).mono (Nat.zero_le _)
  | some worker => exact h.lasts_takeDown scope timeout worker x.result

theorem Interruptible.bounded_cleanups (timeout : Nat) (actions : List (NamedAction A)) :
    ∀ c ∈ cleanups (I := I) timeout actions, c.Bounded timeout := by
  intro c mem
  obtain ⟨a, -, rfl⟩ := List.mem_map.mp (List.mem_reverse.mp mem)
  exact ⟨rfl, by rintro _ ⟨⟩ s; exact Recorded.heeds_evalFrom (h.cleanup s) a.action⟩

theorem Interruptible.lasts_finish (scope : Scope) (timeout : Nat) (x : Worked A H) :
    (finish scope provisioner timeout x).Lasts (((if x.worker.isSome then 2 else 0) +
      (x.actions.filter fun a => Action.hasCleanup I a.action).length) * timeout) := by
  rw [Nat.add_mul]
  refine (h.lasts_release scope timeout x).bind fun r => ?_
  have all := Cleanup.lasts_unwind (h.bounded_cleanups timeout x.actions) scope r
  rwa [cleanups, List.length_reverse, List.length_map] at all

end Lasts

end Stage

end Recovery
