import Recovery.Proofs.Fault
import Recovery.Proofs.Timed.Cleanup
import Recovery.Stage.Run
/-!
# Turns

What a stage has the actions and the provisioner do, whatever these are: one thing after another,
each with what came of it. A turn that fails has a phase and a name to be blamed.
-/
set_option autoImplicit false

namespace Recovery

namespace Stage

variable {I : Interface} {A H : Type}

inductive Turn (I : Interface) (A H : Type) where
  | validate (a : NamedAction A) (result : Except Fault Unit)
  /-- It changes the action and the worker that is asked for. -/
  | setup (a : NamedAction A) (worker : WorkerOptions) (result : Except Fault Unit) (action : A)
    (worker' : WorkerOptions)
  | provision (worker : WorkerOptions) (result : Except Fault H)
  | execute (a : NamedAction A) (client : WorkerClient I) (result : Except Fault Unit) (action : A)
  | close (handle : H) (result : Except Fault H)
  | delete (handle : H) (result : Except Fault Unit)
  | cleanup (a : NamedAction A) (result : Except Fault Unit)

section Runs

variable [Action I A] (scope : Scope) (provisioner : Provisioner I H) (timeout : Nat)
  (script : Script I) (guards : List Guard)

/-- The turn is taken from one world to the other. Closing the client, deleting the worker and
cleaning up take place in a scope of their own. -/
inductive Turn.Runs (w w' : World I) : Turn I A H → Prop where
  | validate {a : NamedAction A} {r : Except Fault Unit} :
    (Action.validate a.action scope).run script guards w = .done r w' → Runs w w' (.validate a r)
  | setup {a : NamedAction A} {worker worker' : WorkerOptions} {r : Except Fault Unit}
    {action : A} :
    (Action.setup scope).runFrom (a.action, worker) script guards w =
      .done (r, action, worker') w' →
    Runs w w' (.setup a worker r action worker')
  | provision {worker : WorkerOptions} {r : Except Fault H} :
    (provisioner.provision scope worker).run script guards w = .done r w' →
    Runs w w' (.provision worker r)
  | execute {a : NamedAction A} {client : WorkerClient I} {r : Except Fault Unit} {action : A} :
    (Action.execute scope client).runFrom a.action script guards w = .done (r, action) w' →
    Runs w w' (.execute a client r action)
  | close {handle : H} {r : Except Fault H} :
    Cleanup.Detached "close worker client" timeout (fun _ => provisioner.close handle) script
      guards w w' r →
    Runs w w' (.close handle r)
  | delete {handle : H} {r : Except Fault Unit} :
    Cleanup.Detached "delete worker" timeout (provisioner.delete handle) script guards w w' r →
    Runs w w' (.delete handle r)
  | cleanup {a : NamedAction A} {r : Except Fault Unit} :
    Cleanup.Detached "cleanup" timeout (fun s => (Action.cleanup s).evalFrom a.action) script
      guards w w' r →
    Runs w w' (.cleanup a r)

/-- These turns are taken one after another and nothing else happens. -/
inductive Turns : World I → List (Turn I A H) → World I → Prop where
  | nil (w : World I) : Turns w [] w
  | cons {w v w' : World I} {t : Turn I A H} {turns : List (Turn I A H)} :
    t.Runs scope provisioner timeout script guards w v → Turns v turns w' →
    Turns w (t :: turns) w'

end Runs

section Turns

variable [Action I A] {scope : Scope} {provisioner : Provisioner I H} {timeout : Nat}
  {script : Script I} {guards : List Guard} {w v w' : World I} {t : Turn I A H}
  {turns later : List (Turn I A H)}

theorem Turns.one (h : t.Runs scope provisioner timeout script guards w w') :
    Turns scope provisioner timeout script guards w [t] w' :=
  .cons h (.nil w')

theorem Turns.append (h : Turns scope provisioner timeout script guards w turns v)
    (h' : Turns scope provisioner timeout script guards v later w') :
    Turns scope provisioner timeout script guards w (turns ++ later) w' := by
  induction h with
  | nil _ => exact h'
  | cons first _ ih => exact .cons first (ih h')

end Turns

/-! ## Failures -/

/-- What has failed and who is to blame for it. -/
structure Failure where
  phase : Phase
  name : String
  source : Fault

namespace Failure

def fault (x : Failure) : Fault := .phase x.phase x.name x.source

theorem single (x : Failure) : x.fault.IsSingle := rfl

end Failure

/-- A worker without a client is of no use. -/
def Turn.failure? (provisioner : Provisioner I H) : Turn I A H → Option Failure
  | .validate a (.error e) => some ⟨.validate, a.name, e⟩
  | .setup a _ (.error e) _ _ => some ⟨.setup, a.name, e⟩
  | .provision _ (.error e) => some ⟨.execute, workerAction, e⟩
  | .provision _ (.ok handle) =>
    if (provisioner.client handle).isSome then none
    else some ⟨.execute, workerAction, .plain "provisioned worker has no client"⟩
  | .execute a _ (.error e) _ => some ⟨.execute, a.name, e⟩
  | .close _ (.error e) => some ⟨.cleanup, workerAction, .context "close worker client" e⟩
  | .delete _ (.error e) => some ⟨.cleanup, workerAction, .context "delete worker" e⟩
  | .cleanup a (.error e) => some ⟨.cleanup, a.name, e⟩
  | _ => none

def failures (provisioner : Provisioner I H) (turns : List (Turn I A H)) : List Failure :=
  turns.filterMap (Turn.failure? provisioner)

/-- The result tells of the failures of the turns, in their order, and of nothing else. -/
def Reports {α : Type} (provisioner : Provisioner I H) (result : Except Fault α)
    (turns : List (Turn I A H)) : Prop :=
  Fault.Tells result ((failures provisioner turns).map Failure.fault)

section Reports

variable {α : Type} {provisioner : Provisioner I H} {result : Except Fault α}
  {turns later : List (Turn I A H)} {t : Turn I A H} {x : Failure}

@[simp] theorem failures_nil : failures provisioner ([] : List (Turn I A H)) = [] := rfl

@[simp] theorem failures_append :
    failures provisioner (turns ++ later) =
      failures provisioner turns ++ failures provisioner later :=
  List.filterMap_append

theorem failures_of_some (h : t.failure? provisioner = some x) :
    failures provisioner (t :: turns) = x :: failures provisioner turns :=
  List.filterMap_cons_some h

theorem failures_of_none (h : t.failure? provisioner = none) :
    failures provisioner (t :: turns) = failures provisioner turns :=
  List.filterMap_cons_none h

namespace Reports

theorem ok (a : α) : Reports provisioner (.ok a) ([] : List (Turn I A H)) := Fault.Tells.ok a

theorem error (failed : t.failure? provisioner = some x) :
    Reports provisioner (.error x.fault : Except Fault α) [t] := by
  rw [Reports, failures_of_some failed]
  exact Fault.Tells.error x.single

theorem of_error {γ : Type} {fault : Fault}
    (h : Reports provisioner (.error fault : Except Fault γ) turns) :
    Reports provisioner (.error fault : Except Fault α) turns :=
  ⟨h.single, h.told⟩

theorem cons (h : Reports provisioner result turns) (passed : t.failure? provisioner = none) :
    Reports provisioner result (t :: turns) := by
  rwa [Reports, failures_of_none passed]

/-- What has gone well before makes no difference. -/
theorem after {γ : Type} {a : γ} (h : Reports provisioner result later)
    (before : Reports provisioner (.ok a) turns) :
    Reports provisioner result (turns ++ later) := by
  have none := List.map_eq_nil_iff.mp (before.ok_iff.mp ⟨a, rfl⟩)
  rwa [Reports, failures_append, none, List.nil_append]

theorem fold (h : Reports provisioner result turns) (failed : t.failure? provisioner = some x) :
    Reports provisioner (Fault.foldInto result x.fault) (turns ++ [t]) := by
  rw [Reports, failures_append, failures_of_some failed, List.map_append]
  exact Fault.Tells.foldInto h x.single

theorem pass (h : Reports provisioner result turns) (passed : t.failure? provisioner = none) :
    Reports provisioner result (turns ++ [t]) := by
  rwa [Reports, failures_append, failures_of_none passed, failures_nil, List.append_nil]

theorem foldWorker {γ : Type} {r : Except Fault γ} {doing : String}
    {result : Except Fault Unit} (h : Reports provisioner result turns)
    (passed : ∀ a, r = .ok a → t.failure? provisioner = none)
    (failed : ∀ e, r = .error e →
      t.failure? provisioner = some ⟨.cleanup, workerAction, .context doing e⟩) :
    Reports provisioner (Stage.foldWorker result (r.mapError (Fault.context doing)))
      (turns ++ [t]) := by
  cases r with
  | ok a => exact h.pass (passed a rfl)
  | error e => exact h.fold (failed e rfl)

theorem succeeds {r : Except Fault Unit} (h : Reports provisioner r turns) :
    r = .ok () ↔ ∀ t ∈ turns, t.failure? provisioner = none := by
  rw [← List.filterMap_eq_nil_iff, ← failures, ← List.map_eq_nil_iff, ← h.ok_iff]
  exact ⟨fun ok => ⟨(), ok⟩, fun ⟨_, ok⟩ => ok⟩

theorem blames {f : Fault} (h : Reports provisioner (.error f : Except Fault α) turns) :
    f.failedPhase = (failures provisioner turns).head?.map fun x => (x.phase, x.name) := by
  have named : ∀ e ∈ (failures provisioner turns).map Failure.fault, e.failedPhase ≠ none := by
    intro e mem
    obtain ⟨x, -, rfl⟩ := List.mem_map.mp mem
    exact Option.some_ne_none _
  rw [Fault.Tells.failedPhase h named, List.head?_map]
  cases (failures provisioner turns).head? <;> rfl

end Reports

end Reports

end Stage

end Recovery
