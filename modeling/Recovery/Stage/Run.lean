import Recovery.Stage.Action
/-!
# Stages

A stage runs a list of actions on one worker. All are validated, then all are set up, then the
worker is provisioned and all are executed; the first failure ends these phases. Whatever has
happened, the worker is taken down and the actions are cleaned up, the last one first, each in a
time of its own. The result tells of every failure by phase and action.
-/
set_option autoImplicit false

namespace Recovery

structure StageOptions where
  worker : WorkerOptions
  /-- Searched after the worker's own. -/
  searchDomains : List String
  /-- Milliseconds for each cleanup. -/
  cleanupTimeout : Nat
deriving Repr, DecidableEq

def workerAction : String := "worker"

def appendNew (xs : List String) : List String → List String
  | [] => xs
  | y :: ys => appendNew (if xs.contains y then xs else xs ++ [y]) ys

def StageOptions.seed (o : StageOptions) : WorkerOptions :=
  { o.worker with searchDomains := appendNew o.worker.searchDomains o.searchDomains }

structure NamedAction (A : Type) where
  name : String
  action : A

namespace Stage

variable {I : Interface} {A H : Type} [Action I A]

def blame {α : Type} (p : Phase) (name : String) (result : Except Fault α) : Except Fault α :=
  result.mapError (Fault.phase p name)

def validateAll (scope : Scope) : List (NamedAction A) → Saga I Unit
  | [] => return ()
  | a :: rest => do
    ExceptT.mk (blame .validate a.name <$> (Action.validate a.action scope).run)
    validateAll scope rest

def setupAll (scope : Scope) :
    List (NamedAction A) → WorkerOptions →
      Task I (Except Fault WorkerOptions × List (NamedAction A))
  | [], worker => return (.ok worker, [])
  | a :: rest, worker => do
    let (result, action, worker) ← (Action.setup scope).runFrom (a.action, worker)
    let a := { a with action }
    match blame .setup a.name result with
    | .error fault => return (.error fault, a :: rest)
    | .ok () =>
      let (result, rest) ← setupAll scope rest worker
      return (result, a :: rest)

def executeAll (scope : Scope) (client : WorkerClient I) :
    List (NamedAction A) → Task I (Except Fault Unit × List (NamedAction A))
  | [] => return (.ok (), [])
  | a :: rest => do
    let (result, action) ← (Action.execute scope client).runFrom a.action
    let a := { a with action }
    match blame .execute a.name result with
    | .error fault => return (.error fault, a :: rest)
    | .ok () =>
      let (result, rest) ← executeAll scope client rest
      return (result, a :: rest)

def executeOn (scope : Scope) (client : Option (WorkerClient I)) (actions : List (NamedAction A)) :
    Task I (Except Fault Unit × List (NamedAction A)) :=
  match client with
  | some client => executeAll scope client actions
  | none =>
    return (blame .execute workerAction (.error (.plain "provisioned worker has no client")),
      actions)

def foldWorker {α : Type} (result : Except Fault Unit) (cleaned : Except Fault α) :
    Except Fault Unit :=
  match blame .cleanup workerAction cleaned with
  | .ok _ => result
  | .error fault => Fault.foldInto result fault

/-- Closes the client of the worker and deletes the worker, whatever becomes of the former. -/
def takeDown (scope : Scope) (provisioner : Provisioner I H) (timeout : Nat) (worker : H)
    (result : Except Fault Unit) : Task I (Except Fault Unit) := do
  let closing := ((Cleanup.of (provisioner.close worker)).withContext
    "close worker client").withTimeout timeout
  let closed ← (closing.run scope).attempt
  let deletion := ((Cleanup.ofScope (provisioner.delete (closed.toOption.getD worker))).withContext
    "delete worker").withTimeout timeout
  let deleted ← (deletion.run scope).attempt
  return foldWorker (foldWorker result closed) deleted

def execute (scope : Scope) (provisioner : Provisioner I H) (timeout : Nat)
    (options : WorkerOptions) (actions : List (NamedAction A)) :
    Task I (Except Fault Unit × List (NamedAction A)) := do
  match blame .execute workerAction (← (provisioner.provision scope options).attempt) with
  | .error fault => return (.error fault, actions)
  | .ok worker =>
    let (result, actions) ← executeOn scope (provisioner.client worker) actions
    let result ← takeDown scope provisioner timeout worker result
    return (result, actions)

def cleanupOf (timeout : Nat) (a : NamedAction A) : Cleanup I Unit :=
  let cleaning := Cleanup.ofScope fun scope => (Action.cleanup scope).evalFrom a.action
  (cleaning.withTimeout timeout).withMapFault (Fault.phase .cleanup a.name)

def cleanups (timeout : Nat) (actions : List (NamedAction A)) : List (Cleanup I Unit) :=
  ((actions.filter fun a => Action.hasCleanup I a.action).map (cleanupOf timeout)).reverse

/-- The phases up to the first failure, and the actions as they are then. -/
def phases (scope : Scope) (provisioner : Provisioner I H) (o : StageOptions)
    (actions : List (NamedAction A)) : Task I (Except Fault Unit × List (NamedAction A)) := do
  match ← (validateAll scope actions).attempt with
  | .error fault => return (.error fault, actions)
  | .ok () =>
    let (result, actions) ← setupAll scope actions o.seed
    match result with
    | .error fault => return (.error fault, actions)
    | .ok worker => execute scope provisioner o.cleanupTimeout worker actions

/-- Runs every phase and then cleans up. -/
def run (scope : Scope) (provisioner : Provisioner I H) (o : StageOptions)
    (actions : List (NamedAction A)) : Saga I Unit := ExceptT.mk do
  let (result, actions) ← phases scope provisioner o actions
  Cleanup.unwind scope result (cleanups o.cleanupTimeout actions)

end Stage

end Recovery
