import Recovery.Rpc.Message
import Recovery.Timed.Recorded
import Recovery.Worker.Options
/-!
# Actions and workers

What a stage needs of the things it runs: actions, which are validated, set up, executed and
cleaned up, and a provisioner, which makes the worker that the actions share.
-/
set_option autoImplicit false

namespace Recovery

structure WorkerClient (I : Interface) where
  request : Rpc.Request → Saga I Unit
  close : Saga I Unit

/-- A type of actions; what an action has done so far is part of its value. -/
class Action (I : Interface) (A : Type) where
  /-- Checks configuration and preconditions and makes nothing. -/
  validate : A → Scope → Saga I Unit
  setup : Scope → Recorded (A × WorkerOptions) I Unit
  execute : Scope → WorkerClient I → Recorded A I Unit
  /-- Whether there is anything that the action would clean up. -/
  hasCleanup : A → Bool
  /-- Deletes what the action has made, in whatever state it is. -/
  cleanup : Scope → Recorded A I Unit

structure Provisioner (I : Interface) (H : Type) where
  provision : Scope → WorkerOptions → Saga I H
  /-- The client, unless it has been closed. -/
  client : H → Option (WorkerClient I)
  /-- The worker once its client is closed. -/
  close : H → Saga I H
  delete : H → Scope → Saga I Unit

def Action.addVolume {A : Type} {I : Interface} (v : WorkerVolume) :
    Recorded (A × WorkerOptions) I Unit := do
  let (action, options) ← get
  let options ← Recorded.ofResult (options.addVolume v)
  set (action, options)

end Recovery
