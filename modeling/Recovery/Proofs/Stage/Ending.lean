import Recovery.Proofs.Clone.Rollback
import Recovery.Proofs.Stage.Run
import Recovery.Proofs.Stage.Teardown
/-!
# Everything ends soon after its work

Nothing that is taken down, cleaned up or rolled back can keep a run from ending: once the last call
that goes forward has returned, it takes no longer than the times of the cleanups that are due.
-/
set_option autoImplicit false

namespace Recovery

variable {Other : Interface}

/-- The worker and the recipes of this library can be interrupted. -/
theorem Worker.interruptible :
    Stage.Interruptible (A := Recipe) (Worker.provisioner : Provisioner (Cloud Other) Worker) where
  close worker := (Worker.heeds_closeClient worker).bind fun _ => .pure _
  delete worker scope := Recorded.heeds_evalFrom (Worker.heeds_delete scope) worker
  cleanup scope := Recipe.heeds_cleanup scope

namespace Stage

end Stage

end Recovery
