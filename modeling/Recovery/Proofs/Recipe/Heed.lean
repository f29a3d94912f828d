import Recovery.Proofs.Timed.Duration
import Recovery.Recipe.Recipe
import Recovery.Volume.Store
/-!
# What is undone heeds its guards

Deleting parts, closing a client and cleaning up after a recipe consist of calls and scopes, so that
the guard of the scope around them ends them wherever they hang.
-/
set_option autoImplicit false

namespace Recovery

variable {Other : Interface}

/-! ## Parts -/

namespace Part

theorem heeds_delete (scope : Scope) (ns : String) (p : Part) :
    (p.delete scope ns : Saga (Cloud Other) Unit).run.Heeds :=
  (scope.heeds_run _ (Saga.heeds_call (I := Cloud Other) (.delete p.kind ns p.name))).map _

theorem heeds_deleteEach (scope : Scope) (ns : String) (parts : List Part) :
    (deleteEach scope ns parts : Task (Cloud Other) _).Heeds := by
  induction parts with
  | nil => exact .pure _
  | cons p parts ih =>
    refine (heeds_delete scope ns p).bind fun result => ih.bind fun _ => ?_
    cases result <;> exact .pure _

theorem heeds_deleteAll (scope : Scope) (ns : String) :
    (deleteAll scope ns : Recorded (List Part) (Cloud Other) Unit).Heeds :=
  fun parts => (heeds_deleteEach scope ns parts).bind fun _ => .pure _

end Part

/-- A deletion in a cleanup that has no time of its own ends with its caller. -/
theorem Cloud.heeds_deletion (message : String) (kind : Kind) (ns name : String) (scope : Scope) :
    ((deletion message kind ns name).run scope : Saga (Cloud Other) Unit).run.Heeds := by
  have operates : (deletion message kind ns name : Cleanup (Cloud Other) Unit).operation =
      .inr fun _ => delete kind ns name := rfl
  rw [Cleanup.run_eq operates]
  refine (Task.Heeds.of_immediate (Task.immediate_onClock _)).bind fun s => ?_
  refine (s.heeds_run _ ?_).bind fun _ => .pure _
  exact Saga.heeds_call (I := Cloud Other) (.delete kind ns name)

/-! ## Workers -/

namespace Worker

theorem heeds_closeClient : (closeClient : Recorded Worker (Cloud Other) Unit).Heeds := by
  refine Recorded.heeds_bind Recorded.heeds_get fun w => ?_
  split
  · exact Recorded.heeds_bind
      (Recorded.heeds_ofSaga (Saga.heeds_call (I := Cloud Other) .closeClient))
      fun _ => Recorded.heeds_set _
  · exact Recorded.heeds_pure _

theorem heeds_delete (scope : Scope) : (delete scope : Recorded Worker (Cloud Other) Unit).Heeds :=
  fun worker => (heeds_closeClient worker).bind fun _ =>
    (Part.heeds_deleteEach scope _ _).bind fun _ => .pure _

end Worker

/-! ## Recipes -/

theorem ClusterBackup.heeds_cleanup (scope : Scope) :
    (cleanup scope : Recorded ClusterBackup (Cloud Other) Unit).Heeds := by
  refine Recorded.heeds_bind Recorded.heeds_get fun b => ?_
  cases b.clone with
  | none => exact Recorded.heeds_pure _
  | some clone =>
    refine Recorded.heeds_bind (Recorded.heeds_zoom ?_) fun _ => Recorded.heeds_set _
    exact Recorded.heeds_bind Recorded.heeds_get fun clone =>
      Recorded.heeds_zoom (Part.heeds_deleteAll scope clone.ns)

theorem ClusterRestore.heeds_cleanup (scope : Scope) :
    (cleanup scope : Recorded ClusterRestore (Cloud Other) Unit).Heeds := by
  refine Recorded.heeds_bind Recorded.heeds_get fun r => ?_
  cases r.certificate with
  | none => exact Recorded.heeds_pure _
  | some name =>
    exact Recorded.heeds_bind (Recorded.heeds_ofSaga (Cloud.heeds_deletion _ _ _ _ scope))
      fun _ => Recorded.heeds_set _

theorem VolumeBackup.heeds_cleanup (scope : Scope) :
    (cleanup scope : Recorded VolumeBackup (Cloud Other) Unit).Heeds := by
  refine Recorded.heeds_bind Recorded.heeds_get fun b => ?_
  cases b.clone with
  | none => exact Recorded.heeds_pure _
  | some clone =>
    refine Recorded.heeds_bind (Recorded.heeds_zoom ?_) fun _ => Recorded.heeds_set _
    exact Recorded.heeds_bind Recorded.heeds_get fun clone =>
      Recorded.heeds_zoom (Part.heeds_deleteAll scope clone.ns)

theorem Recipe.heeds_cleanup (scope : Scope) :
    (Action.cleanup scope : Recorded Recipe (Cloud Other) Unit).Heeds := by
  refine Recorded.heeds_bind Recorded.heeds_get fun a => ?_
  cases a with
  | clusterBackup b => exact Recorded.heeds_zoom (ClusterBackup.heeds_cleanup scope)
  | clusterRestore r => exact Recorded.heeds_zoom (ClusterRestore.heeds_cleanup scope)
  | volumeBackup b => exact Recorded.heeds_zoom (VolumeBackup.heeds_cleanup scope)
  | objectStorage s => exact Recorded.heeds_zoom (Recorded.heeds_pure _)

end Recovery
