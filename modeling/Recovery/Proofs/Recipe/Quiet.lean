import Recovery.Proofs.Clone.Rollback
import Recovery.Proofs.Recipe.Account
/-!
# Who makes requests of a worker

Nothing but the execution of an action makes a request: recipes are validated, set up and cleaned up
without one, and so are workers made and taken down.
-/
set_option autoImplicit false

namespace Recovery

variable {Other : Interface} {α : Type}

def CloudCall.isRequest : CloudCall Other → Bool
  | .request _ => true
  | _ => false

/-- Makes no request. -/
def CloudCall.Quiet (c : CloudCall Other) : Prop := c.isRequest = false

theorem CloudCall.Asks.quiet {c : CloudCall Other} (h : c.Asks) : c.Quiet := by
  cases c <;> first | rfl | cases h

namespace Cloud

/-- Makes no request. -/
abbrev Quiet (task : Task (Cloud Other) α) : Prop := Task.Only CloudCall.Quiet task

theorem Asks.quiet {task : Task (Cloud Other) α} (h : Asks task) : Quiet task :=
  h.mono fun _ => CloudCall.Asks.quiet

theorem quiet_call {c : CloudCall Other} (h : c.Quiet) :
    Quiet (@Saga.call (Cloud Other) c).run :=
  (Task.only_call (I := Cloud Other) c).mono fun _ same => same ▸ h

theorem quiet_create (ns : String) (object : Object) :
    (CloudCall.create ns object : CloudCall Other).Quiet := rfl

theorem quiet_delete (kind : Kind) (ns name : String) :
    (CloudCall.delete kind ns name : CloudCall Other).Quiet := rfl

end Cloud

theorem ClusterCloning.quiet_run (scope : Scope) (o : ClusterCloning) :
    Cloud.Quiet (run scope o : Saga (Cloud Other) _).run :=
  only_run (fun _ => CloudCall.Asks.quiet) Cloud.quiet_delete scope
    fun _ _ _ => Cloud.quiet_create _ _

theorem VolumeCloning.quiet_run (scope : Scope) (o : VolumeCloning) :
    Cloud.Quiet (run scope o : Saga (Cloud Other) _).run :=
  only_run (fun _ => CloudCall.Asks.quiet) Cloud.quiet_create Cloud.quiet_delete scope o

/-! ## Workers -/

namespace Worker

theorem quiet_create (scope : Scope) (o : WorkerOptions) :
    Cloud.Quiet (create scope o : Saga (Cloud Other) _).run :=
  only_create (fun _ => CloudCall.Asks.quiet) Cloud.quiet_create Cloud.quiet_delete scope o

theorem quiet_closeClient : (closeClient : Recorded Worker (Cloud Other) Unit).Only
    CloudCall.Quiet := by
  refine Recorded.only_bind Recorded.only_get fun w => ?_
  split
  · exact Recorded.only_bind (Recorded.only_ofSaga (Cloud.quiet_call (c := .closeClient) rfl))
      fun _ => Recorded.only_set _
  · exact Recorded.only_pure _

theorem quiet_delete (scope : Scope) : (delete scope : Recorded Worker (Cloud Other) Unit).Only
    CloudCall.Quiet :=
  fun worker => (quiet_closeClient worker).bind fun _ =>
    (Part.only_deleteEach Cloud.quiet_delete scope _ _).bind fun _ => .pure _

end Worker

/-! ## Recipes -/

theorem Action.only_addVolume {A : Type} {p : (Cloud Other).Call → Prop} (v : WorkerVolume) :
    (Action.addVolume v : Recorded (A × WorkerOptions) (Cloud Other) Unit).Only p :=
  Recorded.only_bind Recorded.only_get fun (_, _) =>
    Recorded.only_bind (Recorded.only_ofResult _) fun _ => Recorded.only_set _

namespace Recipe

theorem quiet_setup (scope : Scope) :
    (Action.setup scope : Recorded (Recipe × WorkerOptions) (Cloud Other) Unit).Only
      CloudCall.Quiet := by
  refine Recorded.only_bind Recorded.only_get fun (a, _) => ?_
  cases a with
  | clusterBackup b =>
    refine Recorded.only_zoom (Recorded.only_bind Recorded.only_get fun (b, options) => ?_)
    refine Recorded.only_bind (Recorded.only_ofSaga (Cloud.asks_freshName _).quiet) fun name => ?_
    refine Recorded.only_bind (Recorded.only_ofSaga (ClusterCloning.quiet_run scope _))
      fun clone => ?_
    exact Recorded.only_bind (Recorded.only_set _) fun _ =>
      Recorded.only_bind (Action.only_addVolume _) fun _ => Action.only_addVolume _
  | clusterRestore r =>
    refine Recorded.only_zoom (Recorded.only_bind Recorded.only_get fun (r, options) => ?_)
    refine Recorded.only_bind (Recorded.only_ofSaga (Cloud.asks_awaitIssuer _ _ _ _).quiet)
      fun _ => ?_
    refine Recorded.only_bind (Recorded.only_ofSaga (Cloud.asks_freshName _).quiet) fun name => ?_
    refine Recorded.only_bind (Recorded.only_ofSaga (Cloud.only_make (Cloud.quiet_create _ _)))
      fun _ => ?_
    refine Recorded.only_bind (Recorded.only_set _) fun _ => ?_
    exact Recorded.only_bind (Recorded.only_ofSaga (Cloud.asks_awaitMade _ _ _ _).quiet) fun _ =>
      Recorded.only_bind (Action.only_addVolume _) fun _ => Action.only_addVolume _
  | volumeBackup b =>
    refine Recorded.only_zoom (Recorded.only_bind Recorded.only_get fun (b, options) => ?_)
    refine Recorded.only_bind (Recorded.only_ofSaga (Cloud.asks_freshName _).quiet) fun name => ?_
    refine Recorded.only_bind (Recorded.only_ofSaga (VolumeCloning.quiet_run scope _))
      fun clone => ?_
    refine Recorded.only_bind (Recorded.only_set _) fun _ => ?_
    cases clone.claimName with
    | none => exact Recorded.only_ofResult _
    | some claim =>
      exact Recorded.only_bind (Action.only_addVolume _) fun _ => Action.only_addVolume _
  | objectStorage s =>
    refine Recorded.only_zoom (Recorded.only_bind Recorded.only_get fun (s, _) => ?_)
    exact Recorded.only_bind (Action.only_addVolume _) fun _ => Action.only_addVolume _

theorem quiet_cleanup (scope : Scope) (a : Recipe) :
    Cloud.Quiet ((Action.cleanup scope : Recorded Recipe (Cloud Other) Unit).evalFrom a).run := by
  rw [evalFrom_cleanup]
  cases a with
  | clusterBackup b =>
    refine Recorded.only_evalFrom (Recorded.only_bind Recorded.only_get fun b => ?_) b
    cases b.clone with
    | none => exact Recorded.only_pure _
    | some clone =>
      refine Recorded.only_bind (Recorded.only_zoom ?_) fun _ => Recorded.only_set _
      exact Recorded.only_bind Recorded.only_get fun clone =>
        Recorded.only_zoom (Part.only_deleteAll Cloud.quiet_delete scope clone.ns)
  | clusterRestore r =>
    refine Recorded.only_evalFrom (Recorded.only_bind Recorded.only_get fun r => ?_) r
    cases r.certificate with
    | none => exact Recorded.only_pure _
    | some name =>
      refine Recorded.only_bind (Recorded.only_ofSaga ?_) fun _ => Recorded.only_set _
      exact (Cloud.only_deletion Cloud.quiet_delete _ _ _ _).run scope
  | volumeBackup b =>
    refine Recorded.only_evalFrom (Recorded.only_bind Recorded.only_get fun b => ?_) b
    cases b.clone with
    | none => exact Recorded.only_pure _
    | some clone =>
      refine Recorded.only_bind (Recorded.only_zoom ?_) fun _ => Recorded.only_set _
      exact Recorded.only_bind Recorded.only_get fun clone =>
        Recorded.only_zoom (Part.only_deleteAll Cloud.quiet_delete scope clone.ns)
  | objectStorage s => exact .pure _

end Recipe

end Recovery
