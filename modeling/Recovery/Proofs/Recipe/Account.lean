import Recovery.Proofs.Clone.Account
import Recovery.Recipe.Recipe
/-!
# What recipes owe

A recipe owes what its setup has made and recorded, from then on until its cleanup, which settles
it whatever becomes of each deletion.
-/
set_option autoImplicit false

namespace Recovery

variable {Other : Interface}

/-! ## Volumes of the worker -/

section AddVolume

variable {A : Type}

theorem Action.tracks_addVolume (due : A → Multiset ObjectKey) (v : WorkerVolume) :
    (Action.addVolume v : Recorded (A × WorkerOptions) (Cloud Other) Unit).Tracks
      fun record => due record.1 := by
  constructor
  intro script guards base owed told r (action, options) record' w w' a ended
  rw [Action.addVolume, Recorded.runFrom_get_bind] at ended
  rcases Recorded.bind_done.mp ended with ⟨options', middle, v, added, ended⟩ | ⟨_, added, rfl⟩
  · obtain ⟨same, rfl⟩ := Task.pure_done.mp added
    obtain ⟨-, rfl⟩ := Prod.mk.inj same
    obtain ⟨same, rfl⟩ := Task.pure_done.mp ended
    cases same
    exact a.tell _
  · obtain ⟨same, rfl⟩ := Task.pure_done.mp added
    obtain ⟨-, rfl⟩ := Prod.mk.inj same
    exact a.tell _

end AddVolume

/-! ## Cleanups -/

section Undoes

variable {report : Fault → Fault}

theorem undoes_nothing : Undoes report (fun _ => (pure () : Saga (Cloud Other) Unit)) 0 where
  done _ a ended := by
    obtain ⟨rfl, rfl⟩ := Task.pure_done.mp ended
    rw [zero_add] at a
    exact a.tell _
  cut _ _ ended := by cases ended

/-- A deletion in a cleanup of its own, which ends with the scope around it. -/
theorem undoes_deletion (keeps : ∀ f, Fault.Covers [f] [report f]) (message : String) (kind : Kind)
    (ns name : String) :
    Undoes report
      (fun scope => ((Cloud.deletion message kind ns name).run scope : Saga (Cloud Other) Unit))
      {⟨kind, ns, name⟩} where
  done sheltered a ended := by
    obtain ⟨s, v, adds, sheltered, -, ran⟩ :=
      Cleanup.ran_of_caller a.rooted sheltered rfl rfl ended
    have a := a.adds adds fun ms books => by rwa [List.append_nil]
    have undoes : Undoes (Fault.context message)
        (fun _ => (Cloud.delete kind ns name : Saga (Cloud Other) Unit)) {⟨kind, ns, name⟩} :=
      undoes_delete (Fault.context message) (fun _ => rfl) (Fault.shows_context message)
        kind ns name
    refine Account.retell ?_ ((Fault.Covers.refl _).append (Fault.covers_mapError keeps _))
    cases ran with
    | through r inside => exact undoes.done sheltered a inside
    | cut why what inside => exact undoes.cut sheltered a inside _
  cut sheltered a ended fault := by
    obtain ⟨s, v, opened, ran⟩ := Cleanup.run_interrupted rfl ended
    obtain ⟨adds, shelters, deadline⟩ := Scope.child_done a.rooted opened
    have ran := ((Scope.run_interrupted (shelters sheltered).isCancelled).mp ran).1
    exact absurd ran (Task.call_ne [s.guard] (adds.shelters _ sheltered) rfl
      fun instant _ => Scope.guard_sooner deadline [] instant)

end Undoes

/-! ## The recipes -/

namespace ClusterBackup

def due (b : ClusterBackup) : Multiset ObjectKey :=
  match b.clone with
  | none => 0
  | some clone => Part.keys clone.ns clone.parts

theorem carries_setup (scope : Scope) (b : ClusterBackup) (options : WorkerOptions)
    (new : b.clone = none) :
    (setup scope : Recorded (ClusterBackup × WorkerOptions) (Cloud Other) Unit).Carries
      (fun record => record.1.due) (b, options) 0 := by
  have empty : b.due = 0 := by rw [due, new]
  refine Recorded.carries_get ?_
  refine Recorded.carries_ofSaga (Saga.owes_neutral (Cloud.asks_freshName _).neutral) empty
    fun name => ?_
  refine Recorded.carries_ofSaga (ClusterCloning.owes_run scope _) empty fun clone => ?_
  refine Recorded.carries_set ?_
  exact (Recorded.tracks_bind (Action.tracks_addVolume due _) fun _ =>
    Action.tracks_addVolume due _).carries _

theorem tracks_execute :
    (execute Cloud.client : Recorded ClusterBackup (Cloud Other) Unit).Tracks due := by
  refine Recorded.tracks_get fun b => ?_
  cases b.clone with
  | none => exact Recorded.tracks_fail _
  | some clone => exact Recorded.tracks_ofSaga (Cloud.neutral_request _)

/-- Where nothing has been made there is nothing to clean up. -/
theorem evalFrom_cleanup_new {b : ClusterBackup} (new : b.clone = none) (scope : Scope) :
    ((cleanup scope).evalFrom b : Saga (Cloud Other) Unit) = pure () := by
  rw [cleanup, Recorded.evalFrom_get_bind]
  simp only [new]
  rfl

theorem undoes_cleanup {report : Fault → Fault} (keeps : ∀ f, Fault.Covers [f] [report f])
    (b : ClusterBackup) :
    Undoes report (fun scope => ((cleanup scope).evalFrom b : Saga (Cloud Other) Unit)) b.due := by
  cases made : b.clone with
  | none =>
    simp only [evalFrom_cleanup_new made, due, made]
    exact undoes_nothing
  | some clone =>
    have deletion (scope : Scope) : ((cleanup scope).evalFrom b : Saga (Cloud Other) Unit) =
        (Part.deleteAll scope clone.ns).evalFrom clone.parts := by
      rw [cleanup, Recorded.evalFrom_get_bind]
      simp only [made]
      rw [Recorded.evalFrom_bind_set, Recorded.evalFrom_zoom, ClonedCluster.delete,
        Recorded.evalFrom_get_bind, Recorded.evalFrom_zoom]
    simp only [deletion, due, made]
    exact Part.undoes_deleteAll keeps clone.ns clone.parts

end ClusterBackup

namespace VolumeBackup

def due (b : VolumeBackup) : Multiset ObjectKey :=
  match b.clone with
  | none => 0
  | some clone => Part.keys clone.ns clone.parts

theorem carries_setup (scope : Scope) (b : VolumeBackup) (options : WorkerOptions)
    (new : b.clone = none) :
    (setup scope : Recorded (VolumeBackup × WorkerOptions) (Cloud Other) Unit).Carries
      (fun record => record.1.due) (b, options) 0 := by
  have empty : b.due = 0 := by rw [due, new]
  refine Recorded.carries_get ?_
  refine Recorded.carries_ofSaga (Saga.owes_neutral (Cloud.asks_freshName _).neutral) empty
    fun name => ?_
  refine Recorded.carries_ofSaga (VolumeCloning.owes_run scope _) empty fun clone => ?_
  refine Recorded.carries_set ?_
  cases clone.claimName with
  | none => exact (Recorded.tracks_fail _).carries _
  | some claim =>
    exact (Recorded.tracks_bind (Action.tracks_addVolume due _) fun _ =>
      Action.tracks_addVolume due _).carries _

theorem tracks_execute :
    (execute Cloud.client : Recorded VolumeBackup (Cloud Other) Unit).Tracks due :=
  Recorded.tracks_get fun _ => Recorded.tracks_ofSaga (Cloud.neutral_request _)

/-- Where nothing has been made there is nothing to clean up. -/
theorem evalFrom_cleanup_new {b : VolumeBackup} (new : b.clone = none) (scope : Scope) :
    ((cleanup scope).evalFrom b : Saga (Cloud Other) Unit) = pure () := by
  rw [cleanup, Recorded.evalFrom_get_bind]
  simp only [new]
  rfl

theorem undoes_cleanup {report : Fault → Fault} (keeps : ∀ f, Fault.Covers [f] [report f])
    (b : VolumeBackup) :
    Undoes report (fun scope => ((cleanup scope).evalFrom b : Saga (Cloud Other) Unit)) b.due := by
  cases made : b.clone with
  | none =>
    simp only [evalFrom_cleanup_new made, due, made]
    exact undoes_nothing
  | some clone =>
    have deletion (scope : Scope) : ((cleanup scope).evalFrom b : Saga (Cloud Other) Unit) =
        (Part.deleteAll scope clone.ns).evalFrom clone.parts := by
      rw [cleanup, Recorded.evalFrom_get_bind]
      simp only [made]
      rw [Recorded.evalFrom_bind_set, Recorded.evalFrom_zoom, ClonedVolume.delete,
        Recorded.evalFrom_get_bind, Recorded.evalFrom_zoom]
    simp only [deletion, due, made]
    exact Part.undoes_deleteAll keeps clone.ns clone.parts

end VolumeBackup

namespace ClusterRestore

def due (r : ClusterRestore) : Multiset ObjectKey :=
  match r.certificate with
  | none => 0
  | some name => {⟨.certificate, r.ns, name⟩}

theorem carries_setup (scope : Scope) (r : ClusterRestore) (options : WorkerOptions)
    (new : r.certificate = none) :
    (setup scope : Recorded (ClusterRestore × WorkerOptions) (Cloud Other) Unit).Carries
      (fun record => record.1.due) (r, options) 0 := by
  have empty : r.due = 0 := by rw [due, new]
  refine Recorded.carries_get ?_
  refine Recorded.carries_ofSaga (Saga.owes_neutral (Cloud.asks_awaitIssuer _ _ _ _).neutral) empty
    fun _ => ?_
  refine Recorded.carries_ofSaga (Saga.owes_neutral (Cloud.asks_freshName _).neutral) empty
    fun name => ?_
  refine Recorded.carries_ofSaga (Saga.owes_make _ _) empty fun _ => ?_
  refine Recorded.carries_set ?_
  exact (Recorded.tracks_bind (Recorded.tracks_ofSaga (Cloud.asks_awaitMade _ _ _ _).neutral)
    fun _ => Recorded.tracks_bind (Action.tracks_addVolume due _) fun _ =>
    Action.tracks_addVolume due _).carries _

theorem tracks_execute :
    (execute Cloud.client : Recorded ClusterRestore (Cloud Other) Unit).Tracks due := by
  refine Recorded.tracks_get fun r => ?_
  cases r.certificate with
  | none => exact Recorded.tracks_fail _
  | some name => exact Recorded.tracks_ofSaga (Cloud.neutral_request _)

/-- Where nothing has been made there is nothing to clean up. -/
theorem evalFrom_cleanup_new {r : ClusterRestore} (new : r.certificate = none) (scope : Scope) :
    ((cleanup scope).evalFrom r : Saga (Cloud Other) Unit) = pure () := by
  rw [cleanup, Recorded.evalFrom_get_bind]
  simp only [new]
  rfl

theorem undoes_cleanup {report : Fault → Fault} (keeps : ∀ f, Fault.Covers [f] [report f])
    (r : ClusterRestore) :
    Undoes report (fun scope => ((cleanup scope).evalFrom r : Saga (Cloud Other) Unit)) r.due := by
  cases made : r.certificate with
  | none =>
    simp only [evalFrom_cleanup_new made, due, made]
    exact undoes_nothing
  | some name =>
    have deletion (scope : Scope) : ((cleanup scope).evalFrom r : Saga (Cloud Other) Unit) =
        (Cloud.deletion "delete restore client certificate" .certificate r.ns name).run scope := by
      rw [cleanup, Recorded.evalFrom_get_bind]
      simp only [made]
      rw [Recorded.evalFrom_bind_set, Recorded.evalFrom_ofSaga]
    simp only [deletion, due, made]
    exact undoes_deletion keeps _ _ _ _

end ClusterRestore

namespace Recipe

def due : Recipe → Multiset ObjectKey
  | .clusterBackup b => b.due
  | .clusterRestore r => r.due
  | .volumeBackup b => b.due
  | .objectStorage _ => 0

/-- As it is before its setup: nothing has been made. -/
def IsNew : Recipe → Prop
  | .clusterBackup b => b.clone = none
  | .clusterRestore r => r.certificate = none
  | .volumeBackup b => b.clone = none
  | .objectStorage _ => True

theorem due_of_isNew {a : Recipe} (new : a.IsNew) : a.due = 0 := by
  cases a with
  | clusterBackup b => rw [due, ClusterBackup.due, show b.clone = none from new]
  | clusterRestore r => rw [due, ClusterRestore.due, show r.certificate = none from new]
  | volumeBackup b => rw [due, VolumeBackup.due, show b.clone = none from new]
  | objectStorage _ => rfl

theorem due_of_not_hasCleanup {a : Recipe} (h : Action.hasCleanup (Cloud Other) a = false) :
    a.due = 0 := by
  cases a with
  | objectStorage _ => rfl
  | _ => cases h

theorem asks_validate (a : Recipe) (scope : Scope) :
    Cloud.Asks (Action.validate a scope : Saga (Cloud Other) Unit).run := by
  have found {α : Type} (r : Option α) (fault : Fault) : Cloud.Asks
      (if r.isNone then Saga.fail fault else pure () : Saga (Cloud Other) Unit).run := by
    split <;> exact .pure _
  cases a with
  | clusterBackup b =>
    exact Saga.only_bind (.pure _) fun _ =>
      Saga.only_bind (Cloud.asks_findCluster _ _) fun r => found r _
  | clusterRestore r =>
    exact Saga.only_bind (.pure _) fun _ =>
      Saga.only_bind (Cloud.asks_findCluster _ _) fun r => found r _
  | volumeBackup b =>
    refine Saga.only_bind (.pure _) fun _ => ?_
    split
    · exact Saga.only_bind (Saga.only_fail _) fun _ =>
        Saga.only_bind (Cloud.asks_findClaim _ _) fun r => found r _
    · exact Saga.only_bind (Cloud.asks_findClaim _ _) fun r => found r _
  | objectStorage s => exact .pure _

theorem carries_setup (scope : Scope) (a : Recipe) (options : WorkerOptions) (new : a.IsNew) :
    (Action.setup scope : Recorded (Recipe × WorkerOptions) (Cloud Other) Unit).Carries
      (fun record => record.1.due) (a, options) 0 := by
  refine Recorded.carries_get ?_
  cases a with
  | clusterBackup b =>
    exact Recorded.carries_zoom (ClusterBackup.carries_setup scope b options new) fun _ => rfl
  | clusterRestore r =>
    exact Recorded.carries_zoom (ClusterRestore.carries_setup scope r options new) fun _ => rfl
  | volumeBackup b =>
    exact Recorded.carries_zoom (VolumeBackup.carries_setup scope b options new) fun _ => rfl
  | objectStorage s =>
    have tracks : (ObjectStorage.setup : Recorded (ObjectStorage × WorkerOptions) (Cloud Other)
        Unit).Tracks fun _ => 0 :=
      Recorded.tracks_get fun _ => Recorded.tracks_bind
        (Action.tracks_addVolume (fun _ => 0) _) fun _ => Action.tracks_addVolume (fun _ => 0) _
    exact Recorded.carries_zoom (tracks.carries (s, options)) fun _ => rfl

theorem carries_execute (scope : Scope) (a : Recipe) :
    (Action.execute scope Cloud.client : Recorded Recipe (Cloud Other) Unit).Carries due a
      a.due := by
  refine Recorded.carries_get ?_
  cases a with
  | clusterBackup b =>
    exact Recorded.carries_zoom (ClusterBackup.tracks_execute.carries b) fun _ => rfl
  | clusterRestore r =>
    exact Recorded.carries_zoom (ClusterRestore.tracks_execute.carries r) fun _ => rfl
  | volumeBackup b =>
    exact Recorded.carries_zoom (VolumeBackup.tracks_execute.carries b) fun _ => rfl
  | objectStorage s =>
    have tracks : (ObjectStorage.execute Cloud.client : Recorded ObjectStorage (Cloud Other)
        Unit).Tracks fun _ => 0 :=
      Recorded.tracks_get fun _ => Recorded.tracks_ofSaga (Cloud.neutral_request _)
    exact Recorded.carries_zoom (tracks.carries s) fun _ => rfl

theorem evalFrom_cleanup (scope : Scope) (a : Recipe) :
    (Action.cleanup scope : Recorded Recipe (Cloud Other) Unit).evalFrom a =
      match a with
      | .clusterBackup b => (ClusterBackup.cleanup scope).evalFrom b
      | .clusterRestore r => (ClusterRestore.cleanup scope).evalFrom r
      | .volumeBackup b => (VolumeBackup.cleanup scope).evalFrom b
      | .objectStorage _ => pure () := by
  refine (Recorded.evalFrom_get_bind _ a).trans ?_
  cases a <;> exact Recorded.evalFrom_zoom _ _ _ _

theorem evalFrom_cleanup_new {a : Recipe} (new : a.IsNew) (scope : Scope) :
    (Action.cleanup scope : Recorded Recipe (Cloud Other) Unit).evalFrom a = pure () := by
  rw [evalFrom_cleanup]
  cases a with
  | clusterBackup b => exact ClusterBackup.evalFrom_cleanup_new new scope
  | clusterRestore r => exact ClusterRestore.evalFrom_cleanup_new new scope
  | volumeBackup b => exact VolumeBackup.evalFrom_cleanup_new new scope
  | objectStorage s => rfl

theorem undoes_cleanup {report : Fault → Fault} (keeps : ∀ f, Fault.Covers [f] [report f])
    (a : Recipe) :
    Undoes report
      (fun scope => (Action.cleanup scope : Recorded Recipe (Cloud Other) Unit).evalFrom a)
      a.due := by
  simp only [evalFrom_cleanup]
  cases a with
  | clusterBackup b => exact ClusterBackup.undoes_cleanup keeps b
  | clusterRestore r => exact ClusterRestore.undoes_cleanup keeps r
  | volumeBackup b => exact VolumeBackup.undoes_cleanup keeps b
  | objectStorage s => exact undoes_nothing

end Recipe

end Recovery
