import Recovery.Proofs.Clone.Account
import Recovery.Proofs.Recipe.Heed
/-!
# Work and what follows it

Clones, workers and snapshots are made by work that goes forward and deletes nothing. What follows
it settles the backup and takes back what was made, in cleanups with a time of their own. The two
are taken apart here, so that it can be said how long the latter lasts.
-/
set_option autoImplicit false

namespace Recovery

section Follow

variable {I : Interface} {α β : Type}

end Follow

variable {Other : Interface}

/-- Deletes nothing and closes no client. -/
def CloudCall.Forward : CloudCall Other → Prop
  | .delete _ _ _ | .closeClient => False
  | _ => True

theorem CloudCall.Asks.forward {c : CloudCall Other} (h : c.Asks) : c.Forward := by
  cases c <;> trivial

/-- Makes calls that go forward only. -/
abbrev Cloud.Forward {α : Type} (task : Task (Cloud Other) α) : Prop :=
  Task.Only CloudCall.Forward task

/-! ## Which calls are made -/

variable {p : (Cloud Other).Call → Prop} (asks : ∀ c : CloudCall Other, c.Asks → p c)
  (creates : ∀ ns object, p (CloudCall.create ns object))
  (deletes : ∀ kind ns name, p (CloudCall.delete kind ns name))

theorem Cloud.only_make {ns : String} {object : Object} (created : p (.create ns object)) :
    Task.Only p (make ns object : Saga (Cloud Other) Unit).run :=
  Saga.only_during _ ((Task.only_call (I := Cloud Other) (.create ns object)).mono
    fun _ same => same ▸ created)

theorem Part.only_make {ns : String} {object : Object} (created : p (.create ns object))
    (place : Part → List Part → List Part) :
    (make ns object place : Recorded (List Part) (Cloud Other) Unit).Only p :=
  Recorded.only_bind (Recorded.only_ofSaga (Cloud.only_make created)) fun _ =>
    Recorded.only_modify _

include asks in
theorem Part.only_await (scope : Scope) (ns : String) (awaited : Awaited) (timeout : Nat) :
    (await scope ns awaited timeout : Recorded (List Part) (Cloud Other) _).Only p :=
  Recorded.only_ofSaga ((Cloud.asks_awaitMade scope ns awaited timeout).mono asks)

include deletes in
theorem Cloud.only_deletion (message : String) (kind : Kind) (ns name : String) :
    (deletion message kind ns name : Cleanup (Cloud Other) Unit).Only p :=
  (Cleanup.Only.ofScope fun _ => (Task.only_call (I := Cloud Other) (.delete kind ns name)).mono
    fun _ same => same ▸ deletes kind ns name).withContext message

include deletes in
theorem Part.only_deleteEach (scope : Scope) (ns : String) (parts : List Part) :
    Task.Only p (deleteEach scope ns parts : Task (Cloud Other) _) := by
  induction parts with
  | nil => exact .pure _
  | cons part parts ih =>
    have first : Task.Only p (part.delete scope ns : Saga (Cloud Other) Unit).run :=
      (only_delete part).mono fun _ same => same ▸ deletes part.kind ns part.name
    refine first.bind fun result => ih.bind fun _ => ?_
    cases result <;> exact .pure _

include deletes in
theorem Part.only_deleteAll (scope : Scope) (ns : String) :
    (deleteAll scope ns : Recorded (List Part) (Cloud Other) Unit).Only p :=
  fun parts => (only_deleteEach deletes scope ns parts).bind fun _ => .pure _

include deletes in
theorem Part.only_discard (ns : String) (parts : List Part) (message : String)
    (milliseconds : Nat) :
    (((discard ns parts : Cleanup (Cloud Other) Unit).withContext message).withTimeout
      milliseconds).Only p :=
  ((Cleanup.Only.ofScope fun s => Recorded.only_evalFrom (only_deleteAll deletes s ns)
    parts).withContext message).withTimeout milliseconds

/-! ## Clones of clusters -/

namespace ClusterCloning

/-- Everything up to the clone, which is ready or has failed. -/
def work (scope : Scope) (o : ClusterCloning) :
    Saga (Cloud Other) (Except Fault Unit × List Part) := do
  Saga.ofResult o.validate
  Cloud.awaitIssuer scope o.ns o.issuer o.timeouts.resourceReady
  let source ← o.findSource
  Cloud.make o.ns (.backup o.backup)
  Saga.ofTask ((build scope o source).runFrom [])

def finish (scope : Scope) (o : ClusterCloning) (built : Except Fault Unit × List Part) :
    Saga (Cloud Other) ClonedCluster := do
  let _ ← ExceptT.mk (settle scope o built.1 built.2)
  return ⟨o.ns, o.clone, built.2⟩

theorem run_eq (scope : Scope) (o : ClusterCloning) :
    (run scope o : Saga (Cloud Other) ClonedCluster) = work scope o >>= finish scope o := by
  simp only [work, bind_assoc]
  rfl

/-- The objects that a clone is made of, and their namespace. -/
def creations (o : ClusterCloning) (source : Cluster) : List (String × Object) :=
  [(o.ns, .backup o.backup), (o.ns, .certificate o.serverCertificate),
    (o.ns, .certificate o.clientCertificate), (o.ns, .certificate o.replicationCertificate),
    (o.ns, .cluster (o.cluster source))]

include asks in
theorem only_issue (scope : Scope) {o : ClusterCloning} {certificate : Certificate}
    (created : p (CloudCall.create o.ns (.certificate certificate))) :
    (issue scope o certificate : Recorded _ (Cloud Other) _).Only p :=
  Recorded.only_bind (Part.only_make created _) fun _ => Part.only_await asks _ _ _ _

section Creations

variable {o : ClusterCloning}
  (creations : ∀ source, ∀ made ∈ o.creations source, p (CloudCall.create made.1 made.2))

include asks creations in
theorem only_build (scope : Scope) (source : Cluster) :
    (build scope o source : Recorded _ (Cloud Other) _).Only p := by
  have creations := creations source
  simp only [ClusterCloning.creations, List.forall_mem_cons] at creations
  obtain ⟨-, server, client, replication, cluster, -⟩ := creations
  exact Recorded.only_bind (Part.only_await asks _ _ _ _) fun _ =>
    Recorded.only_bind (only_issue asks scope server) fun _ =>
    Recorded.only_bind (only_issue asks scope client) fun _ =>
    Recorded.only_bind (only_issue asks scope replication) fun _ =>
    Recorded.only_bind (Part.only_make cluster _) fun _ => Part.only_await asks _ _ _ _

include asks creations in
theorem only_work (scope : Scope) : Task.Only p (work scope o).run :=
  Saga.only_bind (.pure _) fun _ =>
  Saga.only_bind ((Cloud.asks_awaitIssuer _ _ _ _).mono asks) fun _ =>
  Saga.only_bind (o.asks_findSource.mono asks) fun source =>
  Saga.only_bind (Cloud.only_make (creations source _ List.mem_cons_self)) fun _ =>
  Saga.only_ofTask (only_build asks creations scope source [])

end Creations

include deletes in
theorem only_settle (scope : Scope) (o : ClusterCloning) (built : Except Fault Unit)
    (parts : List Part) : Task.Only p (settle scope o built parts) := by
  have clone (result : Except Fault Unit) : Task.Only p ((o.discard parts).foldInto scope result) :=
    (Part.only_discard deletes _ _ _ _).foldInto scope result
  have backup (result : Except Fault Unit) : Task.Only p (o.discardBackup.foldInto scope result) :=
    ((Cloud.only_deletion deletes _ _ _ _).withTimeout _).foldInto scope result
  cases built with
  | error fault => exact (clone _).bind fun result => backup result
  | ok _ =>
    refine (backup _).bind fun result => ?_
    cases result with
    | ok _ => exact .pure _
    | error fault => exact clone _

include asks deletes in
theorem only_run (scope : Scope) {o : ClusterCloning}
    (creations : ∀ source, ∀ made ∈ o.creations source, p (CloudCall.create made.1 made.2)) :
    Task.Only p (run scope o).run := by
  rw [run_eq]
  exact Saga.only_bind (only_work asks creations scope) fun (built, parts) =>
    Saga.only_bind (only_settle deletes scope o built parts) fun _ => Saga.only_pure _

end ClusterCloning

/-! ## Clones of volumes -/

namespace VolumeCloning

def work (scope : Scope) (o : VolumeCloning) :
    Saga (Cloud Other) (Except Fault Unit × List Part) := do
  match ← Cloud.findClaim o.ns o.source with
  | none =>
    Saga.fail (.precondition (Kind.claim.title o.ns o.source) "source claim does not exist")
  | some source => Saga.ofTask ((build scope o source).runFrom [])

def finish (scope : Scope) (o : VolumeCloning) (built : Except Fault Unit × List Part) :
    Saga (Cloud Other) ClonedVolume :=
  match built.1 with
  | .ok () => return ⟨o.ns, built.2⟩
  | .error fault => ExceptT.mk ((o.discard built.2).foldInto scope (.error fault))

theorem run_eq (scope : Scope) (o : VolumeCloning) :
    (run scope o : Saga (Cloud Other) ClonedVolume) = work scope o >>= finish scope o := by
  simp only [work, bind_assoc]
  refine bind_congr fun found => ?_
  cases found <;> rfl

include asks creates in
theorem only_build (scope : Scope) (o : VolumeCloning) (source : Claim) :
    (build scope o source : Recorded _ (Cloud Other) _).Only p :=
  Recorded.only_bind (Part.only_make (creates _ _) _) fun _ =>
  Recorded.only_bind (Part.only_await asks _ _ _ _) fun _ =>
  Recorded.only_bind (Recorded.only_ofResult _) fun _ => Part.only_make (creates _ _) _

include asks creates in
theorem only_work (scope : Scope) (o : VolumeCloning) : Task.Only p (work scope o).run := by
  refine Saga.only_bind ((Cloud.asks_findClaim _ _).mono asks) fun found => ?_
  cases found with
  | none => exact Saga.only_fail _
  | some source =>
    exact Saga.only_ofTask (only_build asks creates scope o source [])

include asks creates deletes in
theorem only_run (scope : Scope) (o : VolumeCloning) : Task.Only p (run scope o).run := by
  rw [run_eq]
  refine Saga.only_bind (only_work asks creates scope o) fun (built, parts) => ?_
  cases built with
  | ok _ => exact .pure _
  | error fault => exact (Part.only_discard deletes _ _ _ _).foldInto scope _

end VolumeCloning

/-! ## Workers -/

namespace Worker

/-- The name that was drawn, how far its making went and what was made. -/
def work (scope : Scope) (o : WorkerOptions) :
    Saga (Cloud Other) (String × Except Fault String × List Part) := do
  Saga.ofResult o.validate
  let name ← Cloud.freshName o.stem
  let started ← Saga.ofTask ((start scope o name).runFrom [])
  return (name, started)

def finish (scope : Scope) (o : WorkerOptions)
    (made : String × Except Fault String × List Part) : Saga (Cloud Other) Worker :=
  match made.2.1 with
  | .ok host => return ⟨made.1, o.ns, made.2.2, some host, true⟩
  | .error fault => ExceptT.mk ((discard o made.1 made.2.2).foldInto scope (.error fault))

theorem create_eq (scope : Scope) (o : WorkerOptions) :
    (create scope o : Saga (Cloud Other) Worker) = work scope o >>= finish scope o := by
  simp only [work, bind_assoc, pure_bind]
  rfl

include asks creates in
theorem only_start (scope : Scope) (o : WorkerOptions) (name : String) :
    (start scope o name : Recorded _ (Cloud Other) _).Only p :=
  Recorded.only_bind (Part.only_make (creates _ _) _) fun _ =>
  Recorded.only_bind (Part.only_await asks _ _ _ _) fun _ =>
  Recorded.only_bind (Part.only_make (creates _ _) _) fun _ =>
  Recorded.only_bind (Part.only_await asks _ _ _ _) fun _ =>
  Recorded.only_bind (Recorded.only_ofSaga ((Cloud.asks_readService _ _).mono asks)) fun _ =>
  Recorded.only_bind
    (Recorded.only_ofSaga (Scope.only_run _ _ ((Reach.asks_findHost _ _ _).mono asks))) fun _ =>
  Recorded.only_bind
    (Recorded.only_ofSaga (Scope.only_run _ _ ((Cloud.asks_connect _ _).mono asks))) fun _ =>
  Recorded.only_pure _

include asks creates in
theorem only_work (scope : Scope) (o : WorkerOptions) : Task.Only p (work scope o).run :=
  Saga.only_bind (.pure _) fun _ =>
  Saga.only_bind ((Cloud.asks_freshName _).mono asks) fun name =>
  Saga.only_bind (Saga.only_ofTask (only_start asks creates scope o name [])) fun _ =>
  Saga.only_pure _

include asks creates deletes in
theorem only_create (scope : Scope) (o : WorkerOptions) : Task.Only p (create scope o).run := by
  rw [create_eq]
  refine Saga.only_bind (only_work asks creates scope o) fun (name, started, parts) => ?_
  cases started with
  | ok host => exact .pure _
  | error fault => exact (Part.only_discard deletes _ _ _ _).foldInto scope _

end Worker

/-! ## Snapshots of the store -/

namespace Store

/-- The snapshot, which is ready or has failed. -/
def work (scope : Scope) (s : Store) (name : String) :
    Saga (Cloud Other) (Except Fault Snapshot) := do
  match s.claim with
  | none => Saga.fail (.precondition s.title "volume does not exist yet")
  | some claim =>
    Cloud.make s.options.ns (.snapshot (.ofClaim s.options.ns name claim s.options.snapshotClass))
    Saga.ofTask
      (Cloud.awaitMade scope s.options.ns (.snapshot name) s.options.timeouts.snapshotReady).attempt

def finish (scope : Scope) (s : Store) (name : String) (waited : Except Fault Snapshot) :
    Saga (Cloud Other) Snapshot :=
  match waited with
  | .ok ready => return ready
  | .error fault =>
    let deletion : Cleanup (Cloud Other) Unit := (Cloud.deletion
      ("delete " ++ Kind.snapshot.title s.options.ns name) .snapshot s.options.ns
      name).withTimeout s.options.timeouts.cleanup
    ExceptT.mk (deletion.foldInto scope (.error fault))

include asks creates in
theorem only_work (scope : Scope) (s : Store) (name : String) :
    Task.Only p (work scope s name).run := by
  unfold work
  cases s.claim with
  | none => exact Saga.only_fail _
  | some claim =>
    exact Saga.only_bind (Cloud.only_make (creates _ _)) fun _ =>
      Saga.only_ofTask ((Cloud.asks_awaitMade _ _ _ _).mono asks)

end Store

end Recovery
