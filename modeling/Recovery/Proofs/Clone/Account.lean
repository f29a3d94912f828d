import Recovery.Clone.Cluster
import Recovery.Clone.Volume
import Recovery.Proofs.Cloud.Calls
/-!
# What clones owe

A clone that is handed out owes its parts and nothing else; a cloning that fails owes nothing.
-/
set_option autoImplicit false

namespace Recovery

variable {Other : Interface}

namespace ClusterCloning

def backupKey (o : ClusterCloning) : ObjectKey := ⟨.backup, o.ns, o.backupName⟩

theorem settles_discard (o : ClusterCloning) (parts : List Part) :
    (o.discard parts : Cleanup (Cloud Other) Unit).Settles (Part.keys o.ns parts) :=
  Part.settles_discard _ _ _ _

theorem settles_discardBackup (o : ClusterCloning) :
    (o.discardBackup : Cleanup (Cloud Other) Unit).Settles {o.backupKey} :=
  Cleanup.settles_of_undoes
    (undoes_delete (Cleanup.report o.discardBackup) (fun _ => rfl)
      (fun f => Fault.shows_context _ f) .backup o.ns o.backupName) rfl rfl

theorem asks_findSource (o : ClusterCloning) :
    Cloud.Asks (o.findSource : Saga (Cloud Other) _).run := by
  refine Saga.only_bind (Cloud.asks_findCluster _ _) fun found => ?_
  cases found with
  | none => exact Saga.only_fail _
  | some source =>
    dsimp only
    split
    · exact Saga.only_fail _
    · exact Saga.only_bind (.pure _) fun _ => Saga.only_pure _

theorem tracks_issue (scope : Scope) (o : ClusterCloning) (certificate : Certificate) :
    (issue scope o certificate : Recorded (List Part) (Cloud Other) Unit).Tracks
      (Part.keys o.ns) :=
  Recorded.tracks_bind (Part.tracks_make _ _ _ (Part.keys_last o.ns)) fun _ =>
    Part.tracks_await _ _ _ _

theorem tracks_build (scope : Scope) (o : ClusterCloning) (source : Cluster) :
    (build scope o source : Recorded (List Part) (Cloud Other) Unit).Tracks (Part.keys o.ns) :=
  Recorded.tracks_bind (Part.tracks_await _ _ _ _) fun _ =>
  Recorded.tracks_bind (tracks_issue _ _ _) fun _ =>
  Recorded.tracks_bind (tracks_issue _ _ _) fun _ =>
  Recorded.tracks_bind (tracks_issue _ _ _) fun _ =>
  Recorded.tracks_bind (Part.tracks_make _ _ _ (Part.keys_first o.ns)) fun _ =>
  Part.tracks_await _ _ _ _

section Settle

variable {script : Script (Cloud Other)} {base : List (Mark (Cloud Other))}
  {owed : Multiset ObjectKey} {told : List Fault} {guards : List Guard}
  {w w' : World (Cloud Other)}

/-- The parts are owed for only if they are handed out, the backup never. -/
theorem settle_done {scope : Scope} {o : ClusterCloning} {built r : Except Fault Unit}
    {parts : List Part}
    (a : Account script base (Part.keys o.ns parts + ({o.backupKey} + owed))
      (told ++ Fault.told built) w)
    (h : settle scope o built parts script guards w = .done r w') :
    Account script base (Saga.dueFor (fun _ => Part.keys o.ns parts) r + owed)
      (told ++ Fault.told r) w' := by
  cases built with
  | error fault =>
    obtain ⟨result, v, discarded, h⟩ := Task.bind_done.mp h
    have a := (o.settles_discard parts).foldInto a discarded
    obtain ⟨cleaned, -, rfl⟩ := Cleanup.foldInto_done.mp discarded
    cases cleaned <;> exact Saga.discarded o.settles_discardBackup a h
  | ok _ =>
    obtain ⟨result, v, discarded, h⟩ := Task.bind_done.mp h
    rw [add_left_comm] at a
    have a := o.settles_discardBackup.foldInto a discarded
    cases result with
    | ok _ =>
      obtain ⟨rfl, rfl⟩ := Task.pure_done.mp h
      exact a
    | error fault => exact Saga.discarded (o.settles_discard parts) a h

end Settle

/-- A cloned cluster owes the parts it records. -/
theorem owes_run (scope : Scope) (o : ClusterCloning) :
    (run scope o : Saga (Cloud Other) ClonedCluster).Owes fun c => Part.keys c.ns c.parts := by
  refine Saga.owes_bind (.pure _) fun _ => ?_
  refine Saga.owes_bind (Cloud.asks_awaitIssuer _ _ _ _).neutral fun _ => ?_
  refine Saga.owes_bind o.asks_findSource.neutral fun source => ⟨?_⟩
  intro script guards base owed told r w w' a ended
  rcases Saga.bind_done.mp ended with ⟨_, v, made, ended⟩ | ⟨fault, made, rfl⟩
  · have a := (Saga.owes_make o.ns (.backup o.backup)).account a made
    rw [Fault.told_ok, List.append_nil] at a
    obtain ⟨built, parts, v', ran, ended⟩ := Recorded.runFrom_bind_done.mp ended
    have a := (tracks_build scope o source).account_of_empty rfl a ran
    rcases Saga.bind_done.mp ended with ⟨_, v'', settled, ended⟩ | ⟨fault, settled, rfl⟩
    · obtain ⟨rfl, rfl⟩ := Task.pure_done.mp ended
      exact settle_done a settled
    · exact settle_done a settled
  · exact (Saga.owes_make o.ns (.backup o.backup)).account a made

end ClusterCloning

namespace VolumeCloning

theorem settles_discard (o : VolumeCloning) (parts : List Part) :
    (o.discard parts : Cleanup (Cloud Other) Unit).Settles (Part.keys o.ns parts) :=
  Part.settles_discard _ _ _ _

theorem tracks_build (scope : Scope) (o : VolumeCloning) (source : Claim) :
    (build scope o source : Recorded (List Part) (Cloud Other) Unit).Tracks (Part.keys o.ns) :=
  Recorded.tracks_bind (Part.tracks_make _ _ _ (Part.keys_last o.ns)) fun _ =>
  Recorded.tracks_bind (Part.tracks_await _ _ _ _) fun _ =>
  Recorded.tracks_bind (Recorded.tracks_ofResult _) fun _ =>
  Part.tracks_make _ _ _ (Part.keys_first o.ns)

/-- A cloned volume owes the parts it records. -/
theorem owes_run (scope : Scope) (o : VolumeCloning) :
    (run scope o : Saga (Cloud Other) ClonedVolume).Owes fun c => Part.keys c.ns c.parts := by
  refine Saga.owes_bind (Cloud.asks_findClaim _ _).neutral fun found => ⟨?_⟩
  intro script guards base owed told r w w' a ended
  cases found with
  | none =>
    obtain ⟨rfl, rfl⟩ := Task.pure_done.mp ended
    simpa [Saga.dueFor] using a.tell _
  | some source =>
    obtain ⟨built, parts, v, ran, ended⟩ := Recorded.runFrom_bind_done.mp ended
    have a := (tracks_build scope o source).account_of_empty rfl a ran
    cases built with
    | ok _ =>
      obtain ⟨rfl, rfl⟩ := Task.pure_done.mp ended
      exact a
    | error fault => exact Saga.discarded (o.settles_discard parts) a ended

end VolumeCloning

end Recovery
