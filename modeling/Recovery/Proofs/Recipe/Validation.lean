import Recovery.Proofs.Recipe.Account
import Recovery.Proofs.Recipe.Bucket
import Recovery.Proofs.Result
import Recovery.Proofs.Timed.Forecast
/-!
# What the validation of a recipe asks

A recipe that cannot be meant is refused before anything is asked. Any other one is looked at with
one read at most: that of the cluster or the claim that it is about.
-/
set_option autoImplicit false

namespace Recovery

variable {Other : Interface}

/-- Reads a cluster or a claim. -/
inductive CloudCall.Finds : CloudCall Other → Prop where
  | cluster (ns name : String) : Finds (.findCluster ns name)
  | claim (ns name : String) : Finds (.findClaim ns name)

namespace Fault

variable (resource : String) {fields : List (String × String)}

theorem require_eq_ok (filled : "" ∉ fields.map Prod.snd) : require resource fields = .ok () := by
  have none : firstMissing? resource fields = none := by
    refine Option.map_eq_none_iff.mpr (List.find?_eq_none.mpr fun field mem empty => filled ?_)
    exact List.mem_map.mpr ⟨field, mem, by simpa using empty⟩
  rw [require, none]

theorem require_eq_error (missing : "" ∈ fields.map Prod.snd) :
    ∃ why, require resource fields = .error (.validation resource why) := by
  cases found : firstMissing? resource fields with
  | some fault =>
    obtain ⟨⟨field, value⟩, -, rfl⟩ := Option.map_eq_some_iff.mp found
    exact ⟨field ++ " is required", by rw [require, found]⟩
  | none =>
    have full := List.find?_eq_none.mp (Option.map_eq_none_iff.mp found)
    obtain ⟨⟨field, _⟩, mem, rfl⟩ := List.mem_map.mp missing
    exact absurd rfl (full _ mem)

end Fault

theorem Layout.Bucket.ofUrl_eq_error {url : String} (strange : ∀ b : Bucket, ¬ b.Spells url) :
    ∃ why, Bucket.ofUrl url = .error (.validation ("url " ++ url) why) := by
  cases read : Bucket.ofUrl url with
  | ok b => exact absurd (ofUrl_eq_ok_iff.mp read) (strange b)
  | error fault =>
    rw [Bucket.ofUrl] at read
    split at read
    · dsimp only at read
      split at read
      · exact ⟨_, read.symm⟩
      · cases read
    · exact ⟨_, read.symm⟩

namespace Recipe

variable {a : Recipe}

/-! ## What is checked and what is read -/

def configuration : Recipe → String
  | .clusterBackup _ => "ClusterBackupConfig"
  | .clusterRestore _ => "ClusterRestoreConfig"
  | .volumeBackup _ => "VolumeBackupConfig"
  | .objectStorage _ => "ObjectStorageSyncConfig"

/-- What has to be filled in, by the names that users know. -/
def required : Recipe → List (String × String)
  | .clusterBackup b => [("namespace", b.ns), ("cluster", b.cluster), ("DR claim", b.storeClaim),
    ("issuer", b.issuer.name)]
  | .clusterRestore r => [("namespace", r.ns), ("cluster", r.cluster), ("DR claim", r.storeClaim),
    ("issuer", r.issuer.name)]
  | .volumeBackup b => [("namespace", b.ns), ("pvc", b.claim), ("DR claim", b.storeClaim)]
  | .objectStorage s => [("DR claim", s.storeClaim), ("credentials secret", s.credentialsSecret)]

/-- What is checked once everything is filled in. -/
def check : Recipe → Except Fault Unit
  | .clusterBackup _ | .clusterRestore _ => .ok ()
  | .volumeBackup b =>
    if b.claim = b.storeClaim then
      .error (.validation "VolumeBackupConfig" "the DR volume cannot back up itself")
    else .ok ()
  | .objectStorage s =>
    if s.direction = .unspecified then
      .error (.validation "ObjectStorageSyncConfig" "direction must be upload or download")
    else if ObjectStorage.namesParent s.subdirectory then
      .error (.validation "ObjectStorageSyncConfig" "local path must stay inside the DR volume")
    else (fun _ => ()) <$> Layout.Bucket.ofUrl s.remoteUrl

/-- Whether the thing that the recipe is about exists. -/
def look : Recipe → Saga (Cloud Other) Unit
  | .clusterBackup b => Cloud.findCluster b.ns b.cluster >>= fun found =>
    if found.isNone then
      Saga.fail (.precondition (Kind.cluster.title b.ns b.cluster) "cluster does not exist")
    else pure ()
  | .clusterRestore r => Cloud.findCluster r.ns r.cluster >>= fun found =>
    if found.isNone then
      Saga.fail (.precondition (Kind.cluster.title r.ns r.cluster) "restore target does not exist")
    else pure ()
  | .volumeBackup b => Cloud.findClaim b.ns b.claim >>= fun found =>
    if found.isNone then
      Saga.fail (.precondition (Kind.claim.title b.ns b.claim) "claim does not exist")
    else pure ()
  | .objectStorage _ => pure ()

theorem check_objectStorage (s : ObjectStorage) :
    s.check = Fault.require (objectStorage s).configuration (objectStorage s).required >>= fun _ =>
      (objectStorage s).check := by
  rw [ObjectStorage.check]
  refine bind_congr fun _ => ?_
  simp only [check]
  by_cases direction : s.direction = .unspecified
  · simp only [direction, if_true]
    rfl
  by_cases parent : ObjectStorage.namesParent s.subdirectory = true
  · simp only [direction, parent, if_true, if_false]
    rfl
  simp only [direction, parent, if_false, Bool.false_eq_true]
  rfl

theorem ofResult_bind {I : Interface} {α β : Type} (result : Except Fault α)
    (next : α → Except Fault β) :
    (Saga.ofResult (result >>= next) : Saga I β) =
      Saga.ofResult result >>= fun a => Saga.ofResult (next a) := by
  cases result <;> rfl

/-- To validate a recipe is to check it and then to look. -/
theorem validate_eq (a : Recipe) (scope : Scope) :
    (Action.validate a scope : Saga (Cloud Other) Unit) =
      Saga.ofResult (Fault.require a.configuration a.required >>= fun _ => a.check) >>= fun _ =>
        a.look := by
  rw [ofResult_bind, bind_assoc]
  cases a with
  | clusterBackup b => rfl
  | clusterRestore r => rfl
  | volumeBackup b =>
    show VolumeBackup.validate b = _
    refine bind_congr fun _ => ?_
    by_cases own : b.claim = b.storeClaim
    · simp only [check, own, if_true]
      rfl
    · simp only [check, own, if_false]
      rfl
  | objectStorage s =>
    show Saga.ofResult s.check = _
    rw [check_objectStorage, ofResult_bind]
    exact bind_congr fun _ => (bind_pure _).symm

/-! ## Malformed recipes -/

/-- What is wrong with a recipe whatever there is in the cloud. -/
inductive Malformed : Recipe → Prop where
  | missing {a : Recipe} : "" ∈ a.required.map Prod.snd → Malformed a
  | ownStore {b : VolumeBackup} : b.claim = b.storeClaim → Malformed (.volumeBackup b)
  | direction {s : ObjectStorage} : s.direction = .unspecified → Malformed (.objectStorage s)
  | path {s : ObjectStorage} : ['.', '.'] ∈ Layout.segments s.subdirectory.toList →
    Malformed (.objectStorage s)
  | url {s : ObjectStorage} : (∀ b : Layout.Bucket, ¬ b.Spells s.remoteUrl) →
    Malformed (.objectStorage s)

theorem check_wellformed (h : ¬ a.Malformed) : a.check = .ok () := by
  cases a with
  | clusterBackup b => rfl
  | clusterRestore r => rfl
  | volumeBackup b => exact if_neg fun own => h (.ownStore own)
  | objectStorage s =>
    obtain ⟨b, spells⟩ : ∃ b : Layout.Bucket, b.Spells s.remoteUrl := by
      by_contra strange
      exact h (.url (not_exists.mp strange))
    have parent : ObjectStorage.namesParent s.subdirectory ≠ true :=
      fun names => h (.path (List.contains_iff_mem.mp names))
    rw [check, if_neg fun direction => h (.direction direction), if_neg parent,
      Layout.ofUrl_eq_ok_iff.mpr spells]
    rfl

theorem check_malformed (filled : "" ∉ a.required.map Prod.snd) (h : a.Malformed) :
    ∃ what why, a.check = .error (.validation what why) := by
  cases h with
  | missing h => exact absurd h filled
  | ownStore own => exact ⟨_, _, if_pos own⟩
  | direction unspecified => exact ⟨_, _, if_pos unspecified⟩
  | path parent =>
    rw [check]
    split
    · exact ⟨_, _, rfl⟩
    · exact ⟨_, _, if_pos (List.contains_iff_mem.mpr parent)⟩
  | url strange =>
    rw [check]
    split
    · exact ⟨_, _, rfl⟩
    split
    · exact ⟨_, _, rfl⟩
    · obtain ⟨why, refused⟩ := Layout.Bucket.ofUrl_eq_error strange
      exact ⟨_, why, by rw [refused]; rfl⟩

/-- A malformed recipe is refused without a look at the cloud. -/
theorem validate_malformed (Other : Interface) (h : a.Malformed) (scope : Scope) :
    ∃ what why, (Action.validate a scope : Saga (Cloud Other) Unit) =
      Saga.fail (.validation what why) := by
  rw [validate_eq]
  by_cases missing : "" ∈ a.required.map Prod.snd
  · obtain ⟨why, refused⟩ := Fault.require_eq_error a.configuration missing
    exact ⟨_, why, by rw [refused]; rfl⟩
  · obtain ⟨what, why, refused⟩ := check_malformed missing h
    exact ⟨what, why, by rw [Fault.require_eq_ok _ missing, ok_bind, refused]; rfl⟩

/-- Of any other one all that matters is what the look finds. -/
theorem validate_wellformed (h : ¬ a.Malformed) (scope : Scope) :
    (Action.validate a scope : Saga (Cloud Other) Unit) = a.look := by
  rw [validate_eq, Fault.require_eq_ok _ fun missing => h (.missing missing), ok_bind,
    check_wellformed h]
  rfl

/-! ## What is asked -/

/-- What is read to see whether the thing that a recipe is about exists. -/
def lookup? : Recipe → Option (Cloud Other).Call
  | .clusterBackup b => some (.findCluster b.ns b.cluster)
  | .clusterRestore r => some (.findCluster r.ns r.cluster)
  | .volumeBackup b => some (.findClaim b.ns b.claim)
  | .objectStorage _ => none

theorem finds_lookup {c : (Cloud Other).Call} (h : c ∈ a.lookup?) : CloudCall.Finds c := by
  cases a with
  | clusterBackup b => exact Option.some.inj h ▸ .cluster _ _
  | clusterRestore r => exact Option.some.inj h ▸ .cluster _ _
  | volumeBackup b => exact Option.some.inj h ▸ .claim _ _
  | objectStorage s => cases h

section Done

variable {script : Script (Cloud Other)} {guards : List Guard} {w w' : World (Cloud Other)}
  {r : Except Fault Unit}

theorem find_done {c : (Cloud Other).Call} {absent : (Cloud Other).Reply c → Bool} {fault : Fault}
    (ended : (Saga.call c >>= fun found =>
      if absent found then Saga.fail fault else pure ()).run script guards w = .done r w') :
    w'.asked id = w.asked id ++ [c] := by
  have asked {v : World (Cloud Other)} {result : Except Fault ((Cloud Other).Reply c)}
      (called : (Saga.call c).run script guards w = .done result v) :
      v.asked id = w.asked id ++ [c] := (Task.call_done called).asked id
  rcases Saga.bind_done.mp ended with ⟨found, v, called, rest⟩ | ⟨_, called, rfl⟩
  · have same : v = w' := by
      split at rest <;> exact (Task.pure_done.mp rest).2
    exact same ▸ asked called
  · exact asked called

theorem look_asked (ended : (a.look : Saga (Cloud Other) Unit).run script guards w = .done r w') :
    w'.asked id = w.asked id ++ a.lookup?.toList := by
  cases a with
  | clusterBackup b => exact find_done ended
  | clusterRestore b => exact find_done ended
  | volumeBackup b => exact find_done ended
  | objectStorage s =>
    obtain ⟨-, rfl⟩ := Task.pure_done.mp ended
    exact (List.append_nil _).symm

theorem validate_ok {scope : Scope}
    (ended : (Action.validate a scope : Saga (Cloud Other) Unit).run script guards w =
      .done (.ok ()) w') : w'.asked id = w.asked id ++ a.lookup?.toList := by
  by_cases malformed : a.Malformed
  · obtain ⟨what, why, refused⟩ := validate_malformed Other malformed scope
    rw [refused] at ended
    cases ended
  · rw [validate_wellformed malformed] at ended
    exact look_asked ended

theorem validate_error {scope : Scope} {fault : Fault}
    (ended : (Action.validate a scope : Saga (Cloud Other) Unit).run script guards w =
      .done (.error fault) w') :
    a.Malformed ∧ w' = w ∨ ¬ a.Malformed ∧ w'.asked id = w.asked id ++ a.lookup?.toList := by
  by_cases malformed : a.Malformed
  · obtain ⟨what, why, refused⟩ := validate_malformed Other malformed scope
    rw [refused] at ended
    exact .inl ⟨malformed, (Task.pure_done.mp ended).2.symm⟩
  · rw [validate_wellformed malformed] at ended
    exact .inr ⟨malformed, look_asked ended⟩

end Done

end Recipe

end Recovery
