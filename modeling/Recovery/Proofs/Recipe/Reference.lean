import Recovery.Proofs.Clone.Creation
import Recovery.Proofs.Worker.Volumes
/-!
# What requests refer to

The setup of a recipe makes objects and mounts volumes; its execution asks the worker for something
that refers to them by name and by path. The request names what was made, and its paths lead to
where that is mounted.
-/
set_option autoImplicit false

namespace Recovery

variable {Other : Interface}

/-! ## Agreement -/

/-- The path leads into the volume of this claim. -/
def WorkerOptions.Stores (o : WorkerOptions) (claim path : String) : Prop :=
  ∃ v, o.Mounts v ∧ v.source = .claim claim ∧ v.Reaches path

/-- All files are those of this secret, of which the worker can only read. -/
def Rpc.PostgresTls.ReadsFrom (tls : Rpc.PostgresTls) (o : WorkerOptions) (secret : String) :
    Prop :=
  ∃ v, o.Mounts v ∧ v.readOnly = true ∧ v.source = .secret secret ∧
    v.Holds tls.clientCertPath ∧ v.Holds tls.clientKeyPath ∧ v.Holds tls.caCertPath

/-- The worker connects as the user that the certificate is issued to. -/
structure Rpc.PostgresTarget.ActsAs (target : Rpc.PostgresTarget) (o : WorkerOptions)
    (certificate : Certificate) : Prop where
  username : certificate.spec.commonName = some target.username
  tls : ∃ tls, target.tls = some tls ∧ tls.ReadsFrom o certificate.spec.secretName

/-- The clone uses the certificates that were made for it, is recovered from the backup, and is what
the dump is taken of. -/
structure ClusterBackup.Refers (b : ClusterBackup) (o : WorkerOptions) (backup : Backup)
    (server client replication : Certificate) (cluster : Cluster) (request : Rpc.DumpPostgres) :
    Prop where
  target : ∃ target, request.target = some target ∧ target.host ∈ server.spec.dnsNames ∧
    target.ActsAs o client
  secrets : cluster.spec.certificates = some ⟨some server.spec.secretName,
    some server.spec.secretName, some client.spec.secretName, some replication.spec.secretName⟩
  recovery : ∃ recovery name, cluster.spec.bootstrap = some ⟨some recovery⟩ ∧
    recovery.backup = some ⟨name⟩ ∧ backup.metadata.name = some name
  output : o.Stores b.storeClaim request.outputDir

structure ClusterRestore.Refers (r : ClusterRestore) (o : WorkerOptions)
    (certificate : Certificate) (request : Rpc.RestorePostgres) : Prop where
  target : ∃ target, request.target = some target ∧ target.ActsAs o certificate
  input : o.Stores r.storeClaim request.inputDir

/-- The claim that is copied from is restored from a snapshot of the source and is only read. -/
structure VolumeBackup.Refers (b : VolumeBackup) (o : WorkerOptions) (snapshot : Snapshot)
    (claim : Claim) (request : Rpc.SyncFiles) : Prop where
  taken : snapshot.spec.source.claimName = some b.claim
  restored : ∃ spec name, claim.spec = some spec ∧ spec.dataSource = some (.snapshot name) ∧
    snapshot.metadata.name = some name
  source : ∃ v name, o.Mounts v ∧ v.readOnly = true ∧ claim.metadata.name = some name ∧
    v.source = .claim name ∧ request.sourcePath = v.mountPath
  destination : o.Stores b.storeClaim request.destinationPath

structure ObjectStorage.Refers (s : ObjectStorage) (o : WorkerOptions)
    (request : Rpc.SyncObjectStorage) : Prop where
  place : ∃ v, o.Mounts v ∧ v.source = .claim s.storeClaim ∧
    (request.localPath = v.mountPath ∨ v.Reaches request.localPath)
  credentials : ∃ v, o.Mounts v ∧ v.readOnly = true ∧ v.source = .secret s.credentialsSecret ∧
    request.credentialsDir = v.mountPath

/-- The request refers to the objects that the recipe has created and to the volumes of the
worker. -/
inductive Recipe.Refers (o : WorkerOptions) :
    Recipe → List (String × Object) → Rpc.Request → Prop where
  | clusterBackup {b : ClusterBackup} {backup : Backup} {server client replication : Certificate}
    {cluster : Cluster} {request : Rpc.DumpPostgres} :
    b.Refers o backup server client replication cluster request →
    Refers o (.clusterBackup b) [(b.ns, .backup backup), (b.ns, .certificate server),
      (b.ns, .certificate client), (b.ns, .certificate replication), (b.ns, .cluster cluster)]
      (.dumpPostgres request)
  | clusterRestore {r : ClusterRestore} {certificate : Certificate}
    {request : Rpc.RestorePostgres} : r.Refers o certificate request →
    Refers o (.clusterRestore r) [(r.ns, .certificate certificate)] (.restorePostgres request)
  | volumeBackup {b : VolumeBackup} {snapshot : Snapshot} {claim : Claim}
    {request : Rpc.SyncFiles} : b.Refers o snapshot claim request →
    Refers o (.volumeBackup b) [(b.ns, .snapshot snapshot), (b.ns, .claim claim)]
      (.syncFiles request)
  | objectStorage {s : ObjectStorage} {request : Rpc.SyncObjectStorage} : s.Refers o request →
    Refers o (.objectStorage s) [] (.syncObjectStorage request)

/-! ## Names and paths -/

namespace Credentials

/-- The host that a clone is written to is one that its server certificate is for. -/
theorem writerHost_mem_dnsNames (ns cluster : String) (issuer : IssuerRef) :
    writerHost cluster ns ∈ (server ns cluster issuer).spec.dnsNames := by
  refine List.mem_flatMap.mpr ⟨"rw", List.mem_cons_self, ?_⟩
  have same : writerHost cluster ns = cluster ++ "-" ++ "rw" ++ "." ++ ns ++ ".svc" := by
    have dotted : ("-rw." : String) = "-" ++ "rw" ++ "." := by decide
    rw [writerHost, dotted]
    simp only [String.append_assoc]
  rw [same, hostNames]
  simp

end Credentials

namespace Layout

theorem reaches_store {claim : String} (front rest : String) (named : front ≠ "") :
    (storeVolume claim).Reaches (storePath ++ ("/" ++ front) ++ rest) := by
  refine ⟨front ++ rest, fun empty => named ?_, by simp [storeVolume, WorkerVolume.claim,
    String.append_assoc]⟩
  exact (String.append_eq_empty_iff.mp empty).1

theorem stores {o : WorkerOptions} {claim path : String} (mounted : o.Mounts (storeVolume claim))
    (reaches : (storeVolume claim).Reaches path) : o.Stores claim path :=
  ⟨storeVolume claim, mounted, rfl, reaches⟩

theorem reaches_dumpDir (claim cluster : String) :
    (storeVolume claim).Reaches (dumpDir cluster) :=
  reaches_store "clusters/" cluster (by decide)

theorem reaches_copyDir (claim source : String) : (storeVolume claim).Reaches (copyDir source) :=
  reaches_store "volumes/" source (by decide)

theorem readsFrom_tlsFiles {o : WorkerOptions} {secret : String}
    (mounted : o.Mounts (tlsVolume secret)) : (tlsFiles secret).ReadsFrom o secret := by
  have holds (file : String) (named : file ≠ "") (plain : '/' ∉ file.toList) :
      (tlsVolume secret).Holds (tlsPath secret ++ ("/" ++ file)) :=
    ⟨file, named, plain, by simp [tlsVolume, WorkerVolume.secret, String.append_assoc]⟩
  exact ⟨tlsVolume secret, mounted, rfl, rfl, holds "tls.crt" (by decide) (by decide),
    holds "tls.key" (by decide) (by decide), holds "ca.crt" (by decide) (by decide)⟩

end Layout

namespace ObjectStorage

theorem request_localPath (s : ObjectStorage) : s.request.localPath = s.localPath := by
  simp only [request]

/-- What is copied is the store or a directory of it. -/
theorem localPath_eq (s : ObjectStorage) :
    s.localPath = Layout.storePath ∨ (Layout.storeVolume s.storeClaim).Reaches s.localPath := by
  unfold localPath
  dsimp only
  split
  · exact .inl rfl
  · rename_i named
    refine .inr ⟨_, fun empty => named ?_, rfl⟩
    rw [empty]
    rfl

end ObjectStorage

/-! ## Setup and execution -/

/-- The action is executed as this request. -/
def Action.Requests (Other : Interface) {A : Type} [Action (Cloud Other) A] (action : A)
    (request : Rpc.Request) : Prop :=
  ∀ (scope : Scope) (client : WorkerClient (Cloud Other)),
    (Action.execute scope client : Recorded A (Cloud Other) Unit).runFrom action =
      (Recorded.ofSaga (client.request request)).runFrom action

/-- What the setup of a recipe comes to: volumes are added, and the action is executed as a request
that refers to them and to what has been created. -/
structure Recipe.Prepares {A : Type} [Action (Cloud Other) A] (a : Recipe)
    (options : WorkerOptions) (w : World (Cloud Other)) (action : A) (options' : WorkerOptions)
    (w' : World (Cloud Other)) : Prop where
  volumes : options.Extends options'
  refers : ∃ created request, w.Creates created w' ∧ a.Refers options' created request ∧
    Action.Requests Other action request

section Setup

variable {scope : Scope} {options options' : WorkerOptions} {script : Script (Cloud Other)}
  {guards : List Guard} {w w' : World (Cloud Other)}

theorem ClusterBackup.setup_refers {b b' : ClusterBackup} (distinct : options.Distinct)
    (h : (setup scope).runFrom (b, options) script guards w = .done (.ok (), b', options') w') :
    Recipe.Prepares (.clusterBackup b) options w b' options' w' := by
  rw [setup, Recorded.runFrom_get_bind] at h
  rcases Recorded.bind_done.mp h with ⟨name, _, w₁, first, then_⟩ | ⟨_, -, ⟨⟩⟩
  obtain ⟨drawn, rfl⟩ := Recorded.ofSaga_done.mp first
  rcases Recorded.bind_done.mp then_ with ⟨clone, _, w₂, second, rest⟩ | ⟨_, -, ⟨⟩⟩
  obtain ⟨cloned, rfl⟩ := Recorded.ofSaga_done.mp second
  rw [Recorded.runFrom_set_bind] at rest
  obtain ⟨grown, store, tls, rfl, rfl⟩ := Action.addVolumes_done distinct rest
  obtain ⟨source, created, ns, named⟩ := ClusterCloning.creates_run cloned
  have host : clone.writerHost = Credentials.writerHost name b.ns := by
    rw [ClonedCluster.writerHost, named, ns]
    rfl
  have secret : clone.clientSecret = Credentials.clientName name := by
    rw [ClonedCluster.clientSecret, named]
    rfl
  refine ⟨grown, _, .dumpPostgres (b.request clone),
    (World.Creates.of_barren (Cloud.asks_freshName _).barren drawn).trans created,
    .clusterBackup {
      target := ⟨_, rfl, ?_, rfl, _, rfl, ?_⟩
      secrets := rfl
      recovery := ⟨_, _, rfl, rfl, rfl⟩
      output := Layout.stores store (Layout.reaches_dumpDir _ _) },
    fun _ client => rfl⟩
  · exact host ▸ Credentials.writerHost_mem_dnsNames b.ns name b.issuer
  · rw [secret] at tls ⊢
    exact Layout.readsFrom_tlsFiles tls

theorem ClusterRestore.setup_refers {r r' : ClusterRestore} (distinct : options.Distinct)
    (h : (setup scope).runFrom (r, options) script guards w = .done (.ok (), r', options') w') :
    Recipe.Prepares (.clusterRestore r) options w r' options' w' := by
  rw [setup, Recorded.runFrom_get_bind] at h
  rcases Recorded.bind_done.mp h with ⟨_, _, w₁, first, h₁⟩ | ⟨_, -, ⟨⟩⟩
  obtain ⟨issuer, rfl⟩ := Recorded.ofSaga_done.mp first
  rcases Recorded.bind_done.mp h₁ with ⟨name, _, w₂, second, h₂⟩ | ⟨_, -, ⟨⟩⟩
  obtain ⟨drawn, rfl⟩ := Recorded.ofSaga_done.mp second
  rcases Recorded.bind_done.mp h₂ with ⟨⟨⟩, _, w₃, third, h₃⟩ | ⟨_, -, ⟨⟩⟩
  obtain ⟨made, rfl⟩ := Recorded.ofSaga_done.mp third
  rw [Recorded.runFrom_set_bind] at h₃
  rcases Recorded.bind_done.mp h₃ with ⟨_, _, w₄, fourth, rest⟩ | ⟨_, -, ⟨⟩⟩
  obtain ⟨awaited, rfl⟩ := Recorded.ofSaga_done.mp fourth
  obtain ⟨grown, store, tls, rfl, rfl⟩ := Action.addVolumes_done distinct rest
  have created := (((World.Creates.of_barren (Cloud.asks_awaitIssuer _ _ _ _).barren issuer).trans
    (.of_barren (Cloud.asks_freshName _).barren drawn)).trans (.of_make made)).trans
      (.of_barren (Cloud.asks_awaitMade _ _ _ _).barren awaited)
  exact ⟨grown, _, .restorePostgres (r.request name), created,
    .clusterRestore {
      target := ⟨_, rfl, rfl, _, rfl, Layout.readsFrom_tlsFiles tls⟩
      input := Layout.stores store (Layout.reaches_dumpDir _ _) },
    fun _ client => rfl⟩

theorem VolumeBackup.setup_refers {b b' : VolumeBackup} (distinct : options.Distinct)
    (h : (setup scope).runFrom (b, options) script guards w = .done (.ok (), b', options') w') :
    Recipe.Prepares (.volumeBackup b) options w b' options' w' := by
  rw [setup, Recorded.runFrom_get_bind] at h
  rcases Recorded.bind_done.mp h with ⟨name, _, w₁, first, h₁⟩ | ⟨_, -, ⟨⟩⟩
  obtain ⟨drawn, rfl⟩ := Recorded.ofSaga_done.mp first
  rcases Recorded.bind_done.mp h₁ with ⟨clone, _, w₂, second, rest⟩ | ⟨_, -, ⟨⟩⟩
  obtain ⟨cloned, rfl⟩ := Recorded.ofSaga_done.mp second
  rw [Recorded.runFrom_set_bind] at rest
  obtain ⟨⟨source, bytes, created⟩, named⟩ := VolumeCloning.creates_run cloned
  rw [named] at rest
  obtain ⟨grown, store, mounted, rfl, rfl⟩ := Action.addVolumes_done distinct rest
  exact ⟨grown, _, .syncFiles b.request,
    (World.Creates.of_barren (Cloud.asks_freshName _).barren drawn).trans created,
    .volumeBackup {
      taken := rfl
      restored := ⟨_, _, rfl, rfl, rfl⟩
      source := ⟨_, _, mounted, rfl, rfl, rfl, rfl⟩
      destination := Layout.stores store (Layout.reaches_copyDir _ _) },
    fun _ client => rfl⟩

theorem ObjectStorage.setup_refers {s s' : ObjectStorage} (distinct : options.Distinct)
    (h : setup.runFrom (s, options) script guards w = .done (.ok (), s', options') w') :
    Recipe.Prepares (.objectStorage s) options w s' options' w' := by
  rw [setup, Recorded.runFrom_get_bind] at h
  obtain ⟨grown, store, credentials, rfl, rfl⟩ := Action.addVolumes_done distinct h
  exact ⟨grown, [], .syncObjectStorage s'.request, .refl w,
    .objectStorage {
      place := ⟨_, store, rfl, s'.request_localPath ▸ s'.localPath_eq⟩
      credentials := ⟨_, credentials, rfl, rfl, rfl⟩ },
    fun _ client => rfl⟩

namespace Recipe

section Wrap

variable {A : Type} [Action (Cloud Other) A] {wrap : A → Recipe} {action : A} {a a' : Recipe}

theorem setupAs_done {result : Except Fault Unit}
    (h : (setupAs wrap action scope).runFrom (a, options) script guards w =
      .done (result, a', options') w') :
    ∃ action', (Action.setup scope).runFrom (action, options) script guards w =
      .done (result, action', options') w' ∧ a' = wrap action' := by
  obtain ⟨⟨action', _⟩, ended, same⟩ := Recorded.zoom_done.mp h
  obtain ⟨rfl, rfl⟩ := Prod.mk.inj same
  exact ⟨action', ended, rfl⟩

/-- An action that is a recipe makes the request that it makes by itself. -/
theorem Prepares.ofAction (h : a.Prepares options w action options' w')
    (executes : ∀ scope client, (Action.execute scope client).runFrom (wrap action) =
      (executeAs wrap action scope client : Recorded Recipe (Cloud Other) Unit).runFrom
        (wrap action)) :
    a.Prepares options w (wrap action) options' w' := by
  obtain ⟨volumes, created, request, creates, refers, requests⟩ := h
  refine ⟨volumes, created, request, creates, refers, fun scope client => ?_⟩
  rw [executes]
  show ((Action.execute scope client).runFrom action >>= fun p => pure (p.1, wrap p.2)) = _
  rw [requests]
  show ((client.request request).run >>= fun r => pure (r, action)) >>= _ =
    (client.request request).run >>= fun r => pure (r, wrap action)
  simp only [bind_assoc, pure_bind]

end Wrap

/-- Whatever the recipe and the script, once a setup has succeeded the execution is a single
request, and it refers to what the setup has created and to the volumes that are mounted then. -/
theorem request_refers_to_setup {a a' : Recipe} (distinct : options.Distinct)
    (h : (Action.setup scope).runFrom (a, options) script guards w =
      .done (.ok (), a', options') w') :
    a.Prepares options w a' options' w' := by
  rw [show (Action.setup scope : Recorded (Recipe × WorkerOptions) (Cloud Other) Unit).runFrom
    (a, options) = _ from Recorded.runFrom_get_bind _ _] at h
  cases a with
  | clusterBackup b =>
    obtain ⟨b', ended, rfl⟩ := setupAs_done h
    exact (ClusterBackup.setup_refers distinct ended).ofAction fun _ _ => rfl
  | clusterRestore r =>
    obtain ⟨r', ended, rfl⟩ := setupAs_done h
    exact (ClusterRestore.setup_refers distinct ended).ofAction fun _ _ => rfl
  | volumeBackup b =>
    obtain ⟨b', ended, rfl⟩ := setupAs_done h
    exact (VolumeBackup.setup_refers distinct ended).ofAction fun _ _ => rfl
  | objectStorage s =>
    obtain ⟨s', ended, rfl⟩ := setupAs_done h
    exact (ObjectStorage.setup_refers distinct ended).ofAction fun _ _ => rfl

/-- Backs up a cluster. -/
def sample : Recipe :=
  .clusterBackup ⟨"prod", "main", "dr", .issuer "ca", [], none, .volumeSnapshot, .default, none⟩

theorem request_refers_to_setup_of_backup :
    ∃ a' options' w', (Action.setup .unbounded).runFrom (sample, .new "prod" "worker:1")
        (Cloud.parting (.immediate (.ok ()))) [] .initial = .done (.ok (), a', options') w' ∧
      (w'.marks.filterMap Mark.created?).length = 5 ∧ options'.volumes.length = 2 ∧
      sample.Prepares (.new "prod" "worker:1") .initial a' options' w' := by
  have ends : ∃ a' options' w', (Action.setup .unbounded).runFrom
      (sample, .new "prod" "worker:1") (Cloud.parting (.immediate (.ok ()))) [] .initial =
        .done (.ok (), a', options') w' ∧
      (w'.marks.filterMap Mark.created?).length = 5 ∧ options'.volumes.length = 2 :=
    ⟨_, _, _, rfl, rfl, rfl⟩
  obtain ⟨a', options', w', ended, created, volumes⟩ := ends
  exact ⟨a', options', w', ended, created, volumes,
    request_refers_to_setup (WorkerOptions.distinct_new "prod" "worker:1") ended⟩

end Recipe

end Setup

end Recovery
