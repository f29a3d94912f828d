import Recovery.Proofs.Worker.Volumes
import Recovery.Worker.Manifest
/-!
# The pod of a worker and the service in front of it

A service leads to the pods that carry all labels of its selector. That of a worker leads to the
pod of that worker and to no other, whatever other labels are asked for. In the pod each mount goes
with one volume and each volume with one mount.
-/
set_option autoImplicit false

namespace Recovery

namespace Pod

def containers (p : Pod) : List Container := (p.spec.map PodSpec.containers).getD []

def volumes (p : Pod) : List PodVolume := (p.spec.bind PodSpec.volumes).getD []

def mounts (p : Pod) : List VolumeMount := p.containers.flatMap (·.volumeMounts.getD [])

def ports (p : Pod) : List Int := p.containers.flatMap fun c =>
  (c.ports.getD []).map ContainerPort.containerPort

/-- The ports that tell whether the pod is ready. -/
def probedPorts (p : Pod) : List PortRef := p.containers.filterMap fun c =>
  (c.readinessProbe.bind Probe.tcpSocket).map SocketCheck.port

end Pod

namespace Service

/-- Each port with the one behind it. -/
def ports (s : Service) : List (Int × Option PortRef) :=
  ((s.spec.bind ServiceSpec.ports).getD []).map fun p => (p.port, p.targetPort)

/-- Every entry of the selector is among the labels of the pod. -/
def Selects (s : Service) (p : Pod) : Prop :=
  ∃ selector labels, s.spec.bind ServiceSpec.selector = some selector ∧
    p.metadata.labels = some labels ∧
    ∀ key value, (key, value) ∈ selector → labels.find? key = some value

end Service

/-- Where the files of a volume come from, if from a claim or from a secret alone. -/
def PodVolume.source? (v : PodVolume) : Option VolumeSource :=
  match v.claim, v.secret with
  | some claim, none => some (.claim claim.claimName)
  | none, some secret => secret.secretName.map .secret
  | _, _ => none

/-- The mount and the pod's volume are what was asked for. -/
structure WorkerVolume.Meets (asked : WorkerVolume) (mount : VolumeMount) (volume : PodVolume) :
    Prop where
  mountName : mount.name = asked.name
  volumeName : volume.name = asked.name
  path : mount.mountPath = asked.mountPath
  readOnly : mount.readOnly = some asked.readOnly
  source : volume.source? = some asked.source
  claimReadOnly : ∀ claim ∈ volume.claim, claim.readOnly = some asked.readOnly
  plain : mount.others = [] ∧ volume.others = []

namespace WorkerOptions

variable {o : WorkerOptions} {v : WorkerVolume}

/-! ## Labels -/

/-- The labels that the worker of a name has whatever other labels are asked for. -/
def ownLabels (name : String) : Labels :=
  [(Metadata.managedByLabel, "kubedr"), (nameLabel, workerAppName), (workerLabel, name)]

/-- The pod and the service of a worker have the same labels: its own and, where these say nothing,
the ones that were asked for. -/
structure Labelled (o : WorkerOptions) (name : String) (s : Service) (p : Pod) : Prop where
  same : s.metadata.labels = p.metadata.labels
  labels : ∃ labels, p.metadata.labels = some labels ∧
    ∀ key, labels.find? key = ((ownLabels name).find? key).or (o.labels.find? key)

theorem find?_labels (o : WorkerOptions) (name key : String) :
    ((o.labelsFor name).set Metadata.managedByLabel "kubedr").find? key =
      ((ownLabels name).find? key).or (o.labels.find? key) := by
  simp only [Labels.find?, labelsFor, Labels.lookup_set, ownLabels, List.lookup_cons,
    List.lookup_nil]
  by_cases managed : key = Metadata.managedByLabel
  · simp [managed]
  by_cases worker : key = workerLabel
  · subst worker
    simp [Metadata.managedByLabel, workerLabel, nameLabel]
  by_cases app : key = nameLabel
  · subst app
    simp [Metadata.managedByLabel, workerLabel, nameLabel]
  simp [managed, worker, app, beq_eq_false_iff_ne.mpr managed, beq_eq_false_iff_ne.mpr worker,
    beq_eq_false_iff_ne.mpr app]

theorem labelled (o : WorkerOptions) (name : String) :
    o.Labelled name (o.service name) (o.pod name) :=
  ⟨rfl, _, rfl, o.find?_labels name⟩

theorem selects_iff (o p : WorkerOptions) (n m : String) :
    (o.service n).Selects (p.pod m) ↔ n = m := by
  have worker : ((p.labelsFor m).set Metadata.managedByLabel "kubedr").find? workerLabel = some m :=
    p.find?_labels m workerLabel
  constructor
  · rintro ⟨selector, labels, selected, carried, found⟩
    obtain rfl := Option.some.inj selected
    obtain rfl := Option.some.inj carried
    have found := found workerLabel n (List.mem_singleton_self _)
    exact Option.some.inj (found.symm.trans worker)
  · rintro rfl
    refine ⟨_, _, rfl, rfl, fun key value mem => ?_⟩
    obtain ⟨rfl, rfl⟩ := Prod.mk.inj (List.mem_singleton.mp mem)
    exact worker

/-! ## Volumes -/

/-- In the pod each mount goes with one volume and each volume with one mount, and every such pair
is what was asked for. -/
structure Resolves (o : WorkerOptions) (p : Pod) : Prop where
  mounted : ∀ mount ∈ p.mounts, ∃ volume, p.volumes.filter (·.name = mount.name) = [volume] ∧
    ∃ asked ∈ o.volumes, asked.Meets mount volume
  backed : ∀ volume ∈ p.volumes, ∃ mount, p.mounts.filter (·.name = volume.name) = [mount] ∧
    ∃ asked ∈ o.volumes, asked.Meets mount volume
  asked : ∀ asked ∈ o.volumes, ∃ mount ∈ p.mounts, ∃ volume ∈ p.volumes, asked.Meets mount volume
  apart : p.mounts.Pairwise fun mount mount' => mount.mountPath ≠ mount'.mountPath

@[simp] theorem podVolume_name (v : WorkerVolume) : (podVolume v).name = v.name := by
  unfold podVolume
  split <;> rfl

@[simp] theorem volumeMount_name (v : WorkerVolume) : (volumeMount v).name = v.name := rfl

theorem meets (v : WorkerVolume) : v.Meets (volumeMount v) (podVolume v) := by
  obtain ⟨name, path, readOnly, source⟩ := v
  cases source with
  | claim name =>
    exact ⟨rfl, rfl, rfl, rfl, rfl, fun claim same => Option.some.inj same ▸ rfl, rfl, rfl⟩
  | secret name => exact ⟨rfl, rfl, rfl, rfl, rfl, fun claim => nofun, rfl, rfl⟩

theorem mounts_pod (o : WorkerOptions) (name : String) :
    (o.pod name).mounts = o.volumes.map volumeMount := List.append_nil _

theorem volumes_pod (o : WorkerOptions) (name : String) :
    (o.pod name).volumes = o.volumes.map podVolume := rfl

theorem filter_name {volumes : List WorkerVolume} (h : volumes.Pairwise WorkerVolume.Apart)
    (mem : v ∈ volumes) : volumes.filter (·.name = v.name) = [v] := by
  induction volumes with
  | nil => cases mem
  | cons first rest ih =>
    obtain ⟨apart, h⟩ := List.pairwise_cons.mp h
    rcases List.mem_cons.mp mem with rfl | mem
    · have none : rest.filter (·.name = v.name) = [] :=
        List.filter_eq_nil_iff.mpr fun v' mem' => by simpa using (apart v' mem').name.symm
      simp [none]
    · rw [List.filter_cons_of_neg (by simpa using (apart v mem).name), ih h mem]

/-- What is made of the volumes under their names is there once for each. -/
theorem Distinct.filter_map {α : Type} (h : o.Distinct) (mem : v ∈ o.volumes)
    {make : WorkerVolume → α} {name : α → String} (named : ∀ v, name (make v) = v.name) :
    (o.volumes.map make).filter (name · = v.name) = [make v] := by
  have same (v' : WorkerVolume) :
      ((fun x => decide (name x = v.name)) ∘ make) v' = decide (v'.name = v.name) := by
    simp [named]
  rw [List.filter_map, List.filter_congr fun v' _ => same v', filter_name h mem, List.map_singleton]

theorem Distinct.resolves (h : o.Distinct) (name : String) : o.Resolves (o.pod name) where
  mounted mount mem := by
    rw [mounts_pod] at mem
    obtain ⟨v, asked, rfl⟩ := List.mem_map.mp mem
    exact ⟨podVolume v, h.filter_map asked podVolume_name, v, asked, meets v⟩
  backed volume mem := by
    obtain ⟨v, asked, rfl⟩ := List.mem_map.mp mem
    rw [mounts_pod, podVolume_name]
    exact ⟨volumeMount v, h.filter_map asked volumeMount_name, v, asked, meets v⟩
  asked v mem := by
    rw [mounts_pod, volumes_pod]
    exact ⟨_, List.mem_map_of_mem mem, _, List.mem_map_of_mem mem, meets v⟩
  apart := by
    rw [mounts_pod]
    exact List.pairwise_map.mpr (h.imp fun apart => apart.mountPath)

/-- The service of a worker leads to the pod of that worker only, at the port that the worker is
listening on, and the pod finds everything that it mounts. -/
theorem service_selects_own_pod (o p : WorkerOptions) (n m : String) :
    ((o.service n).Selects (p.pod m) ↔ n = m) ∧
      o.Labelled n (o.service n) (o.pod n) ∧
      (o.service n).ports = [((o.port : Int), some (PortRef.number o.port))] ∧
      (o.pod n).ports = [(o.port : Int)] ∧ (o.pod n).probedPorts = [PortRef.number o.port] ∧
      (o.Distinct → o.Resolves (o.pod n)) :=
  ⟨o.selects_iff p n m, o.labelled n, rfl, rfl, rfl, fun distinct => distinct.resolves n⟩

/-- A worker with a claim and a secret, for which the library's own labels are asked for. -/
def relabelled : WorkerOptions :=
  { new "backups" "worker:1" with
    labels := [(workerLabel, "other"), (Metadata.managedByLabel, "helm"), ("team", "storage")]
    volumes := [.claim "data" "files" "/data", .secret "tls" "server-tls" "/tls"] }

theorem service_selects_own_pod_of_relabelled :
    ¬ (relabelled.service "w-1").Selects (relabelled.pod "w-2") ∧
      relabelled.Resolves (relabelled.pod "w-1") := by
  have distinct : relabelled.Distinct := List.pairwise_pair.mpr ⟨by decide, by decide⟩
  have other := (service_selects_own_pod relabelled relabelled "w-1" "w-2").1
  obtain ⟨-, -, -, -, -, resolves⟩ := service_selects_own_pod relabelled relabelled "w-1" "w-1"
  exact ⟨fun selected => absurd (other.mp selected) (by decide), resolves distinct⟩

end WorkerOptions

end Recovery
