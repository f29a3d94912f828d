import Mathlib.Data.List.Pairwise
import Recovery.Stage.Action
/-!
# The volumes of a worker

No two volumes of a worker have the same name or the same place. Adding a volume keeps it so and
leaves the volumes that are there already.
-/
set_option autoImplicit false

namespace Recovery

namespace WorkerVolume

/-- They differ in their names and in their places. -/
structure Apart (v v' : WorkerVolume) : Prop where
  name : v.name ≠ v'.name
  mountPath : v.mountPath ≠ v'.mountPath

instance : Std.Symm Apart := ⟨fun _ _ h => ⟨h.name.symm, h.mountPath.symm⟩⟩

/-- The path leads on from the place of the volume. -/
def Reaches (v : WorkerVolume) (path : String) : Prop :=
  ∃ rest, rest ≠ "" ∧ path = v.mountPath ++ "/" ++ rest

/-- The path is that of a file which is directly in the place of the volume. -/
def Holds (v : WorkerVolume) (path : String) : Prop :=
  ∃ file, file ≠ "" ∧ '/' ∉ file.toList ∧ path = v.mountPath ++ "/" ++ file

end WorkerVolume

namespace WorkerOptions

variable {o o' o'' : WorkerOptions} {v v' : WorkerVolume}

/-- No two volumes have the same name or the same place. -/
def Distinct (o : WorkerOptions) : Prop := o.volumes.Pairwise WorkerVolume.Apart

/-- The volume is there, and nothing else has its name or its place. -/
structure Mounts (o : WorkerOptions) (v : WorkerVolume) : Prop where
  mem : v ∈ o.volumes
  only : ∀ v' ∈ o.volumes, v'.name = v.name ∨ v'.mountPath = v.mountPath → v' = v

theorem distinct_new (ns image : String) : (new ns image).Distinct := List.Pairwise.nil

theorem Distinct.mounts (h : o.Distinct) (mem : v ∈ o.volumes) : o.Mounts v where
  mem := mem
  only v' mem' same := by
    by_contra other
    have apart : v'.Apart v := h.forall mem' mem other
    exact same.elim apart.name apart.mountPath

/-- Without a conflict the volume is there already or is apart from all that are. -/
theorem conflict?_eq_none {volumes : List WorkerVolume} (h : conflict? volumes v = none) :
    v ∈ volumes ∨ ∀ v' ∈ volumes, v'.Apart v := by
  unfold conflict? at h
  cases named : volumes.find? (·.name = v.name) with
  | some other =>
    rw [named] at h
    by_cases same : other = v
    · exact .inl (same ▸ List.mem_of_find?_eq_some named)
    · simp [same] at h
  | none =>
    rw [named] at h
    have placed := Option.map_eq_none_iff.mp h
    refine .inr fun v' mem => ⟨fun name => ?_, fun place => ?_⟩
    · simpa [name] using List.find?_eq_none.mp named v' mem
    · simpa [place] using List.find?_eq_none.mp placed v' mem

/-- What is known of the volumes once some have been added. -/
structure Extends (o o' : WorkerOptions) : Prop where
  distinct : o'.Distinct
  volumes : o.volumes <+: o'.volumes

theorem Extends.trans (h : o.Extends o') (h' : o'.Extends o'') : o.Extends o'' :=
  ⟨h'.distinct, h.volumes.trans h'.volumes⟩

theorem Extends.mounts (h : o.Extends o') (mem : v ∈ o.volumes) : o'.Mounts v :=
  h.distinct.mounts (h.volumes.subset mem)

theorem Distinct.addVolume (h : o.Distinct) (added : o.addVolume v = .ok o') :
    o.Extends o' ∧ v ∈ o'.volumes := by
  unfold WorkerOptions.addVolume at added
  cases free : conflict? o.volumes v with
  | some message =>
    rw [free] at added
    cases added
  | none =>
    rw [free] at added
    obtain rfl := Except.ok.inj added
    by_cases mem : v ∈ o.volumes
    · rw [if_pos mem]
      exact ⟨⟨h, List.prefix_refl _⟩, mem⟩
    · rw [if_neg mem]
      have apart := (conflict?_eq_none free).resolve_left mem
      have distinct : (o.volumes ++ [v]).Pairwise WorkerVolume.Apart := by
        refine List.pairwise_append.mpr ⟨h, List.pairwise_singleton _ _, fun v' mem' v'' last => ?_⟩
        obtain rfl := List.mem_singleton.mp last
        exact apart v' mem'
      exact ⟨⟨distinct, List.prefix_append _ _⟩, List.mem_concat_self⟩

end WorkerOptions

namespace Action

open WorkerOptions (Distinct Extends Mounts)

variable {A : Type} {I : Interface} {script : Script I} {guards : List Guard} {w w' : World I}
  {action action' : A} {options options' : WorkerOptions} {v v' : WorkerVolume}

theorem addVolume_done (h : (addVolume v).runFrom (action, options) script guards w =
      .done (.ok (), action', options') w') :
    options.addVolume v = .ok options' ∧ action' = action ∧ w = w' := by
  rw [addVolume, Recorded.runFrom_get_bind] at h
  rcases Recorded.bind_done.mp h with ⟨extended, middle, u, added, h⟩ | ⟨_, -, ⟨⟩⟩
  obtain ⟨same, rfl⟩ := Task.pure_done.mp added
  obtain ⟨given, rfl⟩ := Prod.mk.inj same
  obtain ⟨same, rfl⟩ := Task.pure_done.mp h
  cases same
  exact ⟨given, rfl, rfl⟩

/-- Two volumes that have been added one after the other are both there. -/
theorem addVolumes_done (distinct : options.Distinct)
    (h : (addVolume v >>= fun _ => addVolume v').runFrom (action, options) script guards w =
      .done (.ok (), action', options') w') :
    options.Extends options' ∧ options'.Mounts v ∧ options'.Mounts v' ∧ action' = action ∧
      w = w' := by
  rcases Recorded.bind_done.mp h with ⟨_, ⟨_, middle⟩, u, first, second⟩ | ⟨_, -, ⟨⟩⟩
  obtain ⟨added, rfl, rfl⟩ := addVolume_done first
  obtain ⟨added', rfl, rfl⟩ := addVolume_done second
  obtain ⟨grown, mem⟩ := distinct.addVolume added
  obtain ⟨grown', mem'⟩ := grown.distinct.addVolume added'
  exact ⟨grown.trans grown', grown'.mounts mem, grown'.distinct.mounts mem', rfl, rfl⟩

end Action

end Recovery
