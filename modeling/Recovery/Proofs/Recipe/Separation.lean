import Recovery.Proofs.Recipe.Place
import Recovery.Proofs.Recipe.Reference
import Recovery.Proofs.Worker.Sharing
import Recovery.Proofs.Worker.Story
/-!
# Backups keep apart

The setup of a recipe asks for volumes at the recipe's own places. As these have nothing in each
other, whatever is removed where one backup writes is of no concern to another.
-/
set_option autoImplicit false

namespace Recovery

open Layout (Below Covers Place Within storePath)

open VolumeName (IsObjectName isNameEnd)

variable {Other : Interface}

/-! ## Names made from names -/

namespace VolumeName

variable {source tail : List Char}

theorem isObjectName_of_ends (some_char : source ≠ []) (ends : ∀ c ∈ source, isNameEnd c) :
    IsObjectName source where
  chars c member := by rw [ends c member, Bool.true_or, Bool.true_or]
  some_char := some_char
  first c first := ends c (List.mem_of_mem_head? first)
  last c last := ends c (List.mem_of_mem_getLast? last)

/-- Two names with a hyphen between them. -/
theorem IsObjectName.hyphen (named : IsObjectName source) (named' : IsObjectName tail) :
    IsObjectName (source ++ '-' :: tail) where
  chars c member := by
    rw [List.mem_append, List.mem_cons] at member
    rcases member with member | rfl | member
    · exact named.chars c member
    · decide
    · exact named'.chars c member
  some_char := List.append_ne_nil_of_left_ne_nil named.some_char _
  first c first := by
    rw [List.head?_append_of_ne_nil _ named.some_char] at first
    exact named.first c first
  last c last := by
    rw [List.getLast?_append_of_ne_nil _ (List.cons_ne_nil _ _),
      ← List.singleton_append, List.getLast?_append_of_ne_nil _ named'.some_char] at last
    exact named'.last c last

end VolumeName

theorem isNameEnd_of_mem_suffixText {length n : Nat} {c : Char}
    (member : c ∈ suffixText length n) : isNameEnd c := by
  have all : ∀ i < 36, isNameEnd (suffixCharacters.getD i 'a') := by decide
  induction length generalizing n with
  | zero => cases member
  | succ length ih =>
    rcases List.mem_append.mp member with member | last
    · exact ih member
    · rw [List.mem_singleton.mp last]
      exact all _ (Nat.mod_lt _ (by decide))

theorem isObjectName_suffixName {stem : String} (named : IsObjectName stem.toList) (s : Suffix) :
    IsObjectName (s.name stem).toList := by
  have drawn : IsObjectName (suffixText suffixLength s.val) :=
    VolumeName.isObjectName_of_ends (List.append_ne_nil_of_right_ne_nil _ (List.cons_ne_nil _ _))
      fun _ => isNameEnd_of_mem_suffixText
  have spelled : (s.name stem).toList = stem.toList ++ '-' :: suffixText suffixLength s.val := by
    simp [Suffix.name]
  rw [spelled]
  exact named.hyphen drawn

/-! ## Volumes that are asked for -/

namespace WorkerOptions

variable {o : WorkerOptions} {u v : WorkerVolume} {vs : List WorkerVolume}

theorem eq_mount_of_addVolume {o' : WorkerOptions} (added : o.addVolume v = .ok o') :
    o' = o.mount v := by
  unfold addVolume at added
  cases free : conflict? o.volumes v with
  | some message =>
    rw [free] at added
    cases added
  | none =>
    rw [free] at added
    exact (Except.ok.inj added).symm

theorem mem_request (there : u ∈ (o.request v).volumes) : u ∈ o.volumes ∨ u = v := by
  cases added : o.addVolume v with
  | error fault =>
    rw [request_of_error added] at there
    exact .inl there
  | ok o' =>
    rw [request_of_ok added, eq_mount_of_addVolume added] at there
    exact mem_mount.mp there

theorem mem_after (there : u ∈ (o.after vs).volumes) : u ∈ o.volumes ∨ u ∈ vs := by
  induction vs generalizing o with
  | nil => exact .inl there
  | cons v vs ih =>
    rw [List.mem_cons, ← or_assoc]
    exact (ih there).imp_left mem_request

end WorkerOptions

namespace Recipe

/-- The places where a recipe mounts volumes; keys are made for the occasion. -/
inductive Mounts : Recipe → Place → Prop where
  | store (a : Recipe) : Mounts a .store
  | cloneKeys (b : ClusterBackup) (s : Suffix) :
    Mounts (.clusterBackup b) (.keys (Credentials.clientName (s.name (b.cluster ++ "-dr"))))
  | restoreKeys (r : ClusterRestore) (s : Suffix) :
    Mounts (.clusterRestore r) (.keys (s.name (r.cluster ++ "-restore-tls")))
  | source (b : VolumeBackup) : Mounts (.volumeBackup b) (.source b.claim)
  | credentials (s : ObjectStorage) : Mounts (.objectStorage s) .credentials

/-- What the recipe is about has the name of an object. -/
def Named : Recipe → Prop
  | .clusterBackup b => IsObjectName b.cluster.toList
  | .clusterRestore r => IsObjectName r.cluster.toList
  | .volumeBackup b => IsObjectName b.claim.toList
  | .objectStorage _ => True

variable {a : Recipe} {p : Place}

theorem Mounts.mounted (mounts : a.Mounts p) : p.Mounted := by
  cases mounts <;> exact id

theorem Mounts.named (mounts : a.Mounts p) (named : a.Named) : p.Named := by
  cases mounts with
  | store | credentials => trivial
  | source b => exact named
  | cloneKeys b s =>
    have stem : IsObjectName (b.cluster ++ "-dr").toList := by
      rw [String.toList_append]
      exact IsObjectName.hyphen named (by decide : IsObjectName "dr".toList)
    have spelled (name : String) : (Credentials.clientName name).toList =
        name.toList ++ '-' :: "postgres-tls".toList := by
      simp [Credentials.clientName, Credentials.superuser]
    rw [Place.Named, spelled]
    exact (isObjectName_suffixName stem s).hyphen (by decide)
  | restoreKeys r s =>
    have stem : IsObjectName (r.cluster ++ "-restore-tls").toList := by
      rw [String.toList_append]
      exact IsObjectName.hyphen named (by decide : IsObjectName "restore-tls".toList)
    exact isObjectName_suffixName stem s

/-- Whatever comes of a setup, it has asked for volumes at places of the recipe only. -/
def MountsIn (a : Recipe) (options options' : WorkerOptions) : Prop :=
  ∃ vs, options' = options.after vs ∧ ∀ v ∈ vs, ∃ p, a.Mounts p ∧ v.mountPath = p.path

/-- A setup of the recipe, whether or not it succeeds, adds the volume to those of the worker. -/
def Asks (Other : Interface) (a : Recipe) (v : WorkerVolume) : Prop :=
  ∃ (scope : Scope) (options : WorkerOptions) (script : Script (Cloud Other)) (guards : List Guard)
    (w : World (Cloud Other)) (result : Except Fault Unit) (a' : Recipe) (options' : WorkerOptions)
    (w' : World (Cloud Other)),
    (Action.setup scope).runFrom (a, options) script guards w = .done (result, a', options') w' ∧
      v ∉ options.volumes ∧ v ∈ options'.volumes

end Recipe

/-! ## Setups -/

section Setup

variable {scope : Scope} {options options' : WorkerOptions} {script : Script (Cloud Other)}
  {guards : List Guard} {w w' : World (Cloud Other)} {result : Except Fault Unit} {a a' : Recipe}

theorem Action.addVolume_ended {A : Type} {action action' : A} {v : WorkerVolume}
    (h : (addVolume v).runFrom (action, options) script guards w =
      .done (result, action', options') w') : options' = options.request v := by
  rw [WorkerOptions.runFrom_addVolume] at h
  obtain ⟨same, -⟩ := Step.done.inj h
  exact (Prod.mk.inj (Prod.mk.inj same).2).2.symm

namespace Recipe

theorem MountsIn.refl (a : Recipe) (options : WorkerOptions) : a.MountsIn options options :=
  ⟨[], rfl, by simp⟩

/-- A step before any volume is asked for either ends the setup or makes no difference. -/
theorem MountsIn.of_saga {A α : Type} {action action' : A} {saga : Saga (Cloud Other) α}
    {next : α → Recorded (A × WorkerOptions) (Cloud Other) Unit}
    (h : (Recorded.ofSaga saga >>= next).runFrom (action, options) script guards w =
      .done (result, action', options') w')
    (goes_on : ∀ x v, saga.run script guards w = .done (.ok x) v →
      (next x).runFrom (action, options) script guards v = .done (result, action', options') w' →
      a.MountsIn options options') : a.MountsIn options options' := by
  rcases Recorded.ofSaga_bind_done.mp h with ⟨x, v, ran, rest⟩ | ⟨fault, -, -, same⟩
  · exact goes_on x v ran rest
  · obtain ⟨-, rfl⟩ := Prod.mk.inj same
    exact .refl _ _

theorem MountsIn.of_addVolumes {A : Type} {action action' : A} {v v' : WorkerVolume}
    {p p' : Place} (mounts : a.Mounts p) (placed : v.mountPath = p.path)
    (mounts' : a.Mounts p') (placed' : v'.mountPath = p'.path)
    (h : (Action.addVolume v >>= fun _ => Action.addVolume v').runFrom (action, options) script
      guards w = .done (result, action', options') w') : a.MountsIn options options' := by
  rcases Recorded.bind_done.mp h with ⟨_, ⟨_, middle⟩, u, first, second⟩ | ⟨fault, first, -⟩
  · obtain rfl := Action.addVolume_ended first
    obtain rfl := Action.addVolume_ended second
    refine ⟨[v, v'], rfl, ?_⟩
    simp only [List.forall_mem_cons]
    exact ⟨⟨p, mounts, placed⟩, ⟨p', mounts', placed'⟩, by simp⟩
  · obtain rfl := Action.addVolume_ended first
    exact ⟨[v], rfl, List.forall_mem_singleton.mpr ⟨p, mounts, placed⟩⟩

end Recipe

theorem exists_suffix_of_freshName {stem name : String}
    (drawn : (Cloud.freshName stem : Saga (Cloud Other) String).run script guards w =
      .done (.ok name) w') : ∃ s : Suffix, name = s.name stem := by
  obtain ⟨_ | s, -, named⟩ := Worker.freshName_makes drawn
  · cases named
  · exact ⟨s, Except.ok.inj named⟩

theorem ClusterBackup.setup_mounts {b b' : ClusterBackup}
    (h : (setup scope).runFrom (b, options) script guards w = .done (result, b', options') w') :
    Recipe.MountsIn (.clusterBackup b) options options' := by
  rw [setup, Recorded.runFrom_get_bind] at h
  refine .of_saga h fun name w₁ drawn h₁ => .of_saga h₁ fun clone w₂ cloned h₂ => ?_
  rw [Recorded.runFrom_set_bind] at h₂
  obtain ⟨s, rfl⟩ := exists_suffix_of_freshName drawn
  obtain ⟨_, -, -, named⟩ := ClusterCloning.creates_run cloned
  have placed : (Layout.tlsVolume clone.clientSecret).mountPath =
      (Place.keys (Credentials.clientName (s.name (b.cluster ++ "-dr")))).path := by
    rw [ClonedCluster.clientSecret, named]
    rfl
  exact .of_addVolumes (.store _) rfl (.cloneKeys b s) placed h₂

theorem ClusterRestore.setup_mounts {r r' : ClusterRestore}
    (h : (setup scope).runFrom (r, options) script guards w = .done (result, r', options') w') :
    Recipe.MountsIn (.clusterRestore r) options options' := by
  rw [setup, Recorded.runFrom_get_bind] at h
  refine .of_saga h fun _ w₁ awaited h₁ => .of_saga h₁ fun name w₂ drawn h₂ =>
    .of_saga h₂ fun _ w₃ made h₃ => ?_
  rw [Recorded.runFrom_set_bind] at h₃
  refine .of_saga h₃ fun _ w₄ ready h₄ => ?_
  obtain ⟨s, rfl⟩ := exists_suffix_of_freshName drawn
  exact .of_addVolumes (.store _) rfl (.restoreKeys r s) rfl h₄

theorem VolumeBackup.setup_mounts {b b' : VolumeBackup}
    (h : (setup scope).runFrom (b, options) script guards w = .done (result, b', options') w') :
    Recipe.MountsIn (.volumeBackup b) options options' := by
  rw [setup, Recorded.runFrom_get_bind] at h
  refine .of_saga h fun name w₁ drawn h₁ => .of_saga h₁ fun clone w₂ cloned h₂ => ?_
  rw [Recorded.runFrom_set_bind] at h₂
  obtain ⟨-, named⟩ := VolumeCloning.creates_run cloned
  rw [named] at h₂
  exact .of_addVolumes (.store _) rfl (.source b) rfl h₂

theorem ObjectStorage.setup_mounts {s s' : ObjectStorage}
    (h : setup.runFrom (s, options) script guards w = .done (result, s', options') w') :
    Recipe.MountsIn (.objectStorage s) options options' := by
  rw [setup, Recorded.runFrom_get_bind] at h
  exact .of_addVolumes (.store _) rfl (.credentials s) rfl h

namespace Recipe

theorem setup_mounts (h : (Action.setup scope).runFrom (a, options) script guards w =
      .done (result, a', options') w') : a.MountsIn options options' := by
  rw [show (Action.setup scope : Recorded (Recipe × WorkerOptions) (Cloud Other) Unit).runFrom
    (a, options) = _ from Recorded.runFrom_get_bind _ _] at h
  cases a with
  | clusterBackup b =>
    obtain ⟨_, ended, -⟩ := setupAs_done h
    exact ClusterBackup.setup_mounts ended
  | clusterRestore r =>
    obtain ⟨_, ended, -⟩ := setupAs_done h
    exact ClusterRestore.setup_mounts ended
  | volumeBackup b =>
    obtain ⟨_, ended, -⟩ := setupAs_done h
    exact VolumeBackup.setup_mounts ended
  | objectStorage s =>
    obtain ⟨_, ended, -⟩ := setupAs_done h
    exact ObjectStorage.setup_mounts ended

theorem Asks.mounts {v : WorkerVolume} (asks : a.Asks Other v) :
    ∃ p, a.Mounts p ∧ v.mountPath = p.path := by
  obtain ⟨scope, options, script, guards, w, result, a', options', w', ended, fresh, there⟩ := asks
  obtain ⟨vs, rfl, placed⟩ := setup_mounts ended
  exact placed v ((WorkerOptions.mem_after there).resolve_left fresh)

/-- What recipes mount is the same place or is apart. -/
theorem Asks.eq_of_covers {v v' : WorkerVolume} (asks : a.Asks Other v) (asks' : a'.Asks Other v')
    (named : a.Named) (named' : a'.Named) (covers : Covers v.mountPath v'.mountPath) :
    v.mountPath = v'.mountPath := by
  obtain ⟨p, mounts, placed⟩ := asks.mounts
  obtain ⟨p', mounts', placed'⟩ := asks'.mounts
  rw [placed, placed'] at covers ⊢
  rcases (Place.covers_iff (mounts.named named) (mounts'.named named')).mp covers with
    rfl | ⟨-, kept⟩
  · rfl
  · exact absurd kept mounts'.mounted

end Recipe

end Setup

/-! ## Shared workers -/

/-- The recipes have been set up one after another on a worker that had no volumes. -/
inductive WorkerOptions.SharedBy (Other : Interface) : List Recipe → WorkerOptions → Prop where
  | bare {o : WorkerOptions} : o.volumes = [] → SharedBy Other [] o
  | setup {as : List Recipe} {a a' : Recipe} {o o' : WorkerOptions} {scope : Scope}
    {script : Script (Cloud Other)} {guards : List Guard} {w w' : World (Cloud Other)}
    {result : Except Fault Unit} : SharedBy Other as o →
    (Action.setup scope).runFrom (a, o) script guards w = .done (result, a', o') w' →
    SharedBy Other (as ++ [a]) o'

namespace WorkerOptions

variable {as : List Recipe} {o : WorkerOptions}

theorem SharedBy.distinct (shared : o.SharedBy Other as) : o.Distinct := by
  induction shared with
  | bare none =>
    rw [Distinct, none]
    exact List.Pairwise.nil
  | setup _ ended ih =>
    obtain ⟨vs, rfl, -⟩ := Recipe.setup_mounts ended
    exact ih.after

theorem SharedBy.asks (shared : o.SharedBy Other as) {v : WorkerVolume} (there : v ∈ o.volumes) :
    ∃ a ∈ as, a.Asks Other v := by
  induction shared with
  | bare none =>
    rw [none] at there
    cases there
  | @setup as a a' o o' _ _ _ _ _ _ _ ended ih =>
    by_cases before : v ∈ o.volumes
    · obtain ⟨earlier, member, asks⟩ := ih before
      exact ⟨earlier, List.mem_append_left _ member, asks⟩
    · exact ⟨a, List.mem_concat_self, _, o, _, _, _, _, a', o', _, ended, before, there⟩

/-- However many recipes share a worker, none of its volumes is mounted in another one. -/
theorem SharedBy.apart (shared : o.SharedBy Other as) (named : ∀ a ∈ as, a.Named)
    {v v' : WorkerVolume} (there : v ∈ o.volumes) (there' : v' ∈ o.volumes) (differ : v ≠ v') :
    ¬Covers v.mountPath v'.mountPath := by
  intro covers
  obtain ⟨a, member, asks⟩ := shared.asks there
  obtain ⟨a', member', asks'⟩ := shared.asks there'
  have apart : v.Apart v' := shared.distinct.forall there there' differ
  exact apart.mountPath (asks.eq_of_covers asks' (named a member) (named a' member') covers)

end WorkerOptions

/-! ## Backups -/

namespace Recipe

/-- What backups write is in the store, each in a place of its own, and what recipes mount is in no
other place. So nothing that is removed from the copy of a claim is part of another backup or of
what is mounted beside the store. -/
theorem backups_stay_apart (Other : Interface) :
    (∀ p : Place, p.Named → p.Kept → Below storePath p.path) ∧
    (∀ p p' : Place, p.Named → p'.Named →
      (Covers p.path p'.path ↔ p = p' ∨ p = .store ∧ p'.Kept)) ∧
    (∀ (a : Recipe) (v : WorkerVolume), a.Named → a.Asks Other v →
      (∃ p, a.Mounts p ∧ p.Named ∧ p.Mounted ∧ v.mountPath = p.path) ∧
      ∀ (a' : Recipe) (v' : WorkerVolume), a'.Named → a'.Asks Other v' →
        v.mountPath ≠ v'.mountPath → ¬Covers v.mountPath v'.mountPath) ∧
    ∀ b : VolumeBackup, IsObjectName b.claim.toList →
      Action.Requests Other b (.syncFiles b.request) ∧
      ∀ path, Within b.request.destinationPath path →
        (∀ p : Place, p.Named → p.Kept → Within p.path path → p = .copies b.claim) ∧
        ∀ (a : Recipe) (v : WorkerVolume), a.Named → a.Asks Other v →
          Within v.mountPath path → v.mountPath = storePath := by
  refine ⟨fun p named kept => kept.below_store named,
    fun p p' named named' => Place.covers_iff named named', ?mounts, ?spares⟩
  case mounts =>
    intro a v named asks
    obtain ⟨p, mounts, placed⟩ := asks.mounts
    refine ⟨⟨p, mounts, mounts.named named, mounts.mounted, placed⟩, ?_⟩
    intro a' v' named' asks' differ covers
    exact differ (asks.eq_of_covers asks' named named' covers)
  case spares =>
    intro b claimed
    have copied : (Place.copies b.claim).Named := claimed
    refine ⟨fun _ _ => rfl, fun path within => ⟨?kept, ?mounted⟩⟩
    case kept =>
      intro p named kept within'
      rcases Place.eq_of_within named copied within' within with same | ⟨rfl, -⟩ | ⟨⟨⟩, -⟩
      · exact same
      · cases kept
    case mounted =>
      intro a v named asks within'
      obtain ⟨p, mounts, placed⟩ := asks.mounts
      rw [placed] at within' ⊢
      rcases Place.eq_of_within (mounts.named named) copied within' within with
        rfl | ⟨rfl, -⟩ | ⟨⟨⟩, -⟩
      · exact absurd trivial mounts.mounted
      · rfl

theorem backups_stay_apart_of_sample : ∃ v, sample.Asks .silent v ∧ sample.Named ∧
    v.mountPath = "/tls/main-dr-aaaaa-postgres-tls" ∧
    Within (Layout.copyDir "main") "/dr/volumes/main/log" ∧
    ¬Within (Layout.dumpDir "main") "/dr/volumes/main/log" ∧
    ¬Within v.mountPath "/dr/volumes/main/log" := by
  have ends : ∃ a' options' w', (Action.setup .unbounded).runFrom (sample, .new "prod" "worker:1")
      (Cloud.parting (.immediate (.ok ()))) [] .initial = .done (.ok (), a', options') w' ∧
      Layout.tlsVolume "main-dr-aaaaa-postgres-tls" ∈ options'.volumes :=
    ⟨_, _, _, rfl, .tail _ (.head _)⟩
  obtain ⟨a', options', w', ended, there⟩ := ends
  have asks : sample.Asks .silent (Layout.tlsVolume "main-dr-aaaaa-postgres-tls") :=
    ⟨_, _, _, _, _, _, a', options', w', ended, List.not_mem_nil, there⟩
  have claimed : IsObjectName "main".toList := by decide
  have named : sample.Named := claimed
  have within : Within (Layout.copyDir "main") "/dr/volumes/main/log" := by decide
  obtain ⟨-, -, -, spares⟩ := backups_stay_apart .silent
  obtain ⟨-, apart⟩ := spares ⟨"prod", "main", "dr", none, none, .default, none⟩ claimed
  obtain ⟨kept, mounted⟩ := apart _ within
  refine ⟨_, asks, named, rfl, within, fun inside => ?_, fun inside => ?_⟩
  · cases kept (.dumps "main") claimed trivial inside
  · exact absurd (mounted sample _ named asks inside) (by decide)

end Recipe

end Recovery
