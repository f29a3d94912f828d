import Recovery.Proofs.Clone.Rollback
/-!
# What clones are made of

The objects that are created on the way to a clone that is handed out, in the order in which they
are.
-/
set_option autoImplicit false

namespace Recovery

variable {Other : Interface} {α β σ : Type}

/-! ## Creations -/

/-- The namespace and the object of a creation that has succeeded. -/
def Mark.created? : Mark (Cloud Other) → Option (String × Object)
  | .ended _ (.create ns object) (.ok _) => some (ns, object)
  | _ => none

def CloudCall.isCreate : CloudCall Other → Bool
  | .create _ _ => true
  | _ => false

/-- Creates nothing. -/
def CloudCall.Barren (c : CloudCall Other) : Prop := c.isCreate = false

theorem CloudCall.Asks.barren {c : CloudCall Other} (h : c.Asks) : c.Barren := by
  cases c <;> first | rfl | cases h

theorem Mark.created?_of_barren {m : Mark (Cloud Other)} (h : CloudCall.Barren m.call) :
    m.created? = none := by
  unfold created?
  split
  · cases h
  · rfl

/-- Creates nothing. -/
abbrev Cloud.Barren (task : Task (Cloud Other) α) : Prop := Task.Only CloudCall.Barren task

theorem Cloud.Asks.barren {task : Task (Cloud Other) α} (h : Asks task) : Barren task :=
  h.mono fun _ => CloudCall.Asks.barren

/-- Between the two worlds just these objects are created, in this order. -/
def World.Creates (w : World (Cloud Other)) (objects : List (String × Object))
    (w' : World (Cloud Other)) : Prop :=
  ∃ added, w'.marks = w.marks ++ added ∧ added.filterMap Mark.created? = objects

namespace World.Creates

variable {script : Script (Cloud Other)} {guards : List Guard} {w w' w'' : World (Cloud Other)}
  {objects later : List (String × Object)}

theorem refl (w : World (Cloud Other)) : w.Creates [] w := ⟨[], (List.append_nil _).symm, rfl⟩

theorem trans (h : w.Creates objects w') (h' : w'.Creates later w'') :
    w.Creates (objects ++ later) w'' := by
  obtain ⟨added, marks, rfl⟩ := h
  obtain ⟨more, marks', rfl⟩ := h'
  exact ⟨added ++ more, by rw [marks', marks, List.append_assoc], List.filterMap_append⟩

theorem of_barren {task : Task (Cloud Other) α} {a : α} (h : Cloud.Barren task)
    (ended : task script guards w = .done a w') : w.Creates [] w' := by
  obtain ⟨added, adds, barren⟩ := h.done ended
  exact ⟨added, adds.marks, List.filterMap_eq_nil_iff.mpr fun m mem =>
    Mark.created?_of_barren (barren m mem)⟩

theorem of_make {ns : String} {object : Object}
    (ended : (Cloud.make ns object).run script guards w = .done (.ok ()) w') :
    w.Creates [(ns, object)] w' := by
  obtain ⟨r, made, ok⟩ := Task.map_done.mp ended
  cases r with
  | ok _ => exact ⟨_, (Task.call_done made).marks, rfl⟩
  | error e => cases ok

end World.Creates

namespace Recorded

/-- Whenever it succeeds, just these objects have been created, in this order. -/
structure Creates (saga : Recorded σ (Cloud Other) α) (objects : List (String × Object)) :
    Prop where
  created : ∀ {script : Script (Cloud Other)} {guards : List Guard} {w w' : World (Cloud Other)}
    {record record' : σ} {a : α}, saga.runFrom record script guards w = .done (.ok a, record') w' →
    w.Creates objects w'

theorem Creates.bind {saga : Recorded σ (Cloud Other) α} {next : α → Recorded σ (Cloud Other) β}
    {objects later : List (String × Object)} (h : saga.Creates objects)
    (h' : ∀ a, (next a).Creates later) : (saga >>= next).Creates (objects ++ later) := by
  constructor
  intro script guards w w' record record' b ended
  rcases bind_done.mp ended with ⟨a, middle, v, first, second⟩ | ⟨_, -, ⟨⟩⟩
  exact (h.created first).trans ((h' a).created second)

theorem creates_of_barren {saga : Recorded σ (Cloud Other) α} (h : saga.Only CloudCall.Barren) :
    saga.Creates [] :=
  ⟨fun ended => .of_barren (h _) ended⟩

end Recorded

namespace Part

theorem make_ok {ns : String} {object : Object} {place : Part → List Part → List Part}
    {script : Script (Cloud Other)} {guards : List Guard} {w w' : World (Cloud Other)}
    {parts parts' : List Part} (h : (make ns object place).runFrom parts script guards w =
      .done (.ok (), parts') w') :
    w.Creates [(ns, object)] w' ∧ parts' = place (.ofObject object) parts := by
  rcases Recorded.bind_done.mp h with ⟨_, middle, v, made, noted⟩ | ⟨_, -, ⟨⟩⟩
  obtain ⟨created, rfl⟩ := Recorded.ofSaga_done.mp made
  rw [Recorded.runFrom_modify] at noted
  obtain ⟨same, rfl⟩ := Task.pure_done.mp noted
  exact ⟨.of_make created, (Prod.mk.inj same).2.symm⟩

theorem creates_make (ns : String) (object : Object) (place : Part → List Part → List Part) :
    (make ns object place : Recorded (List Part) (Cloud Other) Unit).Creates [(ns, object)] :=
  ⟨fun ended => (make_ok ended).1⟩

theorem creates_await (scope : Scope) (ns : String) (awaited : Awaited) (timeout : Nat) :
    (await scope ns awaited timeout : Recorded (List Part) (Cloud Other) _).Creates [] :=
  Recorded.creates_of_barren (only_await (fun _ => CloudCall.Asks.barren) scope ns awaited timeout)

end Part

/-! ## Clones of clusters -/

namespace ClusterCloning

theorem creates_issue (scope : Scope) (o : ClusterCloning) (certificate : Certificate) :
    (issue scope o certificate : Recorded _ (Cloud Other) _).Creates
      [(o.ns, .certificate certificate)] :=
  (Part.creates_make _ _ _).bind fun _ => Part.creates_await _ _ _ _

theorem creates_build (scope : Scope) (o : ClusterCloning) (source : Cluster) :
    (build scope o source : Recorded _ (Cloud Other) _).Creates
      [(o.ns, .certificate o.serverCertificate), (o.ns, .certificate o.clientCertificate),
        (o.ns, .certificate o.replicationCertificate), (o.ns, .cluster (o.cluster source))] :=
  (Part.creates_await _ _ _ _).bind fun _ => (creates_issue scope o o.serverCertificate).bind
    fun _ => (creates_issue scope o o.clientCertificate).bind fun _ =>
    (creates_issue scope o o.replicationCertificate).bind fun _ =>
    (Part.creates_make _ _ _).bind fun _ => Part.creates_await _ _ _ _

section Run

variable {scope : Scope} {o : ClusterCloning} {script : Script (Cloud Other)}
  {guards : List Guard} {w w' : World (Cloud Other)}

/-- What was not built is not handed out, whatever is deleted. -/
theorem settle_ok {built : Except Fault Unit} {parts : List Part}
    (h : settle scope o built parts script guards w = .done (.ok ()) w') : built = .ok () := by
  cases built with
  | ok _ => rfl
  | error fault =>
    obtain ⟨_, v, discarded, deleted⟩ := Task.bind_done.mp h
    obtain ⟨cleaned, -, rfl⟩ := Cleanup.foldInto_done.mp discarded
    obtain ⟨cleaned', -, same⟩ := Cleanup.foldInto_done.mp deleted
    cases cleaned <;> cases cleaned' <;> cases same

theorem creates_run {clone : ClonedCluster}
    (h : (run scope o).run script guards w = .done (.ok clone) w') :
    ∃ source, w.Creates (o.creations source) w' ∧ clone.ns = o.ns ∧ clone.name = o.clone := by
  rcases Saga.bind_done.mp h with ⟨_, w₁, validated, h⟩ | ⟨_, -, ⟨⟩⟩
  rcases Saga.bind_done.mp h with ⟨_, w₂, awaited, h⟩ | ⟨_, -, ⟨⟩⟩
  rcases Saga.bind_done.mp h with ⟨source, w₃, searched, h⟩ | ⟨_, -, ⟨⟩⟩
  rcases Saga.bind_done.mp h with ⟨_, w₄, begun, h⟩ | ⟨_, -, ⟨⟩⟩
  obtain ⟨built, parts, w₅, ran, h⟩ := Recorded.runFrom_bind_done.mp h
  rcases Saga.bind_done.mp h with ⟨⟨⟩, w₆, settled, h⟩ | ⟨_, -, ⟨⟩⟩
  obtain ⟨given, rfl⟩ := Task.pure_done.mp h
  cases given
  have settled : settle scope o built parts script guards w₅ = .done (.ok ()) w₆ := settled
  obtain rfl := settle_ok settled
  have found : w.Creates [] w₃ :=
    ((World.Creates.of_barren (.pure _) validated).trans <|
      .of_barren (Cloud.asks_awaitIssuer _ _ _ _).barren awaited).trans <|
      .of_barren o.asks_findSource.barren searched
  have kept : w₅.Creates [] w₆ :=
    .of_barren (only_settle (p := CloudCall.Barren) (fun _ _ _ => rfl) scope o _ parts) settled
  have built := (creates_build scope o source).created ran
  exact ⟨source, ((found.trans (.of_make begun)).trans built).trans kept, rfl, rfl⟩

end Run

end ClusterCloning

/-! ## Clones of volumes -/

namespace VolumeCloning

def creations (o : VolumeCloning) (source : Claim) (bytes : Nat) : List (String × Object) :=
  [(o.ns, .snapshot (.ofClaim o.ns o.snapshotName o.source o.snapshotClass)),
    (o.ns, .claim (o.manifest source bytes))]

section Run

variable {scope : Scope} {o : VolumeCloning} {script : Script (Cloud Other)}
  {guards : List Guard} {w w' : World (Cloud Other)}

theorem creates_build {source : Claim} {parts : List Part}
    (h : (build scope o source).runFrom [] script guards w = .done (.ok (), parts) w') :
    (∃ bytes, w.Creates (o.creations source bytes) w') ∧
      parts = [⟨.claim, o.name⟩, ⟨.snapshot, o.snapshotName⟩] := by
  rcases Recorded.bind_done.mp h with ⟨_, _, w₁, snapshot, h⟩ | ⟨_, -, ⟨⟩⟩
  rcases Recorded.bind_done.mp h with ⟨ready, _, w₂, awaited, h⟩ | ⟨_, -, ⟨⟩⟩
  rcases Recorded.bind_done.mp h with ⟨bytes, _, w₃, sized, claim⟩ | ⟨_, -, ⟨⟩⟩
  obtain ⟨created, rfl⟩ := Part.make_ok snapshot
  have waited := (Part.creates_await _ _ _ _).created awaited
  obtain ⟨-, rfl⟩ := Recorded.ofSaga_done.mp awaited
  obtain ⟨same, rfl⟩ := Task.pure_done.mp sized
  obtain ⟨-, rfl⟩ := Prod.mk.inj same
  obtain ⟨created', rfl⟩ := Part.make_ok claim
  exact ⟨⟨bytes, (created.trans waited).trans created'⟩, rfl⟩

theorem creates_run {clone : ClonedVolume}
    (h : (run scope o).run script guards w = .done (.ok clone) w') :
    (∃ source bytes, w.Creates (o.creations source bytes) w') ∧
      clone.claimName = some o.name := by
  rcases Saga.bind_done.mp h with ⟨found, w₁, searched, h⟩ | ⟨_, -, ⟨⟩⟩
  cases found with
  | none =>
    obtain ⟨⟨⟩, -⟩ := Task.pure_done.mp h
  | some source =>
    obtain ⟨built, parts, w₂, ran, h⟩ := Recorded.runFrom_bind_done.mp h
    cases built with
    | error fault =>
      obtain ⟨cleaned, -, same⟩ := Cleanup.foldInto_done.mp h
      cases cleaned <;> cases same
    | ok _ =>
      obtain ⟨given, rfl⟩ := Task.pure_done.mp h
      cases given
      obtain ⟨⟨bytes, created⟩, rfl⟩ := creates_build ran
      have asked := World.Creates.of_barren (Cloud.asks_findClaim _ _).barren searched
      exact ⟨⟨source, bytes, asked.trans created⟩, rfl⟩

end Run

end VolumeCloning

end Recovery
