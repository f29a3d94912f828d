import Recovery.Proofs.Clone.Rollback
import Recovery.Proofs.Instant.Text
/-!
# The instant a clone is recovered to

The target of a recovery is written in whole seconds. It is read back as the start of the second
that was asked for, so that a recovery stops early by just the part of a second that was left out.
-/
set_option autoImplicit false

namespace Recovery

namespace Instant

variable {t : Instant}

/-- The start of the second that the instant lies in. -/
def wholeSecond (t : Instant) : Instant := ⟨t.seconds, if t.isLeap then nanosPerSecond else 0⟩

theorem IsReadable.read?_text_wholeSecond (readable : t.IsReadable) :
    read? (t.text .omitted) = some t.wholeSecond := by
  have zone : fraction? (Fraction.omitted.text (t.nanos % nanosPerSecond) ++ ['Z']) =
      some (0, ['Z']) := rfl
  rw [read?_text readable zone, Nat.zero_add, wholeSecond]

theorem IsReadable.nanos_eq (readable : t.IsReadable) :
    t.nanos = t.wholeSecond.nanos + t.nanos % nanosPerSecond := by
  have nanos_lt := readable.nanos_lt
  simp only [wholeSecond, isLeap, decide_eq_true_eq]
  unfold nanosPerSecond at *
  split <;> omega

theorem IsReadable.wholeSecond_eq_iff (readable : t.IsReadable) :
    t.wholeSecond = t ↔ t.nanos % nanosPerSecond = 0 := by
  have nanos_eq := readable.nanos_eq
  constructor
  · intro same
    rw [same] at nanos_eq
    omega
  · intro whole
    rw [whole, Nat.add_zero] at nanos_eq
    exact (congrArg (Instant.mk t.seconds) nanos_eq).symm

/-- Both instants lie in one second, so that no leap second is passed between them. -/
theorem IsReadable.wholeSecond_nanosUntil (readable : t.IsReadable) :
    t.wholeSecond.nanosUntil t = (t.nanos % nanosPerSecond : Nat) := by
  have second : t.wholeSecond.secondOfDay = t.secondOfDay := rfl
  have seconds : t.wholeSecond.seconds = t.seconds := rfl
  have leaps : t.wholeSecond.leapsUntil t = 0 := by
    rw [leapsUntil, second, if_neg (Nat.lt_irrefl _), if_neg (Nat.lt_irrefl _)]
  have nanos_eq := readable.nanos_eq
  rw [nanosUntil, leaps, seconds, Int.sub_self, Int.add_zero, Int.zero_mul, Int.zero_add]
  omega

end Instant

def Cluster.recoveryTarget? (c : Cluster) : Option RecoveryTarget :=
  c.spec.bootstrap.bind fun b => b.recovery.bind (·.recoveryTarget)

namespace ClusterCloning

variable {Other : Interface}

/-- The cluster is recovered to the end of its backup, or to the second that was asked for. -/
structure Targets (o : ClusterCloning) (c : Cluster) : Prop where
  latest : o.targetTime = none → c.recoveryTarget? = none
  earlier : ∀ t ∈ o.targetTime, ∃ text, c.recoveryTarget? = some ⟨some text⟩ ∧
    Instant.read? text = some t.wholeSecond

theorem targets_cluster {o : ClusterCloning} (readable : ∀ t ∈ o.targetTime, t.IsReadable)
    (source : Cluster) : o.Targets (o.cluster source) := by
  have target : (o.cluster source).recoveryTarget? = o.recoveryTarget := rfl
  constructor
  · intro unset
    rw [target, recoveryTarget, unset, Option.map_none]
  · intro t set
    refine ⟨t.text .omitted, ?_, (readable t set).read?_text_wholeSecond⟩
    rw [target, recoveryTarget, Option.mem_def.mp set, Option.map_some]

/-- Whatever a cloning comes to, a cluster that it creates has no recovery target if no instant is
asked for, and otherwise one that reads back as the start of the second of that instant. This is
the instant itself just if it has no part of a second, and else too early by that part. -/
theorem recoveryTarget_reads_back (scope : Scope) (o : ClusterCloning)
    (readable : ∀ t ∈ o.targetTime, t.IsReadable) :
    Task.Only (fun call => ∀ ns c, call = CloudCall.create ns (.cluster c) → o.Targets c)
      (run scope o : Saga (Cloud Other) ClonedCluster).run ∧
    ∀ t ∈ o.targetTime, (t.wholeSecond = t ↔ t.nanos % Instant.nanosPerSecond = 0) ∧
      t.wholeSecond.nanosUntil t = (t.nanos % Instant.nanosPerSecond : Nat) := by
  constructor
  · apply only_run
    · rintro _ asks ns c rfl
      cases asks
    · rintro kind ns name _ c ⟨⟩
    · rintro source ⟨_, _⟩ member ns c ⟨⟩
      simp only [creations, List.mem_cons, Prod.mk.injEq, reduceCtorEq, and_false,
        Object.cluster.injEq, List.not_mem_nil, false_or, or_false] at member
      rw [member.2]
      exact targets_cluster readable source
  · intro t set
    exact ⟨(readable t set).wholeSecond_eq_iff, (readable t set).wholeSecond_nanosUntil⟩

/-- Clones a cluster as of the last nanosecond of a second. -/
def late : ClusterCloning :=
  ⟨"prod", "main", "main-dr", .issuer "ca", some ⟨1709957106, 999999999⟩, .volumeSnapshot,
    .default⟩

theorem isReadable_of_late : ∀ t ∈ late.targetTime, t.IsReadable := by
  rintro _ ⟨⟩
  exact ⟨by decide, by decide, by decide⟩

/-- The cluster is created, though its backup cannot be deleted in time and it is dropped then. -/
theorem run_late_creates : ∃ r w', (run .unbounded late).run
      (Cloud.grudging .backup ⟨false, true, 0, .ok ()⟩) [] .initial = .done r w' ∧
    ∃ m ∈ w'.marks, ∃ source,
      m.call = CloudCall.create "prod" (.cluster (late.cluster source)) := by
  have ends : ∃ r w', (run .unbounded late).run
      (Cloud.grudging .backup ⟨false, true, 0, .ok ()⟩) [] .initial = .done r w' ∧
      ∃ m source, w'.marks[20]? = some m ∧
        m.call = CloudCall.create "prod" (.cluster (late.cluster source)) :=
    ⟨_, _, rfl, _, _, rfl, rfl⟩
  obtain ⟨r, w', ended, m, source, created, call⟩ := ends
  exact ⟨r, w', ended, m, List.mem_of_getElem? created, source, call⟩

theorem recoveryTarget_reads_back_of_late : (∀ t ∈ late.targetTime, t.IsReadable) ∧
    ∃ r w', (run .unbounded late).run (Cloud.grudging .backup ⟨false, true, 0, .ok ()⟩) []
        .initial = .done r w' ∧
      ∃ m ∈ w'.marks, ∃ c, m.call = CloudCall.create "prod" (.cluster c) ∧ late.Targets c := by
  obtain ⟨r, w', ended, m, member, source, call⟩ := run_late_creates
  obtain ⟨added, adds, all⟩ :=
    (recoveryTarget_reads_back .unbounded late isReadable_of_late).1.done ended
  have added_of : m ∈ [] ++ added := adds.marks ▸ member
  exact ⟨isReadable_of_late, r, w', ended, m, member, _, call, all m added_of "prod" _ call⟩

/-- The last nanosecond of a second is lost, and the transactions of the second with it. -/
theorem recoveryTarget_not_exact : ¬∀ (o : ClusterCloning) (script : Script (Cloud .silent))
    (r : Except Fault ClonedCluster) (w' : World (Cloud .silent)),
      (run .unbounded o).run script [] .initial = .done r w' →
      ∀ m ∈ w'.marks, ∀ ns c, m.call = CloudCall.create ns (.cluster c) →
      ∀ t ∈ o.targetTime, t.IsReadable →
        ∃ text, c.recoveryTarget? = some ⟨some text⟩ ∧ Instant.read? text = some t := by
  intro exact_target
  obtain ⟨r, w', ended, m, member, source, call⟩ := run_late_creates
  have readable := isReadable_of_late _ rfl
  obtain ⟨text, target, read⟩ := exact_target late _ r w' ended m member _ _ call _ rfl readable
  obtain ⟨text', target', read'⟩ := (targets_cluster isReadable_of_late source).earlier _ rfl
  cases target.symm.trans target'
  have whole := readable.wholeSecond_eq_iff.mp (Option.some.inj (read'.symm.trans read))
  exact absurd whole (by decide)

end ClusterCloning

end Recovery
