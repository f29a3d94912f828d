import Recovery.Proofs.Cloud.Calls
import Recovery.Proofs.Timed.Decision
import Recovery.Proofs.Timed.Trail
import Recovery.Proofs.Volume.Size
/-!
# How a store is provided

To see to its claim, a store asks for the size of each cluster, unless one is given, and then for
the claim, which it makes if there is none. It is made with just the size that is calculated, and
not at all if there is none. A cancellation and a deadline of its scope end the reading of the
clusters, as long as that is not over.
-/
set_option autoImplicit false

namespace Recovery

variable {Other : Interface}

namespace Store

/-! ## Reading the clusters -/

/-- The call that asks for a cluster. -/
def asking (ns name : String) : (Cloud Other).Call := CloudCall.findCluster ns name

/-- A cluster is asked for, and this is what came of it. -/
def lookUp (ns name : String) (found : Option (Except Fault (Option Cluster))) :
    Attempt (Cloud Other) :=
  ⟨asking ns name, found⟩

/-- The clusters are asked for in order, up to the first that cannot be read, does not exist or has
no size. -/
inductive Reads (ns : String) : List String → List (Attempt (Cloud Other)) →
    Option (Except Fault (List String)) → Prop where
  | finished : Reads ns [] [] (some (.ok []))
  | failed (name : String) (names : List String) (e : Fault) :
    Reads ns (name :: names) [lookUp ns name (some (.error e))] (some (.error e))
  | missing (name : String) (names : List String) :
    Reads ns (name :: names) [lookUp ns name (some (.ok none))]
      (some (.error (.precondition (Kind.cluster.title ns name) "cluster does not exist")))
  | unsized (name : String) (names : List String) {cluster : Cluster} :
    cluster.spec.storage.size = none →
    Reads ns (name :: names) [lookUp ns name (some (.ok (some cluster)))]
      (some (.error (.validation (Kind.cluster.title ns name) "spec.storage.size is not set")))
  | read (name : String) {names : List String} {cluster : Cluster} {size : String}
      {attempts : List (Attempt (Cloud Other))} {ending : Option (Except Fault (List String))} :
    cluster.spec.storage.size = some size → Reads ns names attempts ending →
    Reads ns (name :: names) (lookUp ns name (some (.ok (some cluster))) :: attempts)
      (ending.map (Except.map (size :: ·)))
  | cut (name : String) (names : List String) :
    Reads ns (name :: names) [lookUp ns name none] none

theorem clusterSizes_leaves (ns : String) (names : List String) :
    (clusterSizes ns names : Saga (Cloud Other) _).run.Leaves fun _ => Reads ns names := by
  induction names with
  | nil => exact Task.leaves_pure fun _ => .finished
  | cons name names ih =>
    refine Saga.leaves_call_bind (fun found => ?_) (fun _ => .failed name names)
      (fun _ => .cut name names)
    match (found : Option Cluster) with
    | none => exact Task.leaves_pure fun _ => .missing name names
    | some cluster =>
      cases size : cluster.spec.storage.size with
      | none =>
        simp only [size]
        exact Task.leaves_pure fun _ => .unsized name names size
      | some text =>
        simp only [size, bind_pure_comp, ExceptT.run_map]
        exact ih.map _ fun _ _ _ reads => .read name size reads

/-- What is asked of the clusters inside the scope, as far as that has come by now: nothing if a
size is given. -/
inductive Surveys (scope : Scope) (o : StoreOptions) (c : Clock) :
    List (Attempt (Cloud Other)) → Option (Except Fault (List String)) → Prop where
  | given : o.size.isSome → Surveys scope o c [] (some (.ok []))
  | ended {reads : List (Attempt (Cloud Other))} {r : Except Fault (List String)} :
    o.size = none → scope.Confines "read cluster sizes" (Reads o.ns o.clusters) c reads r →
    Surveys scope o c reads (some r)
  | cut {reads : List (Attempt (Cloud Other))} : o.size = none →
    Reads o.ns o.clusters reads none → Surveys scope o c reads none

theorem readSizes_leaves (scope : Scope) (s : Store) :
    (s.readSizes scope : Saga (Cloud Other) _).run.Leaves (Surveys scope s.options) := by
  unfold readSizes
  split
  · next given => exact Task.leaves_pure fun _ => .given given
  · next unset =>
    have unset := Option.not_isSome_iff_eq_none.mp unset
    exact Scope.leaves_run (clusterSizes_leaves _ _)
      (fun _ _ _ confines => .ended unset confines) (fun _ _ reads => .cut unset reads)

/-! ## The claim -/

/-- A claim of the store. Its size is read back as the one that was calculated, unless the clusters
have too much together for that to be written down. -/
structure IsClaim (o : StoreOptions) (sizes : List String) (bytes : Nat) (claim : Claim) :
    Prop where
  name : claim.metadata.name = some o.name
  ns : claim.metadata.namespace_ = some o.ns
  storage : ∃ text, claim.requestedStorage = some text ∧
    ((∀ total, AddUp sizes total → total < 2 ^ 127) → Quantity.parseBytes text = .ok bytes)
  accessModes : claim.spec.bind ClaimSpec.accessModes = some ["ReadWriteOnce"]
  storageClass : claim.spec.bind ClaimSpec.storageClassName = o.storageClass

theorem isClaim_manifest {s : Store} {sizes : List String} {bytes : Nat}
    (calculates : Calculates s.options.size sizes bytes) :
    IsClaim s.options sizes bytes (s.manifest bytes) := by
  refine ⟨rfl, rfl, ⟨_, rfl, fun small => ?_⟩, rfl, rfl⟩
  exact Quantity.parseBytes_format (calculates.lt_limit small)

/-- The search for the claim, and what came of it. -/
def search (s : Store) (found : Option (Except Fault (Option Claim))) : Attempt (Cloud Other) :=
  ⟨CloudCall.findClaim s.options.ns s.options.name, found⟩

def creation (s : Store) (claim : Claim) (result : Option (Except Fault Unit)) :
    Attempt (Cloud Other) :=
  ⟨CloudCall.create s.options.ns (.claim claim), result⟩

def recorded (s : Store) : Store := { s with claim := some s.options.name }

/-- What is attempted once the size is calculated: the claim is searched for, and made if there is
none. -/
inductive Settles (s : Store) (sizes : List String) (bytes : Nat) :
    List (Attempt (Cloud Other)) → Option (Except Fault Unit × Store) → Prop where
  | unknown (e : Fault) : Settles s sizes bytes [s.search (some (.error e))] (some (.error e, s))
  | reused (found : Claim) :
    Settles s sizes bytes [s.search (some (.ok (some found)))] (some (.ok (), s.recorded))
  | refused {claim : Claim} (e : Fault) : IsClaim s.options sizes bytes claim →
    Settles s sizes bytes [s.search (some (.ok none)), s.creation claim (some (.error e))]
      (some (.error (.context ("create " ++ s.title) e), s))
  | made {claim : Claim} : IsClaim s.options sizes bytes claim →
    Settles s sizes bytes [s.search (some (.ok none)), s.creation claim (some (.ok ()))]
      (some (.ok (), s.recorded))
  | searching : Settles s sizes bytes [s.search none] none
  | making {claim : Claim} : IsClaim s.options sizes bytes claim →
    Settles s sizes bytes [s.search (some (.ok none)), s.creation claim none] none

/-- How a store is provided, as far as that has come by now. -/
inductive Provides (s : Store) (scope : Scope) (c : Clock) :
    List (Attempt (Cloud Other)) → Option (Except Fault Unit × Store) → Prop where
  | reading {reads : List (Attempt (Cloud Other))} : Surveys scope s.options c reads none →
    Provides s scope c reads none
  | unread {reads : List (Attempt (Cloud Other))} {fault : Fault} :
    Surveys scope s.options c reads (some (.error fault)) →
    Provides s scope c reads (some (.error fault, s))
  | unsized {earlier : Clock} {reads : List (Attempt (Cloud Other))} {sizes : List String}
      {fault : Fault} : Surveys scope s.options earlier reads (some (.ok sizes)) →
    (¬∃ bytes, Calculates s.options.size sizes bytes) → fault.IsInvalid →
    Provides s scope c reads (some (.error fault, s))
  | sized {earlier : Clock} {reads attempts : List (Attempt (Cloud Other))} {sizes : List String}
      {bytes : Nat} {ending : Option (Except Fault Unit × Store)} :
    Surveys scope s.options earlier reads (some (.ok sizes)) →
    Calculates s.options.size sizes bytes → Settles s sizes bytes attempts ending →
    Provides s scope c (reads ++ attempts) ending

/-- The steps after the size is calculated. -/
theorem settle_leaves {s : Store} {sizes : List String} {bytes : Nat}
    (calculates : Calculates s.options.size sizes bytes) :
    (Recorded.runFrom (I := Cloud Other) (do
      let found ← Recorded.ofSaga (Cloud.findClaim s.options.ns s.options.name)
      if found.isNone then
        Recorded.ofSaga <|
          (Cloud.create s.options.ns (.claim (s.manifest bytes))).during ("create " ++ s.title)
      set s.recorded) s).Leaves fun _ => Settles s sizes bytes := by
  have claims := isClaim_manifest calculates
  refine Recorded.leaves_ofSaga_bind (Task.leaves_call _) (fun _ found _ sole => ?_)
    (fun _ e _ sole => ?_) (fun _ _ sole => ?_)
  · obtain rfl := sole
    match (found : Option Claim) with
    | some claim => exact Task.leaves_pure fun _ => .reused claim
    | none =>
      refine Recorded.leaves_ofSaga_bind (Saga.leaves_call_during _ _) ?_ ?_ ?_
      · rintro _ ⟨⟩ _ ⟨_ | e | _, rfl, ending⟩
        · cases ending
        · cases ending
        · exact Task.leaves_pure fun _ => .made claims
      · rintro _ _ _ ⟨_ | e | _, rfl, ending⟩
        · cases ending
        · cases ending
          exact .refused e claims
        · cases ending
      · rintro _ _ ⟨_ | e | _, rfl, ending⟩
        · exact .making claims
        · cases ending
        · cases ending
  · obtain rfl := sole
    exact .unknown e
  · obtain rfl := sole
    exact .searching

theorem ensureExists_leaves (scope : Scope) (s : Store) :
    ((ensureExists scope : Recorded Store (Cloud Other) Unit).runFrom s).Leaves
      (Provides s scope) := by
  rw [ensureExists, Recorded.runFrom_get_bind]
  refine Recorded.leaves_ofSaga_bind (readSizes_leaves scope s) (fun _ sizes reads surveys => ?_)
    (fun _ _ _ surveys => .unread surveys) (fun _ _ surveys => .reading surveys)
  rw [Recorded.runFrom_bind, Recorded.runFrom_ofResult, pure_bind]
  cases sized : size s.options.size sizes with
  | error fault =>
    refine Task.leaves_pure fun _ => ?_
    rw [List.append_nil]
    refine .unsized surveys ?_ (isInvalid_of_size sized)
    rintro ⟨bytes, calculates⟩
    cases sized.symm.trans (size_eq_ok_iff.mpr calculates)
  | ok bytes =>
    have calculates := size_eq_ok_iff.mp sized
    exact (settle_leaves calculates).mono fun _ _ _ settles => .sized surveys calculates settles

/-! ## The end of the scope -/

/-- What is answered when a cluster is asked for. -/
def answering (script : Script (Cloud Other)) (past : List (Cloud Other).Call)
    (ns name : String) : Outcome (Option Cluster) :=
  script.answer past (asking ns name)

/-- How the reading of the clusters spends its time, after what has been asked before. It goes on
after a cluster that has a size. -/
def readBeats (script : Script (Cloud Other)) (ns : String) :
    (past : List (Cloud Other).Call) → List String → List Beat
  | _, [] => []
  | past, name :: names =>
    let outcome := answering script past ns name
    outcome.beats ++
      match outcome.ending with
      | some (.ok (some cluster)) =>
        match cluster.spec.storage.size with
        | some _ => readBeats script ns (past ++ [asking ns name]) names
        | none => []
      | _ => []

section Halt

variable {script : Script (Cloud Other)} {past : List (Cloud Other).Call} {ns name : String}

theorem findCluster_foretold :
    (Cloud.findCluster ns name : Saga (Cloud Other) _).Foretold id script past
      (answering script past ns name).beats [asking ns name]
      (answering script past ns name).ending :=
  Saga.foretold_call (asking ns name)

theorem clusterSizes_foretold (names : List String) :
    ∃ asked ending, (clusterSizes ns names : Saga (Cloud Other) _).Foretold id script past
      (readBeats script ns past names) asked ending := by
  induction names generalizing past with
  | nil => exact ⟨[], _, Saga.foretold_pure []⟩
  | cons name names ih =>
    have found : (Cloud.findCluster ns name : Saga (Cloud Other) _).Foretold id script past _ _ _ :=
      findCluster_foretold
    rw [readBeats]
    rcases ending : (answering script past ns name).ending with _ | e | _ | cluster
    all_goals
      rw [ending] at found
      dsimp only
    · exact ⟨_, _, found.bind_endless _⟩
    · rw [List.append_nil]
      exact ⟨_, _, found.bind_error⟩
    · exact ⟨_, _, found.bind (Saga.foretold_fail _)⟩
    · refine found.exists_bind ?_
      cases size : cluster.spec.storage.size with
      | none =>
        simp only [size]
        exact ⟨_, _, Saga.foretold_fail _⟩
      | some text =>
        simp only [size]
        obtain ⟨asked, rest, reads⟩ := ih
        exact ⟨asked, _, reads.bind_pure _⟩

variable {scope : Scope} {s : Store} {w : World (Cloud Other)} {instant : Nat}

theorem clusterSizes_spends (names : List String) :
    ∃ ending, (clusterSizes ns names : Saga (Cloud Other) _).Spends script w
      (readBeats script ns (w.asked id) names) ending := by
  obtain ⟨asked, ending, foretold⟩ := clusterSizes_foretold names
  exact ⟨ending, foretold.spends rfl⟩

/-- The scope halts the reading of the clusters at this instant. It is cancelled already when that
begins; or else, before that is over, it is cancelled sooner than at its deadline, or its deadline
is there, at once if that has passed, and no later than it is cancelled. -/
inductive HaltsReading (scope : Scope) (o : StoreOptions) (script : Script (Cloud Other))
    (w : World (Cloud Other)) : Interrupt → Nat → Prop where
  | before : scope.isCancelled w.clock = true → HaltsReading scope o script w .cancelled w.clock.now
  | cancelled {instant : Nat} {beats : List Beat} : scope.isCancelled w.clock = false →
    beats = readBeats script o.ns (w.asked id) o.clusters →
    w.clock.cancellationIn script.root scope.tokens beats = some instant →
    NotBefore (instant + 1) ((Beat.length beats).map (w.clock.now + ·)) →
    NotBefore (instant + 1) scope.deadline → HaltsReading scope o script w .cancelled instant
  | expired {deadline : Nat} {beats : List Beat} : scope.isCancelled w.clock = false →
    beats = readBeats script o.ns (w.asked id) o.clusters → scope.deadline = some deadline →
    NotBefore (max w.clock.now deadline + 1) ((Beat.length beats).map (w.clock.now + ·)) →
    NotBefore (max w.clock.now deadline) (w.clock.cancellationIn script.root scope.tokens beats) →
    HaltsReading scope o script w .expired (max w.clock.now deadline)

theorem readSizes_of_halted {why : Interrupt} (unset : s.options.size = none)
    (halts : HaltsReading scope s.options script w why instant) :
    ∃ v, (s.readSizes scope).run script [] w =
        .done (.error (why.fault "read cluster sizes")) v ∧ v.clock.now = instant := by
  obtain ⟨ending, work⟩ : ∃ ending, (clusterSizes s.options.ns s.options.clusters).Spends script w
      (readBeats script s.options.ns (w.asked id) s.options.clusters) ending :=
    clusterSizes_spends s.options.clusters
  rw [readSizes, unset]
  cases halts with
  | before cancelled => exact ⟨w, Scope.run_of_cancelled cancelled, rfl⟩
  | cancelled going same struck asleep ahead =>
    rw [← same] at work
    exact work.run_cancelled "read cluster sizes" going struck asleep ahead
  | expired going same timed asleep spared =>
    rw [← same] at work
    exact work.run_expired "read cluster sizes" going timed asleep spared

/-- A scope that halts the reading of the clusters ends the whole, and nothing is made. -/
theorem ensureExists_of_halted {why : Interrupt} (unset : s.options.size = none)
    (halts : HaltsReading scope s.options script w why instant) :
    ∃ reads v, (ensureExists scope).runFrom s script [] w =
        .done (.error (why.fault "read cluster sizes"), s) v ∧ v.clock.now = instant ∧
      w.Makes script reads v ∧
      Surveys scope s.options v.clock reads (some (.error (why.fault "read cluster sizes"))) := by
  obtain ⟨v, ended, now⟩ := readSizes_of_halted unset halts
  obtain ⟨reads, makes, surveys⟩ := (readSizes_leaves scope s).done ended
  refine ⟨reads, v, ?_, now, makes, surveys⟩
  rw [ensureExists, Recorded.runFrom_get_bind]
  exact Recorded.ofSaga_bind_done.mpr (.inr ⟨_, ended, rfl, rfl⟩)

end Halt

/-- The size of a store is the one that it is asked to have or twice what the clusters have
together, in whichever order these come, and what is not a size is invalid. Whatever the calls come
to, the clusters are asked for in order up to the first without a size, and only if none is given.
The claim is made once if a size is calculated and no claim is found, and not otherwise, and what it
asks for is read back as that size. If the scope is cancelled or comes to its deadline while the
clusters are read, that ends there and then, and nothing is made. -/
theorem ensureExists_provides :
    (∀ (explicit : Option String) (sizes : List String),
      (∀ bytes, size explicit sizes = .ok bytes ↔ Calculates explicit sizes bytes) ∧
      (∀ other, sizes.Perm other →
        ∀ bytes, size explicit sizes = .ok bytes ↔ size explicit other = .ok bytes) ∧
      ∀ fault, size explicit sizes = .error fault → fault.IsInvalid) ∧
    ∀ (scope : Scope) (s : Store) (script : Script (Cloud Other)) (w : World (Cloud Other)),
      (∀ guards, ∃ attempts added,
        ((ensureExists scope).runFrom s script guards w).world.marks = w.marks ++ added ∧
        Attempt.Leave attempts added ∧
        s.Provides scope ((ensureExists scope).runFrom s script guards w).world.clock attempts
          ((ensureExists scope).runFrom s script guards w).value?) ∧
      ∀ why instant, s.options.size = none → HaltsReading scope s.options script w why instant →
        ∃ reads added v, (ensureExists scope).runFrom s script [] w =
            .done (.error (why.fault "read cluster sizes"), s) v ∧ v.clock.now = instant ∧
          v.marks = w.marks ++ added ∧ Attempt.Leave reads added ∧
          Surveys scope s.options v.clock reads
            (some (.error (why.fault "read cluster sizes"))) := by
  refine ⟨fun explicit sizes => ⟨fun _ => size_eq_ok_iff, fun other order bytes => ?order,
    fun _ => isInvalid_of_size⟩, fun scope s script w => ⟨fun guards => ?whole, ?halted⟩⟩
  case order =>
    rw [size_eq_ok_iff, size_eq_ok_iff]
    exact ⟨fun calculates => calculates.perm order, fun calculates => calculates.perm order.symm⟩
  case whole =>
    obtain ⟨attempts, ⟨added, adds, leave⟩, provides⟩ :=
      (ensureExists_leaves scope s).whole script guards w
    exact ⟨attempts, added, adds.marks, leave, provides⟩
  case halted =>
    intro why instant unset halts
    obtain ⟨reads, v, ended, now, ⟨added, adds, leave⟩, surveys⟩ :=
      ensureExists_of_halted unset halts
    exact ⟨reads, added, v, ended, now, adds.marks, leave, surveys⟩

/-- Grants every call. The first cluster takes so long to be read, and may cancel the root scope. -/
def granting (cancels : Bool) (delay : Nat) : Script (Cloud .silent) where
  root := 0
  answer
    | [], .findCluster ns name =>
      ⟨cancels, false, delay, .ok (Cloud.grant (.findCluster ns name))⟩
    | _, c => .immediate (.ok (Cloud.grant c))

/-- A store for two clusters. -/
def pair : Store := ⟨⟨"prod", "dr", none, none, none, ["a", "b"], .default⟩, none⟩

/-- Cancelled after 3 ms, or with a deadline after 4 ms, the store reads one cluster and makes
nothing; left alone, it reads both and makes its claim. -/
theorem ensureExists_provides_of_pair :
    let soon : World (Cloud .silent) :=
      ⟨Scope.unbounded.cancelAfter 3 (Scope.background .start).2, []⟩
    let brief : Scope := ⟨[0], some 4⟩
    HaltsReading .unbounded pair.options (granting false 5) soon .cancelled 3 ∧
    HaltsReading brief pair.options (granting false 5) .initial .expired 4 ∧
    (∃ reads added v, (ensureExists .unbounded).runFrom pair (granting false 5) [] soon =
        .done (.error (.cancelled "read cluster sizes"), pair) v ∧ v.clock.now = 3 ∧
      v.marks = [] ++ added ∧ Attempt.Leave reads added ∧
      Surveys .unbounded pair.options v.clock reads
        (some (.error (.cancelled "read cluster sizes")))) ∧
    (∃ reads added v, (ensureExists brief).runFrom pair (granting false 5) [] .initial =
        .done (.error (.deadlineExceeded "read cluster sizes"), pair) v ∧ v.clock.now = 4 ∧
      v.marks = [] ++ added ∧ Attempt.Leave reads added ∧
      Surveys brief pair.options v.clock reads
        (some (.error (.deadlineExceeded "read cluster sizes")))) ∧
    ∃ attempts added v, (ensureExists .unbounded).runFrom pair (granting false 5) [] .initial =
        .done (.ok (), pair.recorded) v ∧ v.log.length = 4 ∧ v.marks = [] ++ added ∧
      Attempt.Leave attempts added ∧
      pair.Provides .unbounded v.clock attempts (some (.ok (), pair.recorded)) := by
  intro soon brief
  have cancels : HaltsReading .unbounded pair.options (granting false 5) soon .cancelled 3 := by
    refine .cancelled rfl rfl rfl ?_ (notBefore_none 4)
    exact notBefore_some.mpr (show 4 ≤ 5 by decide)
  have expires : HaltsReading brief pair.options (granting false 5) .initial .expired 4 := by
    refine .expired rfl rfl rfl ?_ (notBefore_none 4)
    exact notBefore_some.mpr (show 5 ≤ 5 by decide)
  have struck := (ensureExists_provides.2 .unbounded pair (granting false 5) soon).2
  have late := (ensureExists_provides.2 brief pair (granting false 5) .initial).2
  have ends : ∃ v, (ensureExists .unbounded).runFrom pair (granting false 5) [] .initial =
      .done (.ok (), pair.recorded) v ∧ v.log.length = 4 := ⟨_, rfl, rfl⟩
  obtain ⟨v, ended, calls⟩ := ends
  obtain ⟨attempts, added, marks, leave, provides⟩ :=
    (ensureExists_provides.2 .unbounded pair (granting false 5) .initial).1 []
  rw [ended] at marks provides
  exact ⟨cancels, expires, struck _ 3 rfl cancels, late _ 4 rfl expires, attempts, added, v, ended,
    calls, marks, leave, provides⟩

/-- A cancellation that comes at the very instant at which the reading is over does not keep a store
from making its claim, though one of the clusters was still to be read. -/
theorem ensureExists_outruns_cancellation :
    ((granting true 0).answer [] (asking "prod" "a")).cancels = true ∧
    ∃ claim v, (ensureExists .unbounded).runFrom pair (granting true 0) [] .initial =
        .done (.ok (), pair.recorded) v ∧
      Scope.unbounded.isCancelled v.clock = true ∧
      v.log.map Entry.call = [asking "prod" "a", asking "prod" "b",
        CloudCall.findClaim "prod" "dr", CloudCall.create "prod" (.claim claim)] :=
  ⟨rfl, _, _, rfl, rfl, rfl⟩

end Store

end Recovery
