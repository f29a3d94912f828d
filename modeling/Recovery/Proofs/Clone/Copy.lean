import Recovery.Proofs.Clone.Rollback
import Recovery.Proofs.Cloud.Attempt
import Recovery.Proofs.Quantity.Format
/-!
# The story of a cloned volume

A cloning asks for the source, takes a snapshot of it, waits until that is ready and restores it to
a claim that has room for all of it. What is asked for is read back as the larger of the two sizes,
byte for byte. When a step fails, the snapshot is deleted if it was taken, and nothing else is.
-/
set_option autoImplicit false

namespace Recovery

variable {Other : Interface}

namespace VolumeCloning

/-! ## Sizes -/

/-- What a size that may be missing comes to in bytes. -/
inductive Declares : Option String → Nat → Prop where
  | absent : Declares none 0
  | given {text : String} {bytes : Nat} : Quantity.parseBytes text = .ok bytes →
    Declares (some text) bytes

theorem bytesOf_eq_ok_iff {what : String} {size : Option String} {bytes : Nat} :
    bytesOf what size = .ok bytes ↔ Declares size bytes := by
  cases size with
  | none =>
    constructor
    · rintro ⟨⟩
      exact .absent
    · rintro ⟨⟩
      rfl
  | some text =>
    refine mapError_eq_ok_iff.trans ⟨.given, ?_⟩
    rintro (_ | parsed)
    exact parsed

theorem Declares.lt_limit {size : Option String} {bytes : Nat} (declares : Declares size bytes) :
    bytes < Quantity.limit := by
  cases declares with
  | absent => decide
  | given parsed => exact Quantity.lt_limit_of_parseBytes parsed

/-- The larger of the size that the snapshot restores to and the size that the source requests,
if there is one that is not zero. -/
inductive Sized (source : Claim) (ready : Snapshot) : Nat → Prop where
  | larger {restored requested : Nat} :
    Declares (ready.status.bind SnapshotStatus.restoreSize) restored →
    Declares source.requestedStorage requested → 0 < max restored requested →
    Sized source ready (max restored requested)

theorem Sized.lt_limit {source : Claim} {ready : Snapshot} {bytes : Nat}
    (sized : Sized source ready bytes) : bytes < Quantity.limit := by
  obtain ⟨restored, requested, -⟩ := sized
  exact Nat.max_lt.mpr ⟨restored.lt_limit, requested.lt_limit⟩

theorem size_eq_ok_iff {o : VolumeCloning} {source : Claim} {ready : Snapshot} {bytes : Nat} :
    o.size source ready = .ok bytes ↔ Sized source ready bytes := by
  constructor
  · intro sized
    obtain ⟨restored, read, sized⟩ := bind_eq_ok_iff.mp sized
    obtain ⟨requested, read', sized⟩ := bind_eq_ok_iff.mp sized
    split at sized
    · cases sized
    · next some_byte =>
      cases sized
      exact .larger (bytesOf_eq_ok_iff.mp read) (bytesOf_eq_ok_iff.mp read')
        (Nat.pos_of_ne_zero some_byte)
  · rintro ⟨restored, requested, some_byte⟩
    rw [size, bytesOf_eq_ok_iff.mpr restored, bytesOf_eq_ok_iff.mpr requested]
    exact if_neg some_byte.ne'

/-! ## The copy -/

/-- The snapshot that a cloning takes of its source. -/
def snapshot (o : VolumeCloning) : Snapshot :=
  .ofClaim o.ns o.snapshotName o.source o.snapshotClass

/-- A claim to which the snapshot can be restored. Its size is read back as the larger of the two
that are given, and so as no less than either. -/
structure IsCopy (o : VolumeCloning) (source : Claim) (ready : Snapshot) (copy : Claim) : Prop where
  name : copy.metadata.name = some o.name
  ns : copy.metadata.namespace_ = some o.ns
  storage : ∃ text bytes, copy.requestedStorage = some text ∧ Sized source ready bytes ∧
    Quantity.parseBytes text = .ok bytes
  dataSource : ∃ data, copy.spec.bind ClaimSpec.dataSource = some data ∧
    data.apiGroup = some "snapshot.storage.k8s.io" ∧ data.kind = "VolumeSnapshot" ∧
    o.snapshot.metadata.name = some data.name
  accessModes : copy.spec.bind ClaimSpec.accessModes =
    some ((source.spec.bind ClaimSpec.accessModes).getD ["ReadWriteOnce"])
  storageClass : copy.spec.bind ClaimSpec.storageClassName =
    o.storageClass.or (source.spec.bind ClaimSpec.storageClassName)

theorem isCopy_manifest {o : VolumeCloning} {source : Claim} {ready : Snapshot} {bytes : Nat}
    (sized : Sized source ready bytes) : o.IsCopy source ready (o.manifest source bytes) := by
  have read := Quantity.parseBytes_format sized.lt_limit
  exact ⟨rfl, rfl, ⟨_, _, rfl, sized, read⟩, ⟨_, rfl, rfl, rfl, rfl⟩, rfl, rfl⟩

/-! ## Building -/

/-- The search for the source, and what came of it. -/
def search (o : VolumeCloning) (found : Except Fault (Option Claim)) : Attempt (Cloud Other) :=
  ⟨CloudCall.findClaim o.ns o.source, some found⟩

def take (o : VolumeCloning) (result : Except Fault Unit) : Attempt (Cloud Other) :=
  ⟨CloudCall.create o.ns (.snapshot o.snapshot), some result⟩

def wait (o : VolumeCloning) (result : Except Fault Snapshot) : Attempt (Cloud Other) :=
  ⟨CloudCall.await (.snapshot o.snapshotName) o.ns o.timeouts.snapshotReady, some result⟩

def restore (o : VolumeCloning) (copy : Claim) (result : Except Fault Unit) :
    Attempt (Cloud Other) :=
  ⟨CloudCall.create o.ns (.claim copy), some result⟩

/-- The claim and the snapshot, in the order in which they are deleted. -/
def parts (o : VolumeCloning) : List Part := [⟨.claim, o.name⟩, ⟨.snapshot, o.snapshotName⟩]

/-- What is attempted once the snapshot is taken, up to what fails. -/
inductive Falls (o : VolumeCloning) (source : Claim) : List (Attempt (Cloud Other)) → Prop where
  | unready (e : Fault) : Falls o source [o.wait (.error e)]
  | unsized (ready : Snapshot) : (¬∃ bytes, Sized source ready bytes) →
    Falls o source [o.wait (.ok ready)]
  | refused (ready : Snapshot) (copy : Claim) (e : Fault) : o.IsCopy source ready copy →
    Falls o source [o.wait (.ok ready), o.restore copy (.error e)]

/-- How a snapshot of the source is taken and restored, whether that succeeds, and which parts are
recorded. -/
inductive Builds (o : VolumeCloning) (source : Claim) :
    List (Attempt (Cloud Other)) → Except Fault Unit → List Part → Prop where
  | untaken (e fault : Fault) : Builds o source [o.take (.error e)] (.error fault) []
  | fallen {rest : List (Attempt (Cloud Other))} (fault : Fault) : Falls o source rest →
    Builds o source (o.take (.ok ()) :: rest) (.error fault) [⟨.snapshot, o.snapshotName⟩]
  | built (ready : Snapshot) (copy : Claim) : o.IsCopy source ready copy →
    Builds o source [o.take (.ok ()), o.wait (.ok ready), o.restore copy (.ok ())] (.ok ()) o.parts

section Build

variable {scope : Scope} {o : VolumeCloning} {source : Claim} {script : Script (Cloud Other)}
  {guards : List Guard} {w w' : World (Cloud Other)} {built : Except Fault Unit}
  {recorded : List Part}

/-- The steps after the snapshot is ready. -/
theorem restore_makes {ready : Snapshot} {parts : List Part}
    (ended : (Recorded.ofResult (o.size source ready) >>= fun bytes =>
      Part.make o.ns (.claim (o.manifest source bytes)) Part.first).runFrom parts script guards w =
        .done (built, recorded) w') :
    ∃ attempts, w.Makes script attempts w' ∧
      ((∃ copy, o.IsCopy source ready copy ∧ attempts = [o.restore copy (.ok ())] ∧
          built = .ok () ∧ recorded = ⟨.claim, o.name⟩ :: parts) ∨
        ∃ fault, o.Falls source (o.wait (.ok ready) :: attempts) ∧ built = .error fault ∧
          recorded = parts) := by
  rcases Recorded.ofSaga_bind_done.mp ended with ⟨bytes, v, sized, made⟩ |
    ⟨fault, unsized, rfl, rfl⟩
  · obtain ⟨size_eq, rfl⟩ := Task.pure_done.mp sized
    have copies := isCopy_manifest (o := o) (size_eq_ok_iff.mp size_eq)
    obtain ⟨result, makes, same, rfl⟩ := Part.make_makes made
    refine ⟨_, makes, ?_⟩
    cases result with
    | ok _ =>
      cases built with
      | ok _ => exact .inl ⟨_, copies, rfl, rfl, rfl⟩
      | error fault => cases same
    | error e =>
      cases built with
      | ok _ => cases same
      | error fault => exact .inr ⟨fault, .refused ready _ e copies, rfl, rfl⟩
  · obtain ⟨size_eq, rfl⟩ := Task.pure_done.mp unsized
    refine ⟨[], .refl _, .inr ⟨fault, .unsized ready ?_, rfl, rfl⟩⟩
    rintro ⟨bytes, sized⟩
    cases size_eq.symm.trans (size_eq_ok_iff.mpr sized)

theorem build_makes
    (ended : (build scope o source).runFrom [] script guards w = .done (built, recorded) w') :
    ∃ attempts, w.Makes script attempts w' ∧ o.Builds source attempts built recorded := by
  rcases Recorded.bind_done.mp ended with ⟨_, _, v, took, ended⟩ | ⟨fault, took, rfl⟩
  · obtain ⟨result, taken, same, rfl⟩ := Part.make_makes took
    cases result with
    | error e => cases same
    | ok _ =>
      rcases Recorded.ofSaga_bind_done.mp ended with ⟨ready, v', waited, ended⟩ |
        ⟨fault, waited, rfl, rfl⟩
      · obtain ⟨result, awaited, same⟩ := Cloud.awaitMade_makes waited
        obtain rfl := mapError_eq_ok_iff.mp same.symm
        obtain ⟨attempts, makes, story⟩ := restore_makes ended
        refine ⟨_, taken.trans (awaited.trans makes), ?_⟩
        obtain ⟨copy, copies, rfl, rfl, rfl⟩ | ⟨fault, falls, rfl, rfl⟩ := story
        · exact .built ready copy copies
        · exact .fallen fault falls
      · obtain ⟨result, awaited, same⟩ := Cloud.awaitMade_makes waited
        obtain ⟨e, rfl, -⟩ := mapError_eq_error_iff.mp same.symm
        exact ⟨_, taken.trans awaited, .fallen fault (.unready e)⟩
  · obtain ⟨result, taken, same, rfl⟩ := Part.make_makes took
    cases result with
    | ok _ => cases same
    | error e => exact ⟨_, taken, .untaken e fault⟩

end Build

/-! ## The whole story -/

/-- What a cloning attempts, and what comes of it. -/
inductive Story (o : VolumeCloning) :
    List (Attempt (Cloud Other)) → Except Fault ClonedVolume → Prop where
  | unread (e fault : Fault) : Story o [o.search (.error e)] (.error fault)
  | absent (fault : Fault) : Story o [o.search (.ok none)] (.error fault)
  | untaken (source : Claim) (e fault : Fault) :
    Story o [o.search (.ok (some source)), o.take (.error e)] (.error fault)
  | undone {source : Claim} {rest : List (Attempt (Cloud Other))} {last : Attempt (Cloud Other)}
      (fault : Fault) : o.Falls source rest →
    last.call = CloudCall.delete .snapshot o.ns o.snapshotName →
    Story o (o.search (.ok (some source)) :: o.take (.ok ()) :: rest ++ [last]) (.error fault)
  | copied {source : Claim} {ready : Snapshot} {copy : Claim} : o.IsCopy source ready copy →
    Story o [o.search (.ok (some source)), o.take (.ok ()), o.wait (.ok ready),
      o.restore copy (.ok ())] (.ok ⟨o.ns, o.parts⟩)

section Story

variable {scope : Scope} {o : VolumeCloning} {source : Claim} {script : Script (Cloud Other)}
  {guards : List Guard} {w w' : World (Cloud Other)} {r : Except Fault ClonedVolume}

/-- What is recorded is deleted if the building failed. -/
theorem story_of_built {attempts : List (Attempt (Cloud Other))} {built : Except Fault Unit}
    {recorded : List Part} (rooted : script.root < w.clock.fresh)
    (builds : o.Builds source attempts built recorded)
    (ended : (finish scope o (built, recorded)).run script guards w = .done r w') :
    ∃ undoing, w.Makes script undoing w' ∧
      o.Story (o.search (.ok (some source)) :: attempts ++ undoing) r := by
  cases builds with
  | built ready copy copies =>
    obtain ⟨rfl, rfl⟩ := Task.pure_done.mp ended
    exact ⟨[], .refl _, .copied copies⟩
  | untaken e fault =>
    obtain ⟨cleaned, ran, rfl⟩ := Cleanup.foldInto_done.mp ended
    obtain ⟨undoing, makes, calls⟩ := Part.discard_makes rooted ran
    obtain rfl := List.map_eq_nil_iff.mp calls
    refine ⟨[], makes, ?_⟩
    cases cleaned <;> exact .untaken source e _
  | fallen fault falls =>
    obtain ⟨cleaned, ran, rfl⟩ := Cleanup.foldInto_done.mp ended
    obtain ⟨undoing, makes, calls⟩ := Part.discard_makes rooted ran
    obtain ⟨last, rfl, call⟩ := List.map_eq_singleton_iff.mp calls
    refine ⟨[last], makes, ?_⟩
    cases cleaned <;> exact .undone _ falls call

/-- Whatever the calls come to, a cloning goes from the source to the copy up to the first step
that fails, and then deletes the snapshot if it was taken, and nothing else. It succeeds with both
parts, and the claim that it asks for has room for all of the source. -/
theorem run_copies (rooted : script.root < w.clock.fresh)
    (ended : (run scope o).run script guards w = .done r w') :
    ∃ attempts added, w'.marks = w.marks ++ added ∧ Attempt.Leave attempts added ∧
      o.Story attempts r := by
  suffices story : ∃ attempts, w.Makes script attempts w' ∧ o.Story attempts r by
    obtain ⟨attempts, ⟨added, adds, leave⟩, story⟩ := story
    exact ⟨attempts, added, adds.marks, leave, story⟩
  rcases Saga.bind_done.mp ended with ⟨found, v, searched, ended⟩ | ⟨fault, searched, rfl⟩
  · have asked := Task.call_makes searched
    cases found with
    | none =>
      obtain ⟨rfl, rfl⟩ := Task.pure_done.mp ended
      exact ⟨_, asked, .absent _⟩
    | some source =>
      obtain ⟨built, recorded, v', ran, ended⟩ := Recorded.runFrom_bind_done.mp ended
      obtain ⟨attempts, makes, builds⟩ := build_makes ran
      have forward := asked.trans makes
      have rooted' := Nat.lt_of_lt_of_le rooted forward.fresh_le
      obtain ⟨undoing, undone, story⟩ := story_of_built rooted' builds ended
      exact ⟨_, forward.trans undone, story⟩
  · exact ⟨_, Task.call_makes searched, .unread _ fault⟩

end Story

/-- A source that requests less than its snapshot restores to; the new claim is refused after a
while. -/
def refusing : Script (Cloud .silent) where
  root := 0
  answer
    | _, .findClaim ns name =>
      .immediate (.ok (some (.sized ns name "1Gi" ["ReadWriteMany"] (some "fast") none)))
    | _, .await (.snapshot name) ns _ =>
      .immediate (.ok ⟨.managed name ns [], ⟨⟨none⟩, none⟩, some ⟨some true, some "1.5Gi", none⟩⟩)
    | _, .create _ (.claim _) => ⟨false, false, 7, .error (.precondition "quota" "exceeded")⟩
    | _, c => .immediate (.ok (Cloud.grant c))

def sample : VolumeCloning := ⟨"prod", "data", "data-dr", none, none, .default⟩

theorem run_copies_of_refused_claim :
    ∃ r w', (run .unbounded sample).run refusing [] .initial = .done r w' ∧ r.isOk = false ∧
      w'.log.length = 5 ∧
      ∃ attempts added, w'.marks = [] ++ added ∧ Attempt.Leave attempts added ∧
        sample.Story attempts r := by
  have ends : ∃ r w', (run .unbounded sample).run refusing [] .initial = .done r w' ∧
      r.isOk = false ∧ w'.log.length = 5 := ⟨_, _, rfl, rfl, rfl⟩
  obtain ⟨r, w', ended, failed, calls⟩ := ends
  exact ⟨r, w', ended, failed, calls, run_copies Nat.zero_lt_one ended⟩

end VolumeCloning

end Recovery
