import Recovery.Clone.Cluster
import Recovery.Proofs.Cloud.Attempt
import Recovery.Proofs.Cloud.Calls
/-!
# The story of a cloned cluster

A cloning takes its steps in order up to the first that fails, and then deletes the backup and
whatever it does not hand out. Each way to cut the story short has a rollback of its own.
-/
set_option autoImplicit false

namespace Recovery

variable {Other : Interface}

namespace Credentials

theorem serverName_ne_clientName (cluster : String) : serverName cluster ≠ clientName cluster := by
  unfold serverName clientName superuser
  intro same
  rw [String.append_assoc, String.append_assoc] at same
  exact absurd ((String.append_right_inj cluster).mp same) (by decide)

theorem serverName_ne_replicationName (cluster : String) :
    serverName cluster ≠ replicationName cluster := by
  intro same
  exact absurd ((String.append_right_inj cluster).mp same) (by decide)

theorem clientName_ne_replicationName (cluster : String) :
    clientName cluster ≠ replicationName cluster := by
  unfold replicationName clientName superuser
  intro same
  rw [String.append_assoc, String.append_assoc] at same
  exact absurd ((String.append_right_inj cluster).mp same) (by decide)

end Credentials

namespace ClusterCloning

/-! ## Steps -/

def issueSteps (o : ClusterCloning) (certificate : Certificate) : List (Cloud Other).Call :=
  [CloudCall.create o.ns (.certificate certificate),
    CloudCall.await (.certificate certificate.spec.secretName) o.ns o.timeouts.resourceReady]

def finalSteps (o : ClusterCloning) (source : Cluster) : List (Cloud Other).Call :=
  [CloudCall.create o.ns (.cluster (o.cluster source)),
    CloudCall.await (.cluster o.clone) o.ns o.timeouts.clusterReady]

/-- The steps once the backup has been begun. -/
def buildSteps (o : ClusterCloning) (source : Cluster) : List (Cloud Other).Call :=
  CloudCall.await (.backup o.backupName) o.ns o.timeouts.backupReady ::
    (o.issueSteps o.serverCertificate ++ (o.issueSteps o.clientCertificate ++
      (o.issueSteps o.replicationCertificate ++ o.finalSteps source)))

def steps (o : ClusterCloning) (source : Cluster) : List (Cloud Other).Call :=
  CloudCall.await (.issuer o.issuer) o.ns o.timeouts.resourceReady ::
    CloudCall.findCluster o.ns o.source ::
    CloudCall.create o.ns (.backup o.backup) :: o.buildSteps source

/-- The search for the source, and what came of it. -/
def search (o : ClusterCloning) (found : Except Fault (Option Cluster)) :
    Attempt (Cloud Other) :=
  ⟨CloudCall.findCluster o.ns o.source, some found⟩

/-- The creation of the backup. -/
def begin (o : ClusterCloning) (result : Except Fault Unit) : Attempt (Cloud Other) :=
  ⟨CloudCall.create o.ns (.backup o.backup), some result⟩

/-- The next step follows a call that has succeeded; the search for the source has to find one
whose size can be read. -/
def Advances : Attempt (Cloud Other) → Prop
  | ⟨.findCluster _ _, some (.ok found)⟩ =>
    ∃ source size bytes, found = some source ∧ source.spec.storage.size = some size ∧
      Quantity.parseBytes size = .ok bytes
  | a => a.succeeded = true

theorem succeeded_of_advances (a : Attempt (Cloud Other)) (h : Advances a) :
    a.succeeded = true := by
  unfold Advances at h
  split at h
  · rfl
  · exact h

/-- What a finished clone consists of, in the order in which it is deleted. -/
def parts (o : ClusterCloning) : List Part :=
  [⟨.cluster, o.clone⟩, ⟨.certificate, Credentials.serverName o.clone⟩,
    ⟨.certificate, Credentials.clientName o.clone⟩,
    ⟨.certificate, Credentials.replicationName o.clone⟩]

/-- The backup as a part; no clone owns it. -/
def seed (o : ClusterCloning) : Part := ⟨.backup, o.backupName⟩

/-- How a cloning ends that has made these parts, given whether all of its steps were taken; the
last argument says whether the clone is handed out. -/
inductive RollsBack (o : ClusterCloning) (made : List Part) :
    Bool → List (Attempt (Cloud Other)) → Bool → Prop where
  | unbegun : o.seed ∉ made → RollsBack o made false [] false
  | undone {undoing : List (Attempt (Cloud Other))} {last : Attempt (Cloud Other)} :
    o.seed ∈ made →
    undoing.map Attempt.call = (o.parts.filter made.contains).map (Part.deletion o.ns) →
    last.call = o.seed.deletion o.ns → RollsBack o made false (undoing ++ [last]) false
  | dropped {first : Attempt (Cloud Other)} {undoing : List (Attempt (Cloud Other))} :
    o.seed ∈ made → first.call = o.seed.deletion o.ns → first.succeeded = false →
    undoing.map Attempt.call = o.parts.map (Part.deletion o.ns) →
    RollsBack o made true (first :: undoing) false
  | handedOut {only : Attempt (Cloud Other)} :
    o.seed ∈ made → only.call = o.seed.deletion o.ns → only.succeeded = true →
    RollsBack o made true [only] true

/-! ## Building -/

/-- Where a part that is made is recorded. -/
def place (parts : List Part) (p : Part) : List Part :=
  if p.kind = .cluster then Part.first p parts else Part.last p parts

def note (parts : List Part) (a : Attempt (Cloud Other)) : List Part :=
  a.made?.elim parts (place parts)

theorem foldl_note (attempts : List (Attempt (Cloud Other))) (parts : List Part) :
    attempts.foldl note parts = (attempts.filterMap Attempt.made?).foldl place parts := by
  induction attempts generalizing parts with
  | nil => rfl
  | cons a attempts ih =>
    rw [List.foldl_cons, ih, List.filterMap_cons, note]
    cases a.made? <;> rfl

section Building

variable (scope : Scope) (o : ClusterCloning)

theorem advances_create (object : Object) (r : Except Fault Unit) :
    r.isOk = true ↔ Advances (⟨CloudCall.create o.ns object, some r⟩ : Attempt (Cloud Other)) :=
  Iff.rfl

theorem advances_await (awaited : Awaited) (timeout : Nat) (r : Except Fault awaited.Reply) :
    r.isOk = true ↔
      Advances (⟨CloudCall.await awaited o.ns timeout, some r⟩ : Attempt (Cloud Other)) :=
  Iff.rfl

theorem takes_await (awaited : Awaited) (timeout : Nat) :
    (Part.await scope o.ns awaited timeout : Recorded (List Part) (Cloud Other) _).Takes Advances
      note [CloudCall.await awaited o.ns timeout] := by
  refine Part.takes_await (o.advances_await awaited timeout) ?_
  intro parts a ha
  have unmade : a.made? = none := by
    rw [Attempt.made?, ha]
    exact ite_self none
  rw [note, unmade]
  rfl

theorem takes_make {object : Object} {put : Part → List Part → List Part}
    (placed : ∀ parts, place parts (.ofObject object) = put (.ofObject object) parts) :
    (Part.make o.ns object put : Recorded (List Part) (Cloud Other) Unit).Takes Advances note
      [CloudCall.create o.ns object] := by
  refine Part.takes_make (o.advances_create object) ?_
  intro parts r
  cases r with
  | ok _ => exact placed parts
  | error _ => rfl

theorem takes_issue (certificate : Certificate) :
    (issue scope o certificate : Recorded (List Part) (Cloud Other) Unit).Takes Advances note
      (o.issueSteps certificate) :=
  Recorded.Takes.bind (o.takes_make fun _ => rfl) fun _ => takes_await scope o _ _

theorem takes_build (source : Cluster) :
    (build scope o source : Recorded (List Part) (Cloud Other) Unit).Takes Advances note
      (o.buildSteps source) := by
  apply Recorded.Takes.bind (takes_await scope o _ _)
  intro _
  apply Recorded.Takes.bind (takes_issue scope o o.serverCertificate)
  intro _
  apply Recorded.Takes.bind (takes_issue scope o o.clientCertificate)
  intro _
  apply Recorded.Takes.bind (takes_issue scope o o.replicationCertificate)
  intro _
  apply Recorded.Takes.bind (o.takes_make fun _ => rfl)
  intro _
  exact takes_await scope o _ _

end Building

theorem part?_buildSteps (o : ClusterCloning) (source : Cluster) :
    (o.buildSteps source : List (Cloud Other).Call).filterMap Cloud.part? =
      [⟨.certificate, Credentials.serverName o.clone⟩,
        ⟨.certificate, Credentials.clientName o.clone⟩,
        ⟨.certificate, Credentials.replicationName o.clone⟩, ⟨.cluster, o.clone⟩] := rfl

/-- What is recorded is what a finished clone would consist of, as far as it was made. -/
theorem foldl_place {o : ClusterCloning} {source : Cluster} {made : List Part}
    (h : made <+: (o.buildSteps source : List (Cloud Other).Call).filterMap Cloud.part?) :
    made.foldl place [] = o.parts.filter made.contains := by
  have server_client := Credentials.serverName_ne_clientName o.clone
  have server_replication := Credentials.serverName_ne_replicationName o.clone
  have client_replication := Credentials.clientName_ne_replicationName o.clone
  rw [part?_buildSteps] at h
  simp only [List.prefix_cons_iff, List.prefix_nil] at h
  rcases h with rfl | ⟨_, rfl, rfl | ⟨_, rfl, rfl | ⟨_, rfl, rfl | ⟨_, rfl, rfl⟩⟩⟩⟩ <;>
    simp [parts, place, Part.first, Part.last, server_client, server_replication,
      client_replication, server_client.symm, server_replication.symm, client_replication.symm]

section Build

variable {scope : Scope} {o : ClusterCloning} {source : Cluster} {script : Script (Cloud Other)}
  {guards : List Guard} {w w' : World (Cloud Other)} {built : Except Fault Unit}
  {recorded : List Part}

theorem build_makes
    (ended : (build scope o source).runFrom [] script guards w = .done (built, recorded) w') :
    ∃ attempts, w.Makes script attempts w' ∧
      Follows Advances (o.buildSteps source) attempts built.isOk ∧
      recorded = o.parts.filter (attempts.filterMap Attempt.made?).contains := by
  obtain ⟨attempts, makes, follows, rfl⟩ := (takes_build scope o source).attempts ended
  refine ⟨attempts, makes, follows, ?_⟩
  rw [foldl_note]
  exact foldl_place (follows.made_isPrefix succeeded_of_advances)

theorem filter_made_of_all {attempts : List (Attempt (Cloud Other))}
    (follows : Follows Advances (o.buildSteps source) attempts true) :
    o.parts.filter (attempts.filterMap Attempt.made?).contains = o.parts := by
  rw [follows.made_of_all succeeded_of_advances, part?_buildSteps]
  simp [parts]

end Build

/-! ## Settling -/

section Settle

variable {scope : Scope} {o : ClusterCloning} {parts : List Part} {script : Script (Cloud Other)}
  {guards : List Guard} {w w' : World (Cloud Other)} {r : Except Fault Unit}

theorem settle_makes_of_error {fault : Fault} (rooted : script.root < w.clock.fresh)
    (h : settle scope o (.error fault) parts script guards w = .done r w') :
    ∃ undoing last, w.Makes script (undoing ++ [last]) w' ∧
      undoing.map Attempt.call = parts.map (Part.deletion o.ns) ∧
      last.call = o.seed.deletion o.ns ∧ r.isOk = false := by
  obtain ⟨result, v, discarded, deleted⟩ := Task.bind_done.mp h
  obtain ⟨cleaned, ran, rfl⟩ := Cleanup.foldInto_done.mp discarded
  obtain ⟨undoing, makes, calls⟩ := Part.discard_makes rooted ran
  obtain ⟨cleaned', ran', rfl⟩ := Cleanup.foldInto_done.mp deleted
  obtain ⟨last, makes', call, -⟩ :=
    Cloud.deletion_makes (Nat.lt_of_lt_of_le rooted makes.fresh_le) ran'
  refine ⟨undoing, last, makes.trans makes', calls, call, ?_⟩
  cases cleaned <;> cases cleaned' <;> rfl

theorem settle_makes_of_ok (rooted : script.root < w.clock.fresh)
    (h : settle scope o (.ok ()) parts script guards w = .done r w') :
    ∃ first undoing, w.Makes script (first :: undoing) w' ∧
      first.call = o.seed.deletion o.ns ∧ first.succeeded = r.isOk ∧
      undoing.map Attempt.call = if r.isOk then [] else parts.map (Part.deletion o.ns) := by
  obtain ⟨result, v, deleted, discarded⟩ := Task.bind_done.mp h
  obtain ⟨cleaned, ran, rfl⟩ := Cleanup.foldInto_done.mp deleted
  obtain ⟨first, makes, call, succeeded⟩ := Cloud.deletion_makes rooted ran
  cases cleaned with
  | ok _ =>
    obtain ⟨rfl, rfl⟩ := Task.pure_done.mp discarded
    exact ⟨first, [], makes, call, succeeded, rfl⟩
  | error fault =>
    obtain ⟨cleaned', ran', rfl⟩ := Cleanup.foldInto_done.mp discarded
    obtain ⟨undoing, makes', calls⟩ :=
      Part.discard_makes (Nat.lt_of_lt_of_le rooted makes.fresh_le) ran'
    refine ⟨first, undoing, makes.trans makes', call, ?_, ?_⟩
    · cases cleaned' <;> exact succeeded
    · cases cleaned' <;> exact calls

end Settle

/-! ## The whole story -/

/-- No other source than this one has been found. -/
def Finds (o : ClusterCloning) (source : Cluster) (attempts : List (Attempt (Cloud Other))) :
    Prop :=
  ∀ found, o.search (.ok (some found)) ∈ attempts → found = source

/-- What a cloning with valid options attempts, and what comes of it. -/
def Story (o : ClusterCloning) (attempts : List (Attempt (Cloud Other)))
    (r : Except Fault ClonedCluster) : Prop :=
  ∃ source forward back complete handedOut, attempts = forward ++ back ∧
    Follows Advances (o.steps source) forward complete ∧ o.Finds source forward ∧
    o.RollsBack (forward.filterMap Attempt.made?) complete back handedOut ∧
    ∀ clone, r = .ok clone ↔ handedOut = true ∧ clone = ⟨o.ns, o.clone, o.parts⟩

section Story

variable {o : ClusterCloning} {source : Cluster} {attempts later : List (Attempt (Cloud Other))}

theorem finds_of_not_mem {calls : List (Cloud Other).Call} {all : Bool}
    (h : Follows Advances calls attempts all)
    (other : CloudCall.findCluster o.ns o.source ∉ calls) :
    o.Finds source attempts :=
  fun _ found => absurd (h.call_mem found) other

theorem Finds.append (h : o.Finds source attempts) (h' : o.Finds source later) :
    o.Finds source (attempts ++ later) := by
  intro found mem
  rcases List.mem_append.mp mem with mem | mem
  · exact h found mem
  · exact h' found mem

/-- The source is handed on if its size can be read. -/
theorem findSource_makes {script : Script (Cloud Other)} {guards : List Guard}
    {w w' : World (Cloud Other)} {r : Except Fault Cluster}
    (h : o.findSource.run script guards w = .done r w') :
    ∃ found, w.Makes script [o.search found] w' ∧
      ((∃ source, r = .ok source ∧ found = .ok (some source) ∧
          Advances (o.search found : Attempt (Cloud Other))) ∨
        (∃ fault, r = .error fault) ∧ ¬ Advances (o.search found : Attempt (Cloud Other))) := by
  rcases Saga.bind_done.mp h with ⟨found, v, asked, judged⟩ | ⟨fault, asked, failed⟩
  · have makes := Task.call_makes asked
    cases found with
    | none =>
      obtain ⟨failed, same⟩ := Task.pure_done.mp judged
      subst same
      refine ⟨_, makes, .inr ⟨⟨_, failed.symm⟩, ?_⟩⟩
      rintro ⟨_, _, _, found, -⟩
      cases found
    | some source =>
      dsimp only at judged
      split at judged
      · rename_i unset
        obtain ⟨failed, same⟩ := Task.pure_done.mp judged
        subst same
        refine ⟨_, makes, .inr ⟨⟨_, failed.symm⟩, ?_⟩⟩
        rintro ⟨_, _, _, found, set, -⟩
        cases found
        rw [unset] at set
        cases set
      · rename_i size set
        rcases Saga.bind_done.mp judged with
          ⟨bytes, v', parsing, handing⟩ | ⟨fault, parsing, failed⟩
        · obtain ⟨read, same⟩ := Task.pure_done.mp parsing
          obtain ⟨given, same'⟩ := Step.done.inj handing
          subst same same'
          refine ⟨_, makes, .inl ⟨source, given.symm, rfl, source, size, bytes, rfl, set, ?_⟩⟩
          cases parsed : Quantity.parseBytes size with
          | ok n =>
            rw [parsed] at read
            exact read
          | error e =>
            rw [parsed] at read
            cases read
        · obtain ⟨unread, same⟩ := Task.pure_done.mp parsing
          subst same
          refine ⟨_, makes, .inr ⟨⟨_, failed⟩, ?_⟩⟩
          rintro ⟨_, _, _, found, set', parsed⟩
          cases found
          cases set.symm.trans set'
          rw [parsed] at unread
          cases unread
  · exact ⟨_, Task.call_makes asked, .inr ⟨⟨_, failed⟩, Bool.false_ne_true⟩⟩

/-- A story that ends before there is a backup has nothing to roll back. -/
theorem story_of_unbegun {forward : List (Attempt (Cloud Other))} {r : Except Fault ClonedCluster}
    (follows : Follows Advances (o.steps source) forward false) (finds : o.Finds source forward)
    (unmade : forward.filterMap Attempt.made? = []) (failed : ∃ fault, r = .error fault) :
    o.Story forward r := by
  refine ⟨source, forward, [], false, false, (List.append_nil _).symm, follows, finds,
    .unbegun ?_, ?_⟩
  · rw [unmade]
    exact List.not_mem_nil
  · obtain ⟨fault, rfl⟩ := failed
    exact fun _ => ⟨nofun, nofun⟩

theorem filter_seed (o : ClusterCloning) (made : List Part) :
    o.parts.filter (o.seed :: made).contains = o.parts.filter made.contains := by
  apply List.filter_congr
  intro p hp
  have other : p ≠ o.seed := by
    rintro rfl
    simp [parts, seed] at hp
  rw [List.contains_cons, beq_eq_false_iff_ne.mpr other, Bool.false_or]

theorem findCluster_notMem_buildSteps (o : ClusterCloning) (source : Cluster) (ns name : String) :
    CloudCall.findCluster ns name ∉ (o.buildSteps source : List (Cloud Other).Call) := by
  intro mem
  repeat
    rcases List.mem_cons.mp mem with same | mem
    · cases same
  cases mem

variable {script : Script (Cloud Other)} {guards : List Guard} {scope : Scope}
  {w w' : World (Cloud Other)}

/-- The story from the first step after the backup was begun. -/
theorem story_of_begun {before : List (Attempt (Cloud Other))} {r built : Except Fault Unit}
    {recorded : List Part} {v : World (Cloud Other)} (rooted : script.root < w.clock.fresh)
    (steps : ∀ {attempts all}, Follows Advances (o.buildSteps source) attempts all →
      Follows Advances (o.steps source) (before ++ attempts) all)
    (finds : o.Finds source before) (begun : before.filterMap Attempt.made? = [o.seed])
    (ran : (build scope o source).runFrom [] script guards w = .done (built, recorded) v)
    (settled : settle scope o built recorded script guards v = .done r w') :
    ∃ attempts, w.Makes script attempts w' ∧
      o.Story (before ++ attempts) (r.map fun _ => ⟨o.ns, o.clone, recorded⟩) := by
  obtain ⟨forward, makes, follows, rfl⟩ := build_makes ran
  have rooted_v := Nat.lt_of_lt_of_le rooted makes.fresh_le
  have all_finds := finds.append
    (finds_of_not_mem follows (o.findCluster_notMem_buildSteps source o.ns o.source))
  have made : (before ++ forward).filterMap Attempt.made? =
      o.seed :: forward.filterMap Attempt.made? := by
    rw [List.filterMap_append, begun, List.singleton_append]
  have mem : o.seed ∈ (before ++ forward).filterMap Attempt.made? := by
    rw [made]
    exact List.mem_cons_self
  cases built with
  | error fault =>
    obtain ⟨undoing, last, makes', calls, call, failed⟩ := settle_makes_of_error rooted_v settled
    refine ⟨_, makes.trans makes', source, before ++ forward, undoing ++ [last], false, false,
      (List.append_assoc ..).symm, steps follows, all_finds, .undone mem ?_ call, ?_⟩
    · rw [calls, made, filter_seed]
    · cases r with
      | error fault => exact fun _ => ⟨nofun, nofun⟩
      | ok _ => cases failed
  | ok _ =>
    obtain ⟨first, undoing, makes', call, succeeded, calls⟩ := settle_makes_of_ok rooted_v settled
    rw [filter_made_of_all follows] at calls ⊢
    cases r with
    | error fault =>
      refine ⟨_, makes.trans makes', source, before ++ forward, first :: undoing, true, false,
        (List.append_assoc ..).symm, steps follows, all_finds,
        .dropped mem call succeeded calls, ?_⟩
      exact fun _ => ⟨nofun, nofun⟩
    | ok _ =>
      obtain rfl := List.map_eq_nil_iff.mp calls
      refine ⟨_, makes.trans makes', source, before ++ forward, [first], true, true,
        (List.append_assoc ..).symm, steps follows, all_finds, .handedOut mem call succeeded, ?_⟩
      intro clone
      constructor
      · rintro ⟨⟩
        exact ⟨rfl, rfl⟩
      · rintro ⟨-, rfl⟩
        rfl

instance : Inhabited Cluster := ⟨⟨.managed "" "" [], ⟨0, none, .empty, none, none⟩, none⟩⟩

theorem finds_search {found : Except Fault (Option Cluster)}
    (h : ∀ c, found = .ok (some c) → c = source) :
    o.Finds source [(o.search found : Attempt (Cloud Other))] := by
  intro c mem
  cases List.mem_singleton.mp mem
  exact h c rfl

/-- What a search has found, if anything. -/
theorem exists_finds (o : ClusterCloning) (found : Except Fault (Option Cluster)) :
    ∃ source, o.Finds source [(o.search found : Attempt (Cloud Other))] := by
  match found with
  | .ok (some source) => exact ⟨source, finds_search fun c same => by cases same; rfl⟩
  | .ok none => exact ⟨default, finds_search fun c same => by cases same⟩
  | .error _ => exact ⟨default, finds_search fun c same => by cases same⟩

theorem takes_awaitIssuer (scope : Scope) (o : ClusterCloning) :
    (Cloud.awaitIssuer scope o.ns o.issuer o.timeouts.resourceReady :
      Saga (Cloud Other) Unit).Takes Advances
        [CloudCall.await (.issuer o.issuer) o.ns o.timeouts.resourceReady] :=
  (Cloud.takes_await scope o.ns (.issuer o.issuer) _ (o.advances_await _ _)).mapFault _

theorem story_of_source {before : List (Attempt (Cloud Other))} {r : Except Fault ClonedCluster}
    (rooted : script.root < w.clock.fresh)
    (steps : ∀ {attempts all}, Follows Advances
        (CloudCall.create o.ns (.backup o.backup) :: o.buildSteps source) attempts all →
      Follows Advances (o.steps source) (before ++ attempts) all)
    (finds : o.Finds source before) (unmade : before.filterMap Attempt.made? = [])
    (ended : (cloneSource scope o source).run script guards w = .done r w') :
    ∃ attempts, w.Makes script attempts w' ∧ o.Story (before ++ attempts) r := by
  have finds_with (result : Except Fault Unit) : o.Finds source (before ++ [o.begin result]) := by
    apply finds.append
    intro found mem
    cases List.mem_singleton.mp mem
  have made_with (result : Except Fault Unit) :
      (before ++ [o.begin result]).filterMap Attempt.made? =
        if result.isOk then [o.seed] else [] := by
    rw [List.filterMap_append, unmade, List.nil_append]
    cases result <;> rfl
  rcases Saga.bind_done.mp ended with ⟨_, v, made, building⟩ | ⟨fault, made, failed⟩
  · have makes := Cloud.make_makes made
    have rooted_v := Nat.lt_of_lt_of_le rooted makes.fresh_le
    have steps_on {attempts : List (Attempt (Cloud Other))} {all : Bool}
        (follows : Follows Advances (o.buildSteps source) attempts all) :
        Follows Advances (o.steps source) (before ++ [o.begin (.ok ())] ++ attempts) all := by
      rw [List.append_assoc]
      exact steps (.advanced (o.begin (.ok ())) rfl follows)
    obtain ⟨built, recorded, v', ran, settling⟩ := Recorded.runFrom_bind_done.mp building
    have story {result : Except Fault Unit} {v'' : World (Cloud Other)}
        (settled : settle scope o built recorded script guards v' = .done result v'') :=
      story_of_begun rooted_v steps_on (finds_with _) (made_with _) ran settled
    rcases Saga.bind_done.mp settling with ⟨_, v'', settled, handed⟩ | ⟨fault, settled, failed⟩
    · obtain ⟨given, same⟩ := Step.done.inj handed
      subst given same
      obtain ⟨attempts, makes', told⟩ := story settled
      exact ⟨_, makes.trans makes', by rwa [List.append_assoc] at told⟩
    · subst failed
      obtain ⟨attempts, makes', told⟩ := story settled
      exact ⟨_, makes.trans makes', by rwa [List.append_assoc] at told⟩
  · obtain ⟨e, makes⟩ := Cloud.make_makes_of_error made
    have follows := steps (.stopped (o.begin (.error e)) (o.buildSteps source) Bool.false_ne_true)
    exact ⟨_, makes, story_of_unbegun follows (finds_with _) (made_with _) ⟨fault, failed⟩⟩

theorem story_of_awaited {first : List (Attempt (Cloud Other))} {r : Except Fault ClonedCluster}
    (rooted : script.root < w.clock.fresh)
    (follows : Follows Advances
      [CloudCall.await (.issuer o.issuer) o.ns o.timeouts.resourceReady] first true)
    (ended : (o.findSource >>= cloneSource scope o).run script guards w = .done r w') :
    ∃ attempts, w.Makes script attempts w' ∧ o.Story (first ++ attempts) r := by
  have unmade := List.prefix_nil.mp (follows.made_isPrefix succeeded_of_advances)
  have unmade_with (found : Except Fault (Option Cluster)) :
      (first ++ [o.search found]).filterMap Attempt.made? = [] := by
    rw [List.filterMap_append, unmade, List.nil_append]
    cases found <;> rfl
  have finds {source : Cluster} : o.Finds source first :=
    finds_of_not_mem follows fun mem => by cases List.mem_singleton.mp mem
  rcases Saga.bind_done.mp ended with ⟨source, v, searched, cloning⟩ | ⟨fault, searched, failed⟩
  · obtain ⟨found, makes, ⟨source', given, rfl, good⟩ | ⟨⟨_, failed⟩, _⟩⟩ :=
      findSource_makes searched
    · cases given
      have steps {attempts : List (Attempt (Cloud Other))} {all : Bool}
          (after : Follows Advances (CloudCall.create o.ns (.backup o.backup) ::
            o.buildSteps source) attempts all) :
          Follows Advances (o.steps source)
            (first ++ [o.search (.ok (some source))] ++ attempts) all := by
        rw [List.append_assoc]
        exact follows.append (.advanced (o.search (.ok (some source))) good after)
      have search_finds : o.Finds source [(o.search (.ok (some source)) : Attempt (Cloud Other))] :=
        finds_search fun c same => by cases same; rfl
      obtain ⟨attempts, makes', story⟩ := story_of_source
        (Nat.lt_of_lt_of_le rooted makes.fresh_le) steps (finds.append search_finds)
        (unmade_with _) cloning
      exact ⟨_, makes.trans makes', by rwa [List.append_assoc] at story⟩
    · cases failed
  · obtain ⟨found, makes, ⟨source', given, _⟩ | ⟨_, bad⟩⟩ := findSource_makes searched
    · cases given
    · obtain ⟨source, search_finds⟩ := o.exists_finds found
      have stopped := follows.append (.stopped (o.search found)
        (CloudCall.create o.ns (.backup o.backup) :: o.buildSteps source) bad)
      exact ⟨_, makes, story_of_unbegun stopped (finds.append search_finds) (unmade_with found)
        ⟨fault, failed⟩⟩

end Story

/-- Whatever the calls come to, a cloning with valid options takes its steps up to the first that
fails, deletes the backup and the parts that it does not hand out, and succeeds only with all of
them. -/
theorem run_story {scope : Scope} {o : ClusterCloning} {script : Script (Cloud Other)}
    {guards : List Guard} {w w' : World (Cloud Other)} {r : Except Fault ClonedCluster}
    (rooted : script.root < w.clock.fresh)
    (ended : (run scope o).run script guards w = .done r w') :
    (∃ fault, o.validate = .error fault ∧ r = .error fault ∧ w' = w) ∨
      o.validate = .ok () ∧ ∃ attempts added, w'.marks = w.marks ++ added ∧
        Attempt.Leave attempts added ∧ o.Story attempts r := by
  rcases Saga.bind_done.mp ended with ⟨_, v, validated, awaiting⟩ | ⟨fault, validated, rfl⟩
  · obtain ⟨valid, rfl⟩ := Task.pure_done.mp validated
    suffices story : ∃ attempts, w.Makes script attempts w' ∧ o.Story attempts r by
      obtain ⟨attempts, ⟨added, adds, leave⟩, story⟩ := story
      exact .inr ⟨valid, attempts, added, adds.marks, leave, story⟩
    rcases Saga.bind_done.mp awaiting with ⟨_, v, awaited, searching⟩ | ⟨fault, awaited, failed⟩
    · obtain ⟨first, makes, follows⟩ := (takes_awaitIssuer scope o).attempts awaited
      obtain ⟨attempts, makes', story⟩ :=
        story_of_awaited (Nat.lt_of_lt_of_le rooted makes.fresh_le) follows searching
      exact ⟨first ++ attempts, makes.trans makes', story⟩
    · obtain ⟨first, makes, follows⟩ := (takes_awaitIssuer scope o).attempts awaited
      have unmade := List.prefix_nil.mp (follows.made_isPrefix succeeded_of_advances)
      have finds : o.Finds default first :=
        finds_of_not_mem follows fun mem => by cases List.mem_singleton.mp mem
      exact ⟨first, makes, story_of_unbegun (follows.stop _) finds unmade ⟨fault, failed⟩⟩
  · obtain ⟨invalid, rfl⟩ := Task.pure_done.mp validated
    exact .inl ⟨fault, invalid, rfl, rfl⟩

/-- Clones a cluster as it is now. -/
def sample : ClusterCloning :=
  ⟨"prod", "main", "main-dr", .issuer "ca", none, .volumeSnapshot, .default⟩

/-- A clone whose backup cannot be deleted in time is dropped. -/
theorem run_story_of_clinging_backup :
    ∃ r w', (run .unbounded sample).run (Cloud.grudging .backup ⟨false, true, 0, .ok ()⟩) []
        .initial = .done r w' ∧ r.isOk = false ∧ w'.log.length = 17 ∧
      ∃ attempts added, w'.marks = [] ++ added ∧ Attempt.Leave attempts added ∧
        sample.Story attempts r := by
  have ends : ∃ r w', (run .unbounded sample).run
      (Cloud.grudging .backup ⟨false, true, 0, .ok ()⟩) [] .initial = .done r w' ∧
      r.isOk = false ∧ w'.log.length = 17 := ⟨_, _, rfl, rfl, rfl⟩
  obtain ⟨r, w', ended, failed, calls⟩ := ends
  obtain ⟨fault, invalid, -⟩ | ⟨-, story⟩ := run_story Nat.zero_lt_one ended
  · cases invalid
  · exact ⟨r, w', ended, failed, calls, story⟩

end ClusterCloning

end Recovery
