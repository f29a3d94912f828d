import Recovery.Proofs.Worker.Search
import Recovery.Worker.Instance
/-!
# How a worker is started

A worker is made step by step: its pod, its service, the search for its address and the connection
to it. The steps are taken up to the first that fails. What they make is on record then, and a
connection is made by the last of them only.
-/
set_option autoImplicit false

namespace Recovery

variable {Other : Interface} {α β : Type}

/-- The host and port that a client is connected to if the call succeeds. -/
def Cloud.endpoint? (c : (Cloud Other).Call) : Option (String × Nat) :=
  match (c : CloudCall Other) with
  | .connect host port => some (host, port)
  | _ => none

/-- The connection that was made, if any. -/
def Attempt.connection? (a : Attempt (Cloud Other)) : Option (String × Nat) :=
  if a.succeeded then Cloud.endpoint? a.call else none

section Nothing

variable {attempts : List (Attempt (Cloud Other))}

/-- Nothing comes of calls that nothing would come of if they succeeded. -/
theorem Attempt.filterMap_eq_nil {gain : (Cloud Other).Call → Option β}
    (h : ∀ a ∈ attempts, gain a.call = none) :
    attempts.filterMap (fun a => if a.succeeded then gain a.call else none) = [] := by
  refine List.filterMap_eq_nil_iff.mpr fun a mem => ?_
  rw [h a mem]
  exact ite_self none

theorem Reach.IsSearch.part? {c : (Cloud Other).Call} (h : IsSearch c) : Cloud.part? c = none := by
  cases (c : CloudCall Other) <;> first | rfl | cases h

theorem Reach.IsSearch.endpoint? {c : (Cloud Other).Call} (h : IsSearch c) :
    Cloud.endpoint? c = none := by
  cases (c : CloudCall Other) <;> first | rfl | cases h

end Nothing

/-! ## Steps that make parts -/

/-- The saga performs the calls and records the parts that they make. -/
structure Part.Records (saga : Recorded (List Part) (Cloud Other) α)
    (calls : List (Cloud Other).Call) : Prop where
  attempts : ∀ {script : Script (Cloud Other)} {guards : List Guard} {r : Except Fault α}
    {parts parts' : List Part} {w w' : World (Cloud Other)},
    saga.runFrom parts script guards w = .done (r, parts') w' →
    ∃ attempts, w.Makes script attempts w' ∧
      Performs report calls attempts (r.map fun _ => ()) ∧
      parts' = parts ++ attempts.filterMap Attempt.made?

namespace Part

variable {calls later : List (Cloud Other).Call}

theorem Records.bind {saga : Recorded (List Part) (Cloud Other) α}
    {next : α → Recorded (List Part) (Cloud Other) β} (h : Records saga calls)
    (h' : ∀ a, Records (next a) later) : Records (saga >>= next) (calls ++ later) := by
  constructor
  intro script guards r parts parts' w w' ended
  rcases Recorded.bind_done.mp ended with ⟨a, middle, v, first, second⟩ | ⟨fault, first, rfl⟩
  · obtain ⟨attempts, makes, performs, rfl⟩ := h.attempts first
    obtain ⟨more, makes', performs', rfl⟩ := (h' a).attempts second
    refine ⟨attempts ++ more, makes.trans makes', performs.append performs', ?_⟩
    rw [List.filterMap_append, List.append_assoc]
  · obtain ⟨attempts, makes, performs, rfl⟩ := h.attempts first
    exact ⟨attempts, makes, performs.stop later, rfl⟩

theorem records_make (ns : String) (object : Object) :
    Records (make ns object last : Recorded (List Part) (Cloud Other) Unit)
      [CloudCall.create ns object] := by
  constructor
  intro script guards r parts parts' w w' ended
  rcases Recorded.bind_done.mp ended with ⟨_, middle, v, first, second⟩ | ⟨fault, first, rfl⟩
  · obtain ⟨made, rfl⟩ := Recorded.ofSaga_done.mp first
    rw [Recorded.runFrom_modify] at second
    obtain ⟨second, rfl⟩ := Task.pure_done.mp second
    cases second
    exact ⟨_, Cloud.make_makes made, .passed _ _ .finished, rfl⟩
  · obtain ⟨made, rfl⟩ := Recorded.ofSaga_done.mp first
    obtain ⟨result, created, failed⟩ := Task.map_done.mp made
    cases result with
    | ok _ => cases failed
    | error e =>
      cases failed
      exact ⟨_, Task.call_makes created, .failed _ [] e, (List.append_nil _).symm⟩

theorem records_await (scope : Scope) (ns : String) (awaited : Awaited) (timeout : Nat) :
    Records (await scope ns awaited timeout : Recorded (List Part) (Cloud Other) awaited.Reply)
      [CloudCall.await awaited ns timeout] := by
  constructor
  intro script guards r parts parts' w w' ended
  obtain ⟨ran, rfl⟩ := Recorded.ofSaga_done.mp ended
  obtain ⟨result, waited, rfl⟩ := Task.map_done.mp ran
  have makes := Cloud.await_makes waited
  cases result with
  | ok reply =>
    have performs := @Performs.passed (Cloud Other) report (.await awaited ns timeout) reply _ _ _
      .finished
    exact ⟨_, makes, performs, (List.append_nil _).symm⟩
  | error e => exact ⟨_, makes, .failed _ [] e, (List.append_nil _).symm⟩

end Part

namespace Worker

/-! ## Starting -/

/-- The steps that prepare a worker for being connected to. -/
def steps (o : WorkerOptions) (name : String) : List (Cloud Other).Call :=
  [CloudCall.create o.ns (.pod (o.pod name)), CloudCall.await (.pod name) o.ns o.readyTimeout,
    CloudCall.create o.ns (.service (o.service name)),
    CloudCall.await (.endpoints name) o.ns o.readyTimeout]

/-- What a worker consists of, in the order in which it is made and deleted. -/
def allParts (name : String) : List Part := [⟨.pod, name⟩, ⟨.service, name⟩]

def draw (result : Except Fault Suffix) : Attempt (Cloud Other) :=
  ⟨CloudCall.drawSuffix, some result⟩

def reading (o : WorkerOptions) (name : String) (result : Except Fault Service) :
    Attempt (Cloud Other) :=
  ⟨CloudCall.readService o.ns name, some result⟩

/-- The trail of a connection. -/
def Connects (host : String) (port : Nat) :
    List (Attempt (Cloud Other)) → Option (Except Fault Unit) → Prop :=
  @Attempt.Sole (Cloud Other) (CloudCall.connect host port)

/-- A worker that is prepared is searched for and connected to, up to the first failure. -/
inductive Reaches (scope : Scope) (o : WorkerOptions) (name : String) (c : Clock) :
    List (Attempt (Cloud Other)) → Except Fault String → Prop where
  | unread (e : Fault) : Reaches scope o name c [reading o name (.error e)] (.error e)
  | unfound {service : Service} {search : List (Attempt (Cloud Other))} {e : Fault} :
    scope.Confines "find worker address" (Reach.Finds service o.searchDomains o.port) c search
      (.error e) →
    Reaches scope o name c (reading o name (.ok service) :: search) (.error e)
  | tried {service : Service} {search connecting : List (Attempt (Cloud Other))} {host : String}
      {r : Except Fault Unit} :
    Reach.Finds service o.searchDomains o.port search (some (.ok host)) →
    scope.Confines "connect to worker" (Connects host o.port) c connecting r →
    Reaches scope o name c (reading o name (.ok service) :: (search ++ connecting))
      (r.map fun _ => host)

/-- A worker is prepared and reached, up to the first failure. -/
inductive Starts (scope : Scope) (o : WorkerOptions) (name : String) (c : Clock) :
    List (Attempt (Cloud Other)) → Except Fault String → Prop where
  | stopped {attempts : List (Attempt (Cloud Other))} {e : Fault} :
    Performs Part.report (steps o name) attempts (.error e) →
    Starts scope o name c attempts (.error e)
  | prepared {first later : List (Attempt (Cloud Other))} {r : Except Fault String} :
    Performs Part.report (steps o name) first (.ok ()) → Reaches scope o name c later r →
    Starts scope o name c (first ++ later) r

section Start

variable (scope : Scope) (o : WorkerOptions) (name : String)

def prepare : Recorded (List Part) (Cloud Other) Unit := do
  Part.make o.ns (.pod (o.pod name)) Part.last
  Part.await scope o.ns (.pod name) o.readyTimeout
  Part.make o.ns (.service (o.service name)) Part.last
  Part.await scope o.ns (.endpoints name) o.readyTimeout

def reach : Recorded (List Part) (Cloud Other) String := do
  let service ← Recorded.ofSaga (Cloud.readService o.ns name)
  let host ← Recorded.ofSaga <|
    scope.run "find worker address" (Reach.findHost service o.searchDomains o.port)
  Recorded.ofSaga (scope.run "connect to worker" (Cloud.connect host o.port))
  return host

theorem start_eq : (start scope o name : Recorded (List Part) (Cloud Other) String) =
    prepare scope o name >>= fun _ => reach scope o name := by
  simp only [start, prepare, reach, bind_assoc]

theorem records_prepare :
    Part.Records (prepare scope o name : Recorded (List Part) (Cloud Other) Unit)
      (steps o name) := by
  apply Part.Records.bind (Part.records_make _ _)
  intro _
  apply Part.Records.bind (Part.records_await _ _ _ _)
  intro _
  apply Part.Records.bind (Part.records_make _ _)
  intro _
  exact Part.records_await _ _ _ _

end Start

section Reach

variable {scope : Scope} {o : WorkerOptions} {name : String} {script : Script (Cloud Other)}
  {guards : List Guard} {w w' : World (Cloud Other)} {r : Except Fault String}
  {parts parts' : List Part}

theorem reach_makes
    (ended : (reach scope o name).runFrom parts script guards w = .done (r, parts') w') :
    parts' = parts ∧ ∃ attempts, w.Makes script attempts w' ∧
      Reaches scope o name w'.clock attempts r := by
  rcases Recorded.bind_done.mp ended with ⟨service, _, v, asked, searching⟩ | ⟨e, asked, rfl⟩
  · obtain ⟨read, rfl⟩ := Recorded.ofSaga_done.mp asked
    have reads := Task.call_makes read
    have finds := @Reach.findHost_leaves Other service o.searchDomains o.port
    rcases Recorded.bind_done.mp searching with ⟨host, _, v', ran, connecting⟩ | ⟨e, ran, rfl⟩
    · obtain ⟨found, rfl⟩ := Recorded.ofSaga_done.mp ran
      obtain ⟨search, searches, ⟨finds⟩⟩ := Scope.run_confines finds found
      have connects := Task.leaves_call (I := Cloud Other) (.connect host o.port)
      rcases Recorded.bind_done.mp connecting with ⟨_, _, v'', tried, given⟩ | ⟨e, tried, rfl⟩
      · obtain ⟨connected, rfl⟩ := Recorded.ofSaga_done.mp tried
        obtain ⟨same, rfl⟩ := Task.pure_done.mp given
        cases same
        obtain ⟨last, makes, confines⟩ := Scope.run_confines connects connected
        exact ⟨rfl, _, reads.trans (searches.trans makes), .tried finds confines⟩
      · obtain ⟨refused, rfl⟩ := Recorded.ofSaga_done.mp tried
        obtain ⟨last, makes, confines⟩ := Scope.run_confines connects refused
        exact ⟨rfl, _, reads.trans (searches.trans makes), .tried finds confines⟩
    · obtain ⟨missed, rfl⟩ := Recorded.ofSaga_done.mp ran
      obtain ⟨search, searches, confines⟩ := Scope.run_confines finds missed
      exact ⟨rfl, _, reads.trans searches, .unfound confines⟩
  · obtain ⟨unread, rfl⟩ := Recorded.ofSaga_done.mp asked
    exact ⟨rfl, _, Task.call_makes unread, .unread e⟩

end Reach

/-! ## What was made -/

section Made

variable {scope : Scope} {o : WorkerOptions} {name : String} {c : Clock}
  {attempts : List (Attempt (Cloud Other))} {r : Except Fault String}

theorem part?_steps :
    (steps o name : List (Cloud Other).Call).filterMap Cloud.part? = allParts name := rfl

theorem Connects.connection? {host : String} {port : Nat} {r : Except Fault Unit}
    (h : scope.Confines "connect to worker" (Connects host port) c attempts r) :
    attempts.filterMap Attempt.connection? = (r.toOption.map fun _ => (host, port)).toList := by
  cases h with
  | through sole =>
    cases sole
    cases r <;> rfl
  | cut sole _ =>
    cases sole
    rfl
  | unbegun _ => rfl

theorem Reaches.made? (h : Reaches scope o name c attempts r) :
    attempts.filterMap Attempt.made? = [] := by
  refine Attempt.filterMap_eq_nil ?_
  cases h with
  | unread e => exact List.forall_mem_singleton.mpr rfl
  | unfound confines =>
    refine List.forall_mem_cons.mpr ⟨rfl, confines.forall_mem fun finds a mem => ?_⟩
    exact (finds.isSearch a mem).part?
  | tried finds confines =>
    refine List.forall_mem_cons.mpr ⟨rfl, List.forall_mem_append.mpr ⟨fun a mem => ?_, ?_⟩⟩
    · exact (finds.isSearch a mem).part?
    · refine confines.forall_mem fun sole => ?_
      cases sole
      exact List.forall_mem_singleton.mpr rfl

theorem Reaches.connection? (h : Reaches scope o name c attempts r) :
    attempts.filterMap Attempt.connection? =
      (r.toOption.map fun host => (host, o.port)).toList := by
  cases h with
  | unread e => rfl
  | unfound confines =>
    refine Attempt.filterMap_eq_nil (List.forall_mem_cons.mpr ⟨rfl, ?_⟩)
    exact confines.forall_mem fun finds a mem => (finds.isSearch a mem).endpoint?
  | @tried service search connecting host r finds confines =>
    have searching : (reading o name (.ok service) :: search).filterMap Attempt.connection? = [] :=
      Attempt.filterMap_eq_nil <|
        List.forall_mem_cons.mpr ⟨rfl, fun a mem => (finds.isSearch a mem).endpoint?⟩
    rw [← List.cons_append, List.filterMap_append, searching, List.nil_append,
      Connects.connection? confines]
    cases r <;> rfl

theorem unconnected {r : Except Fault Unit}
    (h : Performs Part.report (steps o name) attempts r) :
    attempts.filterMap Attempt.connection? = [] := by
  have none : (steps o name : List (Cloud Other).Call).filterMap Cloud.endpoint? = [] := rfl
  exact Attempt.filterMap_eq_nil fun a mem =>
    List.filterMap_eq_nil_iff.mp none _ (h.follows.call_mem mem)

/-- What is made first is the pod, and then the service. -/
theorem Starts.made? (h : Starts scope o name c attempts r) :
    attempts.filterMap Attempt.made? <+: allParts name ∧
      (r.isOk = true → attempts.filterMap Attempt.made? = allParts name) := by
  rw [← @part?_steps Other o name]
  cases h with
  | stopped performs => exact ⟨performs.follows.made_isPrefix fun _ good => good, nofun⟩
  | prepared performs reaches =>
    rw [List.filterMap_append, reaches.made?, List.append_nil,
      performs.follows.made_of_all fun _ good => good]
    exact ⟨List.prefix_refl _, fun _ => rfl⟩

theorem Starts.connection? (h : Starts scope o name c attempts r) :
    attempts.filterMap Attempt.connection? =
      (r.toOption.map fun host => (host, o.port)).toList := by
  cases h with
  | stopped performs => exact unconnected performs
  | prepared performs reaches =>
    rw [List.filterMap_append, unconnected performs, reaches.connection?, List.nil_append]

end Made

section Start

variable {scope : Scope} {o : WorkerOptions} {name : String} {script : Script (Cloud Other)}
  {guards : List Guard} {w w' : World (Cloud Other)} {r : Except Fault String}
  {parts : List Part}

theorem start_makes
    (ended : (start scope o name).runFrom [] script guards w = .done (r, parts) w') :
    ∃ attempts, w.Makes script attempts w' ∧ Starts scope o name w'.clock attempts r ∧
      parts = attempts.filterMap Attempt.made? := by
  rw [start_eq] at ended
  rcases Recorded.bind_done.mp ended with ⟨_, _, v, prepared, reaching⟩ | ⟨e, stopped, rfl⟩
  · obtain ⟨first, makes, performs, rfl⟩ := (records_prepare scope o name).attempts prepared
    obtain ⟨rfl, later, makes', reaches⟩ := reach_makes reaching
    refine ⟨first ++ later, makes.trans makes', .prepared performs reaches, ?_⟩
    rw [List.filterMap_append, reaches.made?, List.append_nil, List.nil_append]
  · obtain ⟨first, makes, performs, rfl⟩ := (records_prepare scope o name).attempts stopped
    exact ⟨first, makes, .stopped performs, rfl⟩

end Start

end Worker

end Recovery
