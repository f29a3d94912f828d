import Recovery.Proofs.Cloud.Deletion
import Recovery.Worker.Reach
/-!
# What the calls owe

Most calls are neutral; to make an object owes it. `Owes` and `Tracks` carry the account through
sagas and recorded sagas: what is owed for a value, and what is owed for a record.
-/
set_option autoImplicit false

namespace Recovery

variable {Other : Interface} {α β σ : Type}

/-- Finds out how things are, waits for them or connects, and changes nothing. -/
def CloudCall.Asks : CloudCall Other → Prop
  | .create _ _ | .delete _ _ _ | .request _ | .closeClient | .other _ => False
  | _ => True

theorem CloudCall.Asks.neutral {c : CloudCall Other} (h : c.Asks) : c.Neutral := by
  cases c <;> trivial

namespace Cloud

/-! ## Questions -/

/-- Makes neutral calls only. -/
abbrev Neutral (task : Task (Cloud Other) α) : Prop := Task.Only CloudCall.Neutral task

/-- Asks questions only. -/
abbrev Asks (task : Task (Cloud Other) α) : Prop := Task.Only CloudCall.Asks task

theorem Asks.neutral {task : Task (Cloud Other) α} (h : Asks task) : Neutral task :=
  h.mono fun _ => CloudCall.Asks.neutral

theorem asks_call {c : CloudCall Other} (h : c.Asks) :
    Asks (@Saga.call (Cloud Other) c).run :=
  (Task.only_call (I := Cloud Other) c).mono fun _ same => same ▸ h

theorem asks_findCluster (ns name : String) :
    Asks (findCluster ns name : Saga (Cloud Other) _).run := asks_call trivial

theorem asks_findClaim (ns name : String) :
    Asks (findClaim ns name : Saga (Cloud Other) _).run := asks_call trivial

theorem asks_readService (ns name : String) :
    Asks (readService ns name : Saga (Cloud Other) _).run := asks_call trivial

theorem asks_connect (host : String) (port : Nat) :
    Asks (connect host port : Saga (Cloud Other) _).run := asks_call trivial

theorem asks_freshName (stem : String) :
    Asks (freshName stem : Saga (Cloud Other) _).run := Saga.only_map _ (asks_call trivial)

theorem asks_await (scope : Scope) (ns : String) (awaited : Awaited) (timeout : Nat) :
    Asks (await scope ns awaited timeout : Saga (Cloud Other) _).run :=
  Saga.only_bind (Saga.only_ofTask (Task.only_onClock fun _ _ h => h)) fun s =>
    (Scope.only_call (I := Cloud Other) s _ _).mono fun _ same => same ▸ trivial

theorem asks_awaitMade (scope : Scope) (ns : String) (awaited : Awaited) (timeout : Nat) :
    Asks (awaitMade scope ns awaited timeout : Saga (Cloud Other) _).run :=
  Saga.only_during _ (asks_await _ _ _ _)

theorem asks_awaitIssuer (scope : Scope) (ns : String) (issuer : IssuerRef) (timeout : Nat) :
    Asks (awaitIssuer scope ns issuer timeout : Saga (Cloud Other) _).run :=
  Saga.only_mapFault _ (asks_await scope ns (.issuer issuer) timeout)

theorem neutral_request (r : Rpc.Request) :
    Neutral (request r : Saga (Cloud Other) _).run :=
  (Task.only_call (I := Cloud Other) (.request r)).mono fun _ same => same ▸ trivial

end Cloud

namespace Reach

open Cloud (Asks asks_call)

theorem asks_anyAccepts (addresses : List Address) :
    Asks (anyAccepts addresses : Task (Cloud Other) _) := by
  induction addresses with
  | nil => exact .pure _
  | cons address addresses ih =>
    refine (asks_call (c := .probe address) trivial).bind fun r => ?_
    match r with
    | .ok true => exact .pure _
    | .ok false => exact ih
    | .error _ => exact ih

theorem asks_isReachable (port : Nat) (host : String) :
    Asks (isReachable port host : Task (Cloud Other) _) := by
  refine (asks_call (c := .resolve host port) trivial).bind fun r => ?_
  cases r with
  | ok addresses => exact asks_anyAccepts addresses
  | error _ => exact .pure _

theorem asks_firstReachable (port : Nat) (hosts : List String) :
    Asks (firstReachable port hosts : Task (Cloud Other) _) := by
  induction hosts with
  | nil => exact .pure _
  | cons host hosts ih =>
    refine (asks_isReachable port host).bind fun reachable => ?_
    cases reachable with
    | true => exact .pure _
    | false => exact ih

theorem asks_findHost (s : Service) (searchDomains : List String) (port : Nat) :
    Asks (findHost s searchDomains port : Saga (Cloud Other) _).run := by
  refine Saga.only_bind (Saga.only_ofTask (asks_firstReachable _ _)) fun host => ?_
  cases host with
  | some host => exact Saga.only_pure host
  | none => exact Saga.only_fail _

end Reach

/-! ## What is owed afterwards -/

namespace Account

variable {script : Script (Cloud Other)} {base : List (Mark (Cloud Other))}
  {owed : Multiset ObjectKey} {told : List Fault} {w : World (Cloud Other)}

theorem tell (a : Account script base owed told w) (more : List Fault) :
    Account script base owed (told ++ more) w :=
  a.retell (.of_subset (List.subset_append_left ..))

end Account

/-- What is owed for the value that was given, if any. -/
def Saga.dueFor (due : α → Multiset ObjectKey) : Except Fault α → Multiset ObjectKey
  | .ok a => due a
  | .error _ => 0

/-- What the saga gives is owed for afterwards, and it tells of its troubles. -/
structure Saga.Owes (due : α → Multiset ObjectKey) (saga : Saga (Cloud Other) α) :
    Prop where
  account : ∀ {script : Script (Cloud Other)} {guards : List Guard}
    {base : List (Mark (Cloud Other))}
    {owed : Multiset ObjectKey} {told : List Fault} {r : Except Fault α}
    {w w' : World (Cloud Other)},
    Account script base owed told w → saga.run script guards w = .done r w' →
    Account script base (Saga.dueFor due r + owed) (told ++ Fault.told r) w'

/-- What is recorded is owed for, before and afterwards. -/
structure Recorded.Tracks (due : σ → Multiset ObjectKey) (saga : Recorded σ (Cloud Other) α) :
    Prop where
  account : ∀ {script : Script (Cloud Other)} {guards : List Guard}
    {base : List (Mark (Cloud Other))}
    {owed : Multiset ObjectKey} {told : List Fault} {r : Except Fault α} {record record' : σ}
    {w w' : World (Cloud Other)},
    Account script base (due record + owed) told w →
    saga.runFrom record script guards w = .done (r, record') w' →
    Account script base (due record' + owed) (told ++ Fault.told r) w'

namespace Saga

theorem owes_neutral {saga : Saga (Cloud Other) α} (h : Cloud.Neutral saga.run) :
    saga.Owes fun _ => 0 := by
  constructor
  intro script guards base owed told r w w' a ended
  have : dueFor (fun _ : α => 0) r = 0 := by cases r <;> rfl
  rw [this, zero_add]
  exact (a.neutral h ended).tell _

theorem owes_bind {due : β → Multiset ObjectKey} {saga : Saga (Cloud Other) α}
    {next : α → Saga (Cloud Other) β} (h : Cloud.Neutral saga.run)
    (h' : ∀ a, (next a).Owes due) : (saga >>= next).Owes due := by
  constructor
  intro script guards base owed told r w w' a ended
  rcases bind_done.mp ended with ⟨x, v, first, second⟩ | ⟨fault, first, rfl⟩
  · exact (h' x).account (a.neutral h first) second
  · simpa [dueFor] using (owes_neutral h).account a first

theorem owes_make (ns : String) (object : Object) :
    (Cloud.make ns object : Saga (Cloud Other) Unit).Owes
      fun _ => {Part.key ns (.ofObject object)} := by
  constructor
  intro script guards base owed told r w w' a ended
  obtain ⟨r, called, rfl⟩ := Task.map_done.mp ended
  have adds := Task.call_done called
  refine Account.tell ?_ _
  refine a.adds adds fun ms books => ?_
  have := books.create ns object r w.clock.now w'.clock.now
  cases r <;> exact this

end Saga

namespace Recorded

variable {due : σ → Multiset ObjectKey}

theorem tracks_bind {saga : Recorded σ (Cloud Other) α} {next : α → Recorded σ (Cloud Other) β}
    (h : saga.Tracks due) (h' : ∀ a, (next a).Tracks due) : (saga >>= next).Tracks due := by
  constructor
  intro script guards base owed told r record record' w w' a ended
  rcases bind_done.mp ended with ⟨x, middle, v, first, second⟩ | ⟨fault, first, rfl⟩
  · have := h.account a first
    rw [Fault.told_ok, List.append_nil] at this
    exact (h' x).account this second
  · exact h.account a first

/-- From an empty record nothing is owed for. -/
theorem Tracks.account_of_empty {saga : Recorded σ (Cloud Other) α} (h : saga.Tracks due)
    {record : σ} (empty : due record = 0) {script : Script (Cloud Other)} {guards : List Guard}
    {base : List (Mark (Cloud Other))} {owed : Multiset ObjectKey} {told : List Fault}
    {r : Except Fault α} {record' : σ} {w w' : World (Cloud Other)}
    (a : Account script base owed told w)
    (ended : saga.runFrom record script guards w = .done (r, record') w') :
    Account script base (due record' + owed) (told ++ Fault.told r) w' := by
  have a : Account script base (due record + owed) told w := by rwa [empty, zero_add]
  exact h.account a ended

theorem tracks_ofSaga {saga : Saga (Cloud Other) α} (h : Cloud.Neutral saga.run) :
    (ofSaga saga : Recorded σ (Cloud Other) α).Tracks due := by
  constructor
  intro script guards base owed told r record record' w w' a ended
  obtain ⟨ran, rfl⟩ := ofSaga_done.mp ended
  exact (a.neutral h ran).tell _

theorem tracks_pure (a : α) : (pure a : Recorded σ (Cloud Other) α).Tracks due := by
  constructor
  intro script guards base owed told r record record' w w' a ended
  obtain ⟨ended, rfl⟩ := Task.pure_done.mp ended
  cases ended
  simpa using a

theorem tracks_ofResult (result : Except Fault α) :
    (ofResult result : Recorded σ (Cloud Other) α).Tracks due := tracks_ofSaga (.pure _)

theorem tracks_get {next : σ → Recorded σ (Cloud Other) β}
    (h : ∀ record, (next record).Tracks due) :
    (get >>= next).Tracks due :=
  ⟨fun a ended => (h _).account a (by rwa [runFrom_get_bind] at ended)⟩

theorem tracks_fail (fault : Fault) : (fail fault : Recorded σ (Cloud Other) α).Tracks due :=
  tracks_ofResult _

end Recorded

namespace Recorded

variable {due : σ → Multiset ObjectKey}

/-- From this record and with this much owed, the saga ends with its record owed for. -/
structure Carries (due : σ → Multiset ObjectKey) (saga : Recorded σ (Cloud Other) α) (record : σ)
    (before : Multiset ObjectKey) : Prop where
  account : ∀ {script : Script (Cloud Other)} {guards : List Guard}
    {base : List (Mark (Cloud Other))} {owed : Multiset ObjectKey} {told : List Fault}
    {r : Except Fault α} {record' : σ} {w w' : World (Cloud Other)},
    Account script base (before + owed) told w →
    saga.runFrom record script guards w = .done (r, record') w' →
    Account script base (due record' + owed) (told ++ Fault.told r) w'

theorem Tracks.carries {saga : Recorded σ (Cloud Other) α} (h : saga.Tracks due) (record : σ) :
    saga.Carries due record (due record) := ⟨fun a ended => h.account a ended⟩

theorem carries_get {next : σ → Recorded σ (Cloud Other) β} {record : σ}
    {before : Multiset ObjectKey} (h : (next record).Carries due record before) :
    (get >>= next).Carries due record before :=
  ⟨fun a ended => h.account a (by rwa [runFrom_get_bind] at ended)⟩

theorem carries_set {next : PUnit → Recorded σ (Cloud Other) β} {record record' : σ}
    {before : Multiset ObjectKey} (h : (next ()).Carries due record' before) :
    (set record' >>= next).Carries due record before :=
  ⟨fun a ended => h.account a (by rwa [runFrom_set_bind] at ended)⟩

/-- What a saga gives is owed for by what follows. -/
theorem carries_ofSaga {saga : Saga (Cloud Other) α} {given : α → Multiset ObjectKey}
    {next : α → Recorded σ (Cloud Other) β} {record : σ} (h : saga.Owes given)
    (empty : due record = 0) (h' : ∀ a, (next a).Carries due record (given a)) :
    (ofSaga saga >>= next).Carries due record 0 := by
  constructor
  intro script guards base owed told r record' w w' a ended
  rw [zero_add] at a
  rcases bind_done.mp ended with ⟨x, middle, v, first, second⟩ | ⟨fault, first, rfl⟩
  · obtain ⟨ran, rfl⟩ := ofSaga_done.mp first
    have := h.account a ran
    rw [Fault.told_ok, List.append_nil] at this
    exact (h' x).account this second
  · obtain ⟨ran, rfl⟩ := ofSaga_done.mp first
    have := h.account a ran
    rwa [empty]

theorem carries_zoom {τ : Type} {due' : τ → Multiset ObjectKey} {get : τ → σ} {set : σ → τ → τ}
    {saga : Recorded σ (Cloud Other) α} {whole : τ} {before : Multiset ObjectKey}
    (h : saga.Carries due (get whole) before) (same : ∀ part, due' (set part whole) = due part) :
    (zoom get set saga).Carries due' whole before := by
  constructor
  intro script guards base owed told r record' w w' a ended
  obtain ⟨part, ran, rfl⟩ := zoom_done.mp ended
  rw [same]
  exact h.account a ran

end Recorded

namespace Part

open Recorded (Tracks)

theorem tracks_make (ns : String) (object : Object) (place : Part → List Part → List Part)
    (placed : ∀ p parts, keys ns (place p parts) = {p.key ns} + keys ns parts) :
    (make ns object place : Recorded (List Part) (Cloud Other) Unit).Tracks (keys ns) := by
  constructor
  intro script guards base owed told r parts parts' w w' a ended
  rcases Recorded.bind_done.mp ended with ⟨_, middle, v, first, second⟩ | ⟨fault, first, rfl⟩
  · obtain ⟨made, rfl⟩ := Recorded.ofSaga_done.mp first
    rw [Recorded.runFrom_modify] at second
    obtain ⟨second, rfl⟩ := Task.pure_done.mp second
    cases second
    have := (Saga.owes_make ns object).account a made
    rwa [placed, add_assoc]
  · obtain ⟨made, rfl⟩ := Recorded.ofSaga_done.mp first
    have := (Saga.owes_make ns object).account a made
    rwa [Saga.dueFor, zero_add] at this

theorem keys_first (ns : String) (p : Part) (parts : List Part) :
    keys ns (first p parts) = {p.key ns} + keys ns parts := keys_cons ns p parts

theorem keys_last (ns : String) (p : Part) (parts : List Part) :
    keys ns (last p parts) = {p.key ns} + keys ns parts := by
  rw [last, keys_append, keys_cons, keys_nil, add_zero, add_comm]

theorem tracks_await (scope : Scope) (ns : String) (awaited : Awaited) (timeout : Nat) :
    (await scope ns awaited timeout : Recorded (List Part) (Cloud Other) _).Tracks (keys ns) :=
  Recorded.tracks_ofSaga (Cloud.asks_awaitMade _ _ _ _).neutral

end Part

/-! ## Discarding -/

/-- The cleanup of parts that are not handed out. -/
theorem Part.settles_discard (ns : String) (parts : List Part) (message : String)
    (milliseconds : Nat) :
    (((discard ns parts : Cleanup (Cloud Other) Unit).withContext message).withTimeout
      milliseconds).Settles (keys ns parts) :=
  Cleanup.settles_of_undoes
    (undoes_deleteAll (Cleanup.covers_report fun f => .refl [f]) ns parts) rfl rfl

/-- What was built is discarded because of a failure, which stays one. -/
theorem Saga.discarded {α : Type} {c : Cleanup (Cloud Other) Unit} {lost : Multiset ObjectKey}
    (h : c.Settles lost) {due : α → Multiset ObjectKey} {script : Script (Cloud Other)}
    {caller : Scope} {guards : List Guard} {base : List (Mark (Cloud Other))}
    {owed : Multiset ObjectKey} {told : List Fault} {fault : Fault} {r : Except Fault α}
    {w w' : World (Cloud Other)}
    (a : Account script base (lost + owed) (told ++ Fault.told (.error fault : Except Fault α)) w)
    (ended : c.foldInto caller (.error fault) script guards w = .done r w') :
    Account script base (dueFor due r + owed) (told ++ Fault.told r) w' := by
  have settled : Account script base owed (told ++ Fault.told r) w' := h.foldInto a ended
  obtain ⟨cleaned, -, rfl⟩ := Cleanup.foldInto_done.mp ended
  cases cleaned <;> simpa [dueFor, Cleanup.folded, Fault.foldInto] using settled

/-! ## A cloud that grants every call -/

/-- No calls at all. -/
def Interface.silent : Interface := ⟨Empty, nofun⟩

namespace Cloud

/-- What a call that is granted gives. -/
def grant : (c : CloudCall Interface.silent) → CloudCall.Reply c
  | .create _ _ => ()
  | .delete _ _ _ => ()
  | .findCluster ns name =>
    some ⟨.managed name ns [], ⟨1, none, ⟨some "1Gi", none⟩, none, none⟩, none⟩
  | .findClaim _ _ => none
  | .readService ns name => { Service.empty with metadata := .managed name ns [] }
  | .await (.snapshot name) ns _ => ⟨.managed name ns [], ⟨⟨none⟩, none⟩, none⟩
  | .await (.cluster _) _ _ => ()
  | .await (.backup _) _ _ => ()
  | .await (.issuer _) _ _ => ()
  | .await (.certificate _) _ _ => ()
  | .await (.pod _) _ _ => ()
  | .await (.endpoints _) _ _ => ()
  | .resolve _ port => [⟨.v4 ⟨#[10, 0, 0, 1], rfl⟩, port⟩]
  | .probe _ => true
  | .connect _ _ => ()
  | .request _ => ()
  | .closeClient => ()
  | .drawSuffix => (0 : Suffix)
  | .other c => c.elim

/-- Grants every call at once except deletions of one kind, for which the given outcome is in
store. -/
def grudging (kind : Kind) (outcome : Outcome Unit) : Script (Cloud .silent) where
  root := 0
  answer
    | _, .delete kind' ns name =>
      if kind' = kind then outcome else .immediate (.ok (grant (.delete kind' ns name)))
    | _, c => .immediate (.ok (grant c))

/-- Grants every call at once except that the closing of a client comes to the given outcome. -/
def parting (outcome : Outcome Unit) : Script (Cloud .silent) where
  root := 0
  answer
    | _, .closeClient => outcome
    | _, c => .immediate (.ok (grant c))

end Cloud

end Recovery
