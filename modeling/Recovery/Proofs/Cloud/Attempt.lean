import Recovery.Cloud.Part
import Recovery.Proofs.Cloud.Deletion
import Recovery.Proofs.Timed.Attempt
/-!
# Attempts in the cloud

What is made in the cloud is recorded as a part. Parts are deleted in order, each with a single
attempt, also if one hangs until the time of the cleanup is up.
-/
set_option autoImplicit false

namespace Recovery

variable {Other : Interface}

/-- The part that the call makes if it succeeds. -/
def Cloud.part? (c : (Cloud Other).Call) : Option Part :=
  match (c : CloudCall Other) with
  | .create _ object => some (.ofObject object)
  | _ => none

/-- The part that was made, if any. -/
def Attempt.made? (a : Attempt (Cloud Other)) : Option Part :=
  if a.succeeded then Cloud.part? a.call else none

/-- The call that deletes the part. -/
def Part.deletion (ns : String) (p : Part) : (Cloud Other).Call :=
  CloudCall.delete p.kind ns p.name

section Made

variable {advances : Attempt (Cloud Other) → Prop} {calls : List (Cloud Other).Call}
  {attempts : List (Attempt (Cloud Other))} {all : Bool}

theorem Attempt.made?_of_succeeded {a : Attempt (Cloud Other)} (h : a.succeeded = true) :
    a.made? = Cloud.part? a.call := by
  rw [made?, h, if_pos rfl]

/-- What calls that are followed make is made in their order. -/
theorem Follows.made_isPrefix (good : ∀ a, advances a → a.succeeded = true)
    (h : Follows advances calls attempts all) :
    attempts.filterMap Attempt.made? <+: calls.filterMap Cloud.part? := by
  induction h with
  | finished => exact List.prefix_refl _
  | stopped a calls _ =>
    rw [List.filterMap_cons, List.filterMap_nil, List.filterMap_cons, Attempt.made?]
    cases a.succeeded with
    | false => exact List.nil_prefix
    | true =>
      cases Cloud.part? a.call with
      | none => exact List.nil_prefix
      | some p => exact List.cons_prefix_cons.mpr ⟨rfl, List.nil_prefix⟩
  | advanced a advances _ ih =>
    have made := Attempt.made?_of_succeeded (good a advances)
    rw [List.filterMap_cons, List.filterMap_cons, made]
    cases Cloud.part? a.call with
    | none => exact ih
    | some p => exact List.cons_prefix_cons.mpr ⟨rfl, ih⟩

theorem Follows.made_of_all (good : ∀ a, advances a → a.succeeded = true)
    (h : Follows advances calls attempts true) :
    attempts.filterMap Attempt.made? = calls.filterMap Cloud.part? := by
  generalize complete : true = b at h
  induction h with
  | finished => rfl
  | stopped => cases complete
  | advanced a advances _ ih =>
    have made := Attempt.made?_of_succeeded (good a advances)
    rw [List.filterMap_cons, List.filterMap_cons, made, ih complete]

end Made

namespace Cloud

variable {advances : Attempt (Cloud Other) → Prop}

theorem await_makes {scope : Scope} {ns : String} {awaited : Awaited} {timeout : Nat}
    {script : Script (Cloud Other)} {guards : List Guard} {w w' : World (Cloud Other)}
    {r : Except Fault awaited.Reply}
    (h : (await scope ns awaited timeout).run script guards w = .done r w') :
    w.Makes script [⟨CloudCall.await awaited ns timeout, some r⟩] w' := by
  have idle : Task.Idle (Task.onClock (scope.withTimeout timeout) : Task (Cloud Other) Scope) :=
    Task.only_onClock fun _ _ h => h
  rcases Saga.bind_done.mp h with ⟨s, v, opened, ended⟩ | ⟨fault, opened, rfl⟩
  · obtain ⟨_, opened, -⟩ := Saga.ofTask_done.mp opened
    exact (World.Makes.of_adds (Task.idle_done idle opened)).trans (Scope.call_makes ended)
  · obtain ⟨_, -, ⟨⟩⟩ := Saga.ofTask_done.mp opened

theorem awaitMade_makes {scope : Scope} {ns : String} {awaited : Awaited} {timeout : Nat}
    {script : Script (Cloud Other)} {guards : List Guard} {w w' : World (Cloud Other)}
    {r : Except Fault awaited.Reply}
    (h : (awaitMade scope ns awaited timeout).run script guards w = .done r w') :
    ∃ result, w.Makes script [⟨CloudCall.await awaited ns timeout, some result⟩] w' ∧
      r = Fault.during ("wait for " ++ awaited.kind.title ns awaited.name) result := by
  obtain ⟨result, waited, rfl⟩ := Task.map_done.mp h
  exact ⟨result, await_makes waited, rfl⟩

theorem takes_await (scope : Scope) (ns : String) (awaited : Awaited) (timeout : Nat)
    (good : ∀ r : Except Fault awaited.Reply,
      r.isOk = true ↔ advances ⟨CloudCall.await awaited ns timeout, some r⟩) :
    (await scope ns awaited timeout : Saga (Cloud Other) _).Takes advances
      [CloudCall.await awaited ns timeout] :=
  ⟨fun {_ _ r _ _} ended => ⟨_, await_makes ended, .single _ (good r)⟩⟩

section Make

variable {ns : String} {object : Object} {script : Script (Cloud Other)} {guards : List Guard}
  {w w' : World (Cloud Other)}

theorem make_makes (h : (make ns object).run script guards w = .done (.ok ()) w') :
    w.Makes script [⟨CloudCall.create ns object, some (.ok ())⟩] w' := by
  obtain ⟨r, made, ok⟩ := Task.map_done.mp h
  cases r with
  | ok _ => exact Task.call_makes made
  | error e => cases ok

theorem make_makes_of_error {fault : Fault}
    (h : (make ns object).run script guards w = .done (.error fault) w') :
    ∃ e, w.Makes script [⟨CloudCall.create ns object, some (.error e)⟩] w' := by
  obtain ⟨r, made, failed⟩ := Task.map_done.mp h
  cases r with
  | ok _ => cases failed
  | error e => exact ⟨e, Task.call_makes made⟩

end Make

end Cloud

/-! ## Making parts -/

namespace Part

variable {advances : Attempt (Cloud Other) → Prop}
  {note : List Part → Attempt (Cloud Other) → List Part}

/-- A part is recorded just if it is made. -/
theorem make_makes {ns : String} {object : Object} {place : Part → List Part → List Part}
    {script : Script (Cloud Other)} {guards : List Guard} {w w' : World (Cloud Other)}
    {r : Except Fault Unit} {parts parts' : List Part}
    (h : (make ns object place).runFrom parts script guards w = .done (r, parts') w') :
    ∃ result, w.Makes script [⟨CloudCall.create ns object, some result⟩] w' ∧
      result.isOk = r.isOk ∧ parts' = if r.isOk then place (.ofObject object) parts else parts := by
  rcases Recorded.bind_done.mp h with ⟨_, middle, v, first, second⟩ | ⟨fault, first, rfl⟩
  · obtain ⟨made, rfl⟩ := Recorded.ofSaga_done.mp first
    rw [Recorded.runFrom_modify] at second
    obtain ⟨second, rfl⟩ := Task.pure_done.mp second
    cases second
    exact ⟨.ok (), Cloud.make_makes made, rfl, rfl⟩
  · obtain ⟨made, rfl⟩ := Recorded.ofSaga_done.mp first
    obtain ⟨e, makes⟩ := Cloud.make_makes_of_error made
    exact ⟨.error e, makes, rfl, rfl⟩

theorem takes_make {ns : String} {object : Object} {place : Part → List Part → List Part}
    (good : ∀ r, r.isOk = true ↔ advances ⟨CloudCall.create ns object, some r⟩)
    (noted : ∀ parts r, note parts ⟨CloudCall.create ns object, some r⟩ =
      if r.isOk then place (.ofObject object) parts else parts) :
    (make ns object place : Recorded (List Part) (Cloud Other) Unit).Takes advances note
      [CloudCall.create ns object] := by
  constructor
  intro script guards r parts parts' w w' ended
  obtain ⟨result, makes, same, recorded⟩ := make_makes ended
  rw [← same] at recorded ⊢
  exact ⟨_, makes, .single _ (good result), recorded.trans (noted parts result).symm⟩

theorem takes_await {scope : Scope} {ns : String} {awaited : Awaited} {timeout : Nat}
    (good : ∀ r : Except Fault awaited.Reply,
      r.isOk = true ↔ advances ⟨CloudCall.await awaited ns timeout, some r⟩)
    (unnoted : ∀ parts a, a.call = CloudCall.await awaited ns timeout → note parts a = parts) :
    (await scope ns awaited timeout : Recorded (List Part) (Cloud Other) _).Takes advances note
      [CloudCall.await awaited ns timeout] :=
  Recorded.takes_ofSaga ((Cloud.takes_await scope ns awaited timeout good).during _)
    fun parts a ha => unnoted parts a (List.mem_singleton.mp ha)

end Part

/-! ## Deleting parts -/

/-- The attempt failed, for this reason if it was seen through. -/
inductive Attempt.Fails {I : Interface} : Attempt I → Fault → Prop where
  | refused (c : I.Call) (e : Fault) : Fails ⟨c, some (.error e)⟩ e
  | cut (c : I.Call) (e : Fault) : Fails ⟨c, none⟩ e

theorem Attempt.Fails.succeeded {I : Interface} {a : Attempt I} {e : Fault} (h : a.Fails e) :
    a.succeeded = false := by
  cases h <;> rfl

/-- A call that is run in a scope which has not been cancelled is attempted. -/
theorem Scope.run_makes {I : Interface} {c : I.Call} {scope : Scope} {what : String}
    {script : Script I} {guards : List Guard} {w w' : World I} {r : Except Fault (I.Reply c)}
    (going : scope.isCancelled w.clock = false)
    (h : (scope.run what (Saga.call c)).run script guards w = .done r w') :
    ∃ a, w.Makes script [a] w' ∧ a.call = c ∧
      (a.succeeded = true ∧ r.isOk = true ∨ ∃ e, a.Fails e ∧ r = .error e) := by
  rcases (run_done going).mp h with inside | ⟨why, inside, rfl⟩
  · refine ⟨_, Task.call_makes inside, rfl, ?_⟩
    cases r with
    | ok _ => exact .inl ⟨rfl, rfl⟩
    | error e => exact .inr ⟨e, .refused _ e, rfl⟩
  · exact ⟨_, Task.call_makes_cut inside, rfl, .inr ⟨_, .cut _ _, rfl⟩⟩

namespace Part

/-- What is reported of a failed call that makes, awaits or deletes a part. -/
def report (c : (Cloud Other).Call) (e : Fault) : Fault :=
  match (c : CloudCall Other) with
  | .create ns object => .context ("create " ++ object.kind.title ns object.name) e
  | .await awaited ns _ => .context ("wait for " ++ awaited.kind.title ns awaited.name) e
  | .delete kind ns name => .context ("delete " ++ kind.title ns name) e
  | _ => e

/-- Each part is asked for once, in order, to be deleted; the faults are of those that are kept. -/
inductive Deletes (ns : String) : List Part → List (Attempt (Cloud Other)) → List Fault → Prop where
  | nil : Deletes ns [] [] []
  | gone {p : Part} {a : Attempt (Cloud Other)} {parts : List Part}
      {attempts : List (Attempt (Cloud Other))} {faults : List Fault} :
    a.call = p.deletion ns → a.succeeded = true → Deletes ns parts attempts faults →
    Deletes ns (p :: parts) (a :: attempts) faults
  | kept {p : Part} {a : Attempt (Cloud Other)} {e : Fault} {parts : List Part}
      {attempts : List (Attempt (Cloud Other))} {faults : List Fault} :
    a.call = p.deletion ns → a.Fails e → Deletes ns parts attempts faults →
    Deletes ns (p :: parts) (a :: attempts) (report a.call e :: faults)

namespace Deletes

variable {ns : String} {parts : List Part} {attempts : List (Attempt (Cloud Other))}
  {faults : List Fault}

theorem calls (h : Deletes ns parts attempts faults) :
    attempts.map Attempt.call = parts.map (deletion ns) := by
  induction h with
  | nil => rfl
  | gone call _ _ ih => exact congrArg₂ List.cons call ih
  | kept call _ _ ih => exact congrArg₂ List.cons call ih

theorem single (h : Deletes ns parts attempts faults) : ∀ f ∈ faults, f.IsSingle := by
  induction h with
  | nil => exact List.forall_mem_nil _
  | gone _ _ _ ih => exact ih
  | kept call _ _ ih =>
    refine List.forall_mem_cons.mpr ⟨?_, ih⟩
    rw [call]
    rfl

theorem faults_eq_nil (h : Deletes ns parts attempts faults) :
    faults = [] ↔ ∀ a ∈ attempts, a.succeeded = true := by
  induction h with
  | nil => exact iff_of_true rfl (List.forall_mem_nil _)
  | gone _ succeeded _ ih => rw [List.forall_mem_cons, ih, and_iff_right succeeded]
  | kept _ fails _ _ =>
    refine iff_of_false (List.cons_ne_nil _ _) fun all => ?_
    exact Bool.false_ne_true (fails.succeeded.symm.trans (List.forall_mem_cons.mp all).1)

/-- There is a fault for each deletion that failed. -/
theorem blames (h : Deletes ns parts attempts faults) {a : Attempt (Cloud Other)}
    (mem : a ∈ attempts) (failed : a.succeeded = false) :
    ∃ e, a.Fails e ∧ report a.call e ∈ faults := by
  induction h with
  | nil => cases mem
  | gone _ succeeded _ ih =>
    rcases List.mem_cons.mp mem with rfl | mem
    · rw [succeeded] at failed
      cases failed
    · exact ih mem
  | kept _ fails _ ih =>
    rcases List.mem_cons.mp mem with rfl | mem
    · exact ⟨_, fails, List.mem_cons_self⟩
    · obtain ⟨e, fails, blamed⟩ := ih mem
      exact ⟨e, fails, List.mem_cons_of_mem _ blamed⟩

theorem ofList?_eq_none (h : Deletes ns parts attempts faults) :
    Fault.ofList? faults = none ↔ ∀ a ∈ attempts, a.succeeded = true :=
  (Fault.ofList?_eq_none h.single).trans h.faults_eq_nil

theorem shown (h : Deletes ns parts attempts faults) {g : Fault}
    (joined : Fault.ofList? faults = some g) {a : Attempt (Cloud Other)} (mem : a ∈ attempts)
    (failed : a.succeeded = false) : ∃ e, a.Fails e ∧ g.Shows (report a.call e) := by
  obtain ⟨e, fails, blamed⟩ := h.blames mem failed
  exact ⟨e, fails, Fault.shows_ofList? joined blamed (h.single _ blamed)⟩

end Deletes

end Part

section Deletion

variable {script : Script (Cloud Other)} {guards : List Guard} {w w' : World (Cloud Other)}
  {scope caller : Scope} {ns : String}

theorem Part.delete_makes {p : Part} {r : Except Fault Unit}
    (going : scope.isCancelled w.clock = false)
    (h : (p.delete scope ns).run script guards w = .done r w') :
    ∃ a, w.Makes script [a] w' ∧ a.call = p.deletion ns ∧
      (a.succeeded = true ∧ r = .ok () ∨ ∃ e, a.Fails e ∧ r = .error (report a.call e)) := by
  obtain ⟨r, ran, rfl⟩ := Task.map_done.mp h
  obtain ⟨a, makes, call, ⟨succeeded, ok⟩ | ⟨e, fails, rfl⟩⟩ := Scope.run_makes going ran
  · refine ⟨a, makes, call, .inl ⟨succeeded, ?_⟩⟩
    cases r with
    | ok _ => rfl
    | error e => cases ok
  · exact ⟨a, makes, call, .inr ⟨e, fails, by rw [call]; rfl⟩⟩

theorem Part.deleteEach_makes {parts kept : List Part} {faults : List Fault}
    (sheltered : w.Shelters script scope)
    (h : deleteEach scope ns parts script guards w = .done (kept, faults) w') :
    ∃ attempts, w.Makes script attempts w' ∧ Deletes ns parts attempts faults := by
  induction parts generalizing w w' kept faults with
  | nil =>
    obtain ⟨ends, rfl⟩ := Task.pure_done.mp h
    cases ends
    exact ⟨[], .refl w, .nil⟩
  | cons p parts ih =>
    obtain ⟨result, v, deleted, then_⟩ := Task.bind_done.mp h
    obtain ⟨⟨kept', faults'⟩, v', rest, ends⟩ := Task.bind_done.mp then_
    obtain ⟨a, makes, call, outcome⟩ := delete_makes sheltered.isCancelled deleted
    obtain ⟨attempts, makes', deletes⟩ := ih (makes.shelters sheltered) rest
    rcases outcome with ⟨succeeded, rfl⟩ | ⟨e, fails, rfl⟩
    · obtain ⟨ends, rfl⟩ := Task.pure_done.mp ends
      cases ends
      exact ⟨a :: attempts, makes.trans makes', .gone call succeeded deletes⟩
    · obtain ⟨ends, rfl⟩ := Task.pure_done.mp ends
      cases ends
      exact ⟨a :: attempts, makes.trans makes', .kept call fails deletes⟩

/-- The deletion of parts in a scope of its own is never cut short. -/
theorem Part.detached_makes {parts : List Part} {what : String} {milliseconds : Nat}
    {r : Except Fault Unit}
    (h : Cleanup.Detached what milliseconds (fun s => (deleteAll s ns).evalFrom parts) script guards
      w w' r) :
    ∃ attempts faults, w.Makes script attempts w' ∧ Deletes ns parts attempts faults ∧
      r = settle faults := by
  cases h with
  | through opens inside =>
    obtain ⟨kept, inside⟩ := Recorded.evalFrom_done.mp inside
    obtain ⟨faults, each, rfl⟩ := deleteAll_done.mp inside
    obtain ⟨attempts, makes, deletes⟩ := deleteEach_makes opens.sheltered each
    exact ⟨attempts, faults, (World.Makes.of_adds opens.adds).trans makes, deletes, rfl⟩
  | cut opens inside =>
    exact absurd (Recorded.evalFrom_interrupted.mp inside)
      (deleteAll_ne [] opens.sheltered opens.sheltered rfl rfl)

/-- Parts that are discarded are deleted in order, each with a single attempt. -/
theorem Part.discard_makes {parts : List Part} {message : String} {milliseconds : Nat}
    {r : Except Fault Unit} (rooted : script.root < w.clock.fresh)
    (h : (Cleanup.run (((discard ns parts).withContext message).withTimeout milliseconds)
      caller).run script guards w = .done r w') :
    ∃ attempts, w.Makes script attempts w' ∧
      attempts.map Attempt.call = parts.map (deletion ns) := by
  obtain ⟨_, detached, -⟩ := Cleanup.detached_of_done rooted rfl rfl h
  obtain ⟨attempts, faults, makes, deletes, -⟩ := detached_makes detached
  exact ⟨attempts, makes, deletes.calls⟩

/-- A single deletion is attempted once, and succeeds if the attempt does. -/
theorem Cloud.deletion_makes {message : String} {kind : Kind} {name : String} {milliseconds : Nat}
    {r : Except Fault Unit} (rooted : script.root < w.clock.fresh)
    (h : (Cleanup.run ((deletion message kind ns name).withTimeout milliseconds)
      caller).run script guards w = .done r w') :
    ∃ a, w.Makes script [a] w' ∧ a.call = .delete kind ns name ∧ a.succeeded = r.isOk := by
  obtain ⟨s, v, adds, sheltered, -, ran⟩ := Cleanup.ran_of_timeout rooted rfl rfl h
  cases ran with
  | through r inside =>
    refine ⟨_, (World.Makes.of_adds adds).trans (Task.call_makes inside), rfl, ?_⟩
    cases r <;> rfl
  | cut why what inside =>
    exact ⟨_, (World.Makes.of_adds adds).trans (Task.call_makes_cut inside), rfl, rfl⟩

end Deletion

end Recovery
