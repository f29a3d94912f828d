import Recovery.Proofs.Cloud.Calls
import Recovery.Recipe.Recipe
/-!
# What workers owe

A worker that is handed out owes its parts and is connected. Taking it down settles them, unless a
second attempt to close its client outlasts the time there is for deleting the worker.
-/
set_option autoImplicit false

namespace Recovery

variable {Other : Interface}

namespace Worker

/-! ## Making -/

theorem tracks_start (scope : Scope) (o : WorkerOptions) (name : String) :
    (start scope o name : Recorded (List Part) (Cloud Other) String).Tracks (Part.keys o.ns) :=
  Recorded.tracks_bind (Part.tracks_make _ _ _ (Part.keys_last o.ns)) fun _ =>
  Recorded.tracks_bind (Part.tracks_await _ _ _ _) fun _ =>
  Recorded.tracks_bind (Part.tracks_make _ _ _ (Part.keys_last o.ns)) fun _ =>
  Recorded.tracks_bind (Part.tracks_await _ _ _ _) fun _ =>
  Recorded.tracks_bind (Recorded.tracks_ofSaga (Cloud.asks_readService _ _).neutral) fun _ =>
  Recorded.tracks_bind
    (Recorded.tracks_ofSaga (Scope.only_run _ _ (Reach.asks_findHost _ _ _).neutral)) fun _ =>
  Recorded.tracks_bind
    (Recorded.tracks_ofSaga (Scope.only_run _ _ (Cloud.asks_connect _ _).neutral)) fun _ =>
  Recorded.tracks_pure _

/-- What a worker owes. -/
def due (w : Worker) : Multiset ObjectKey := Part.keys w.ns w.parts

theorem owes_create (scope : Scope) (o : WorkerOptions) :
    (create scope o : Saga (Cloud Other) Worker).Owes due := by
  refine Saga.owes_bind (.pure _) fun _ => ?_
  refine Saga.owes_bind (Cloud.asks_freshName _).neutral fun name => ⟨?_⟩
  intro script guards base owed told r w w' a ended
  obtain ⟨started, parts, v, ran, ended⟩ := Recorded.runFrom_bind_done.mp ended
  have a := (tracks_start scope o name).account_of_empty rfl a ran
  cases started with
  | ok host =>
    obtain ⟨rfl, rfl⟩ := Task.pure_done.mp ended
    exact a
  | error fault => exact Saga.discarded (Part.settles_discard _ _ _ _) a ended

section Connected

variable {script : Script (Cloud Other)} {guards : List Guard} {w w' : World (Cloud Other)}

theorem create_connected {scope : Scope} {o : WorkerOptions} {worker : Worker}
    (h : (create scope o).run script guards w = .done (.ok worker) w') :
    worker.connected = true := by
  rcases Saga.bind_done.mp h with ⟨_, _, -, h⟩ | ⟨_, -, ⟨⟩⟩
  rcases Saga.bind_done.mp h with ⟨name, _, -, h⟩ | ⟨_, -, ⟨⟩⟩
  obtain ⟨started, parts, v, -, h⟩ := Recorded.runFrom_bind_done.mp h
  cases started with
  | ok host =>
    obtain ⟨same, -⟩ := Task.pure_done.mp h
    cases same
    rfl
  | error fault =>
    obtain ⟨cleaned, -, same⟩ := Cleanup.foldInto_done.mp h
    cases cleaned <;> cases same

end Connected

/-! ## Taking down -/

section Close

variable {script : Script (Cloud Other)} {guards : List Guard} {w w' : World (Cloud Other)}
  {worker worker' : Worker} {r : Except Fault Unit}

theorem closeClient_done
    (h : closeClient.runFrom worker script guards w = .done (r, worker') w') :
    worker' = { worker with connected := worker.connected && !r.isOk } ∧
      if worker.connected then Cloud.closeClient.run script guards w = .done r w'
      else r = .ok () ∧ w' = w := by
  rcases Recorded.bind_done.mp h with ⟨_, _, v, got, h⟩ | ⟨_, got, -⟩
  · obtain ⟨same, rfl⟩ := Task.pure_done.mp got
    cases same
    cases connected : worker.connected with
    | false =>
      simp only [connected, Bool.false_eq_true, if_false] at h ⊢
      obtain ⟨same, rfl⟩ := Task.pure_done.mp h
      cases same
      exact ⟨by rw [Bool.false_and, ← connected], rfl, rfl⟩
    | true =>
      simp only [connected, if_true] at h ⊢
      rcases Recorded.bind_done.mp h with ⟨_, _, v', closed, h⟩ | ⟨fault, closed, rfl⟩
      · obtain ⟨ran, rfl⟩ := Recorded.ofSaga_done.mp closed
        obtain ⟨same, rfl⟩ := Task.pure_done.mp h
        cases same
        exact ⟨rfl, ran⟩
      · obtain ⟨ran, rfl⟩ := Recorded.ofSaga_done.mp closed
        refine ⟨?_, ran⟩
        show _ = { worker' with connected := true }
        rw [← connected]
  · obtain ⟨same, -⟩ := Task.pure_done.mp got
    cases same

theorem closeClient_interrupted {outside : Nat} {why : Interrupt}
    (h : closeClient.runFrom worker script guards w = .interrupted outside why w') :
    worker.connected = true ∧
      Cloud.closeClient.run script guards w = .interrupted outside why w' := by
  rcases Recorded.bind_interrupted.mp h with got | ⟨_, _, v, got, h⟩
  · cases got
  · obtain ⟨same, rfl⟩ := Task.pure_done.mp got
    cases same
    cases connected : worker.connected with
    | false =>
      simp only [connected, Bool.false_eq_true, if_false] at h
      cases h
    | true =>
      simp only [connected, if_true] at h
      rcases Recorded.bind_interrupted.mp h with closed | ⟨_, _, v', closed, h⟩
      · exact ⟨rfl, Recorded.ofSaga_interrupted.mp closed⟩
      · cases h

end Close

end Worker

/-- Every close of a client in the run on record takes no longer than the limit. `base` is what was
on record before the run. -/
def Script.ClosesWithin (script : Script (Cloud Other)) (limit : Nat)
    (base marks : List (Mark (Cloud Other))) : Prop :=
  ∀ past instant, base <+: past → past ++ [.began ⟨instant, .closeClient⟩] <+: marks →
    let outcome := script.answer ((past.filterMap Mark.entry?).map Entry.call) .closeClient
    outcome.hangs = false ∧ outcome.delay ≤ limit

theorem Script.ClosesWithin.earlier {script : Script (Cloud Other)} {limit : Nat}
    {base marks marks' : List (Mark (Cloud Other))} (h : script.ClosesWithin limit base marks')
    (before : marks <+: marks') : script.ClosesWithin limit base marks :=
  fun past instant after begun => h past instant after (begun.trans before)

namespace Worker

section TakeDown

variable {script : Script (Cloud Other)} {base : List (Mark (Cloud Other))}
  {owed : Multiset ObjectKey} {told told' : List Fault} {guards : List Guard}
  {w w' : World (Cloud Other)} {worker worker' : Worker}

/-- Closing the client owes nothing; what is told afterwards has to cite its failure. -/
theorem account_closeClient {r : Except Fault Unit} (a : Account script base owed told w)
    (covers : Fault.Covers told told') (cited : ∀ e, r = .error e → ∃ f ∈ told', f.Cites e)
    (h : closeClient.runFrom worker script guards w = .done (r, worker') w') :
    Account script base owed told' w' := by
  obtain ⟨-, closed⟩ := closeClient_done h
  cases connected : worker.connected with
  | false =>
    simp only [connected, Bool.false_eq_true, if_false] at closed
    obtain ⟨rfl, rfl⟩ := closed
    exact a.retell covers
  | true =>
    simp only [connected, if_true] at closed
    have adds := Task.call_done closed
    exact a.adds adds fun ms books => books.close covers r cited _ _

theorem close_done {r : Except Fault Worker}
    (h : (provisioner.close worker).run script guards w = .done r w') :
    ∃ r' worker', closeClient.runFrom worker script guards w = .done (r', worker') w' ∧
      r = r'.map fun _ => worker' := by
  obtain ⟨⟨r', worker'⟩, v, closed, h⟩ := Task.bind_done.mp h
  obtain ⟨rfl, rfl⟩ := Task.pure_done.mp h
  exact ⟨r', worker', closed, rfl⟩

theorem undoes_close (worker : Worker) (report : Fault → Fault)
    (single : ∀ f, (report f).IsSingle) (shows_ : ∀ f, (report f).Shows f) :
    Undoes report (fun _ => (provisioner.close worker : Saga (Cloud Other) Worker)) 0 where
  done _ a ended := by
    obtain ⟨r, worker', closed, rfl⟩ := close_done ended
    rw [zero_add] at a
    refine account_closeClient a (.of_subset (List.subset_append_left ..)) ?_ closed
    rintro e rfl
    exact ⟨_, List.mem_append_right _ (List.mem_singleton_self _),
      Fault.cites_of_shows (single e) (shows_ e)⟩
  cut _ a ended fault := by
    rcases Task.bind_interrupted.mp ended with closed | ⟨_, _, _, ended⟩
    · rw [zero_add] at a
      exact a.adds (Task.call_interrupted (closeClient_interrupted closed).2) fun ms books =>
        books.close_cut (.of_subset (List.subset_append_left ..)) _
    · cases ended

theorem closeClient_adds {r : Except Fault Unit}
    (h : closeClient.runFrom worker script guards w = .done (r, worker') w') :
    ∃ added, w.Adds script added w' := by
  obtain ⟨-, closed⟩ := closeClient_done h
  cases connected : worker.connected with
  | false =>
    simp only [connected, Bool.false_eq_true, if_false] at closed
    obtain ⟨-, rfl⟩ := closed
    exact ⟨_, .refl w'⟩
  | true =>
    simp only [connected, if_true] at closed
    have adds := Task.call_done closed
    exact ⟨_, adds⟩

theorem account_delete {scope : Scope} {r : Except Fault Unit}
    (sheltered : w.Shelters script scope) (a : Account script base (worker.due + owed) told w)
    (h : (delete scope).runFrom worker script guards w = .done (r, worker') w') :
    Account script base owed (told ++ Fault.told r) w' := by
  obtain ⟨⟨closed, middle⟩, v, ran, h⟩ := Task.bind_done.mp h
  obtain ⟨⟨kept, faults⟩, v', deleted, h⟩ := Task.bind_done.mp h
  obtain ⟨same, rfl⟩ := Task.pure_done.mp h
  cases same
  obtain ⟨rfl, -⟩ := closeClient_done ran
  obtain ⟨added, adds⟩ := closeClient_adds ran
  have each := Part.deleteEach_single deleted
  cases closed with
  | ok _ =>
    have a := account_closeClient a (.refl told) (by simp) ran
    have a := Part.deleteEach_done (adds.shelters scope sheltered) a deleted
    exact a.retell ((Fault.Covers.refl told).append (Part.covers_settle each))
  | error fault =>
    have a : Account script base (worker.due + owed)
        (told ++ [.context ("close client of worker " ++ worker.name) fault]) v := by
      refine account_closeClient a (.of_subset (List.subset_append_left ..)) ?_ ran
      rintro e ⟨⟩
      exact ⟨_, List.mem_append_right _ (List.mem_singleton_self _),
        Fault.cites_context _ (.refl fault)⟩
    have a := Part.deleteEach_done (adds.shelters scope sheltered) a deleted
    rw [List.append_assoc] at a
    exact a.retell ((Fault.Covers.refl told).append
      (Part.covers_settle (List.forall_mem_cons.mpr ⟨rfl, each⟩)))

/-- Only a close that outlasts the time there is can cut the deletion of a worker short. -/
theorem delete_cut {s : Scope} {limit : Nat} {why : Interrupt} (sheltered : w.Shelters script s)
    (deadline : s.deadline = some (w.clock.now + limit))
    (h : (delete s).runFrom worker script (s.guard :: guards) w =
      .interrupted guards.length why w') :
    w.Adds script [.began ⟨w.clock.now, .closeClient⟩] w' ∧ worker.connected = true ∧
      ¬ (let outcome := script.answer (w.log.map Entry.call) .closeClient
        outcome.hangs = false ∧ outcome.delay ≤ limit) := by
  rcases Task.bind_interrupted.mp h with closed | ⟨⟨closed, middle⟩, v, ran, h⟩
  · obtain ⟨connected, closed⟩ := closeClient_interrupted closed
    refine ⟨Task.call_interrupted closed, connected, fun ⟨hangs, delay⟩ => ?_⟩
    refine Task.call_ne [] sheltered rfl (fun instant waiting expired => ?_) closed
    have waiting := waiting hangs
    simp only [Guard.isExpired, show s.guard.deadline = s.deadline from rfl, deadline,
      decide_eq_true_eq] at expired
    omega
  · obtain ⟨added, adds⟩ := closeClient_adds ran
    rcases Task.bind_interrupted.mp h with deleted | ⟨_, _, _, h⟩
    · have sheltered := adds.shelters s sheltered
      exact absurd deleted (Part.deleteEach_ne [] sheltered sheltered rfl rfl)
    · cases h

end TakeDown

end Worker

end Recovery
