import Recovery.Proofs.Recipe.Quiet
import Recovery.Proofs.Stage.Ending
import Recovery.Proofs.Worker.Story
/-!
# What a cancellation stops

A client is connected in the scope of the run and no later than that this scope matters to the
requests: a run that is cancelled before makes none and fails, with everything taken down. From then
on the actions are executed as in any other scope, so that a cancellation neither keeps the next
request from being made nor ends one that hangs.
-/
set_option autoImplicit false

namespace Recovery

variable {Other : Interface} {α β : Type}

/-! ## Connections and requests -/

def CloudCall.isConnect : CloudCall Other → Bool
  | .connect _ _ => true
  | _ => false

/-- Between the two worlds it is begun to connect a client, and the scope is not cancelled then. -/
def Scope.Connects (scope : Scope) (w w' : World (Cloud Other)) : Prop :=
  ∃ u host port, w.Precedes u ∧ scope.isCancelled u.clock = false ∧
    (u.mark (.began ⟨u.clock.now, CloudCall.connect host port⟩)).Precedes w'

/-- Between the two worlds a request is begun. -/
def World.Requests (w w' : World (Cloud Other)) : Prop :=
  ∃ added, w'.marks = w.marks ++ added ∧ ∃ m ∈ added, m.call.isRequest = true

section Between

variable {scope : Scope} {w v v' w' : World (Cloud Other)}

theorem Scope.Connects.mono (h : scope.Connects v v') (before : w.Precedes v)
    (after : v'.Precedes w') : scope.Connects w w' := by
  obtain ⟨u, host, port, first, opened, begun⟩ := h
  exact ⟨u, host, port, before.trans first, opened, begun.trans after⟩

theorem Scope.Connects.logged (h : scope.Connects w w') :
    ∃ e ∈ w'.log, e.call.isConnect = true := by
  obtain ⟨u, host, port, -, -, begun⟩ := h
  exact ⟨⟨u.clock.now, .connect host port⟩,
    List.mem_filterMap.mpr ⟨_, begun.marks.subset List.mem_concat_self, rfl⟩, rfl⟩

theorem World.Requests.split (h : w.Requests w') (first : w.Precedes v) (second : v.Precedes w') :
    w.Requests v ∨ v.Requests w' := by
  obtain ⟨added, marks, m, mem, request⟩ := h
  obtain ⟨before, marks'⟩ := first.marks
  obtain ⟨after, marks''⟩ := second.marks
  rw [← marks'', ← marks', List.append_assoc] at marks
  rw [← List.append_cancel_left marks] at mem
  rcases List.mem_append.mp mem with mem | mem
  · exact .inl ⟨before, marks'.symm, m, mem, request⟩
  · exact .inr ⟨after, marks''.symm, m, mem, request⟩

theorem Cloud.Quiet.not_requests {task : Task (Cloud Other) α} (h : Cloud.Quiet task)
    (script : Script (Cloud Other)) (guards : List Guard) (w : World (Cloud Other)) :
    ¬ w.Requests (task script guards w).world := by
  rintro ⟨added, marks, m, mem, request⟩
  obtain ⟨added', adds, quiet⟩ := h script guards w
  rw [List.append_cancel_left (adds.marks.symm.trans marks)] at quiet
  exact Bool.false_ne_true ((quiet m mem).symm.trans request)

end Between

namespace Task

/-- However the task is left, if a request was made then a client was connected. -/
def Unlocks (scope : Scope) (task : Task (Cloud Other) α) : Prop :=
  ∀ (script : Script (Cloud Other)) (guards : List Guard) (w : World (Cloud Other)),
    w.Requests (task script guards w).world → scope.Connects w (task script guards w).world

variable {scope : Scope} {task : Task (Cloud Other) α}

theorem unlocks_of_quiet (h : Cloud.Quiet task) : Unlocks scope task :=
  fun script guards w requests => absurd requests (h.not_requests script guards w)

/-- What follows a quiet task is free to make requests once a client is connected. -/
theorem unlocks_bind_of_connects {next : α → Task (Cloud Other) β} (h : Cloud.Quiet task)
    (h' : ∀ {script guards w v a}, task script guards w = .done a v →
      scope.Connects w v ∨ Unlocks scope (next a)) : Unlocks scope (task >>= next) := by
  intro script guards w requests
  rw [bind_run] at requests ⊢
  have quiet := h.not_requests script guards w
  cases ended : task script guards w with
  | done a v =>
    rw [ended] at requests quiet
    have first := precedes_of_done ended
    have second := (next a).precedes script guards v
    rcases requests.split first second with before | after
    · exact absurd before quiet
    · rcases h' ended with connects | unlocks
      · exact connects.mono (.refl w) second
      · exact (unlocks script guards v after).mono first (.refl _)
  | interrupted outside why v =>
    rw [ended] at requests quiet
    exact absurd requests quiet
  | endless v =>
    rw [ended] at requests quiet
    exact absurd requests quiet

theorem Unlocks.bind_quiet {next : α → Task (Cloud Other) β} (h : Unlocks scope task)
    (h' : ∀ a, Cloud.Quiet (next a)) : Unlocks scope (task >>= next) := by
  intro script guards w requests
  rw [bind_run] at requests ⊢
  have first := h script guards w
  cases ended : task script guards w with
  | done a v =>
    rw [ended] at requests first
    have second := (next a).precedes script guards v
    rcases requests.split (precedes_of_done ended) second with before | after
    · exact (first before).mono (.refl w) second
    · exact absurd after ((h' a).not_requests script guards v)
  | interrupted outside why v =>
    rw [ended] at requests first
    exact first requests
  | endless v =>
    rw [ended] at requests first
    exact first requests

/-- A call has begun, however it is left. -/
theorem call_begins {I : Interface} (c : I.Call) (script : Script I) (guards : List Guard)
    (w : World I) :
    (w.mark (.began ⟨w.clock.now, c⟩)).Precedes (call c script guards w).world :=
  (play (script.answer (w.log.map Entry.call) c) >>= fun r =>
    finish c r >>= fun _ => pure r).precedes script guards (w.mark (.began ⟨w.clock.now, c⟩))

end Task

/-! ## The phases -/

section Phases

variable {scope : Scope} {script : Script (Cloud Other)} {guards : List Guard}
  {w w' : World (Cloud Other)}

/-- A worker is handed out only if its client was connected in a scope that was not cancelled. -/
theorem Worker.create_connects {o : WorkerOptions} {worker : Worker}
    (h : (create scope o).run script guards w = .done (.ok worker) w') : scope.Connects w w' := by
  rcases Saga.bind_done.mp h with ⟨_, u₁, validated, h⟩ | ⟨_, -, ⟨⟩⟩
  rcases Saga.bind_done.mp h with ⟨name, u₂, drawn, h⟩ | ⟨_, -, ⟨⟩⟩
  obtain ⟨started, parts, u₃, ran, h⟩ := Recorded.runFrom_bind_done.mp h
  cases started with
  | error fault =>
    obtain ⟨cleaned, -, same⟩ := Cleanup.foldInto_done.mp h
    cases cleaned <;> cases same
  | ok host =>
    obtain ⟨-, rfl⟩ := Task.pure_done.mp h
    rw [start_eq] at ran
    rcases Recorded.bind_done.mp ran with ⟨_, _, u₄, prepared, ran⟩ | ⟨_, -, ⟨⟩⟩
    rcases Recorded.bind_done.mp ran with ⟨service, _, u₅, read, ran⟩ | ⟨_, -, ⟨⟩⟩
    rcases Recorded.bind_done.mp ran with ⟨found, _, u₆, searched, ran⟩ | ⟨_, -, ⟨⟩⟩
    rcases Recorded.bind_done.mp ran with ⟨_, _, u₇, tried, ran⟩ | ⟨_, -, ⟨⟩⟩
    obtain ⟨-, rfl⟩ := Task.pure_done.mp ran
    obtain ⟨connected, -⟩ := Recorded.ofSaga_done.mp tried
    have reached : w.Precedes u₆ :=
      (Task.precedes_of_done validated).trans <| (Task.precedes_of_done drawn).trans <|
        (Task.precedes_of_done prepared).trans <| (Task.precedes_of_done read).trans <|
          Task.precedes_of_done searched
    cases cancelled : scope.isCancelled u₆.clock with
    | true =>
      rw [Scope.run_of_cancelled cancelled] at connected
      cases connected
    | false =>
      refine ⟨u₆, found, o.port, reached, cancelled, ?_⟩
      have begun := Task.call_begins (I := Cloud Other) (.connect found o.port) script
        (scope.guard :: guards) u₆
      rcases (Scope.run_done cancelled).mp connected with inside | ⟨why, -, ⟨⟩⟩
      rwa [show Task.call (I := Cloud Other) (.connect found o.port) script
        (scope.guard :: guards) u₆ = _ from inside] at begun

namespace Stage

theorem quiet_setupAll (scope : Scope) (actions : List (NamedAction Recipe))
    (worker : WorkerOptions) :
    Cloud.Quiet (setupAll scope actions worker : Task (Cloud Other) _) := by
  induction actions generalizing worker with
  | nil => exact .pure _
  | cons a rest ih =>
    refine (Recipe.quiet_setup scope (a.action, worker)).bind fun (r, action, worker) => ?_
    cases r with
    | error fault => exact .pure _
    | ok _ => exact (ih worker).bind fun _ => .pure _

theorem quiet_finish (scope : Scope) (timeout : Nat) (x : Worked Recipe Worker) :
    Cloud.Quiet (finish scope Worker.provisioner timeout x : Task (Cloud Other) _) := by
  refine Task.Only.bind ?_ fun r => Cleanup.Only.unwind (fun c mem => ?_) scope r
  · unfold release
    cases x.worker with
    | none => exact .pure _
    | some worker =>
      have close : Cloud.Quiet (Worker.provisioner.close worker : Saga (Cloud Other) _).run :=
        (Worker.quiet_closeClient worker).bind fun _ => .pure _
      have delete (worker : Worker) (s : Scope) :
          Cloud.Quiet (Worker.provisioner.delete worker s : Saga (Cloud Other) _).run :=
        Recorded.only_evalFrom (Worker.quiet_delete s) worker
      have closing := ((Cleanup.Only.ofScope fun _ => close).withContext
        "close worker client").withTimeout timeout
      have deletion (worker : Worker) := ((Cleanup.Only.ofScope (delete worker)).withContext
        "delete worker").withTimeout timeout
      exact (closing.run scope).bind fun _ => ((deletion _).run scope).bind fun _ => .pure _
  · obtain ⟨a, -, rfl⟩ := List.mem_map.mp (List.mem_reverse.mp mem)
    exact ((Cleanup.Only.ofScope fun s => Recipe.quiet_cleanup s a.action).withTimeout
      timeout).withMapFault _

theorem unlocks_work (scope : Scope) (o : StageOptions) (actions : List (NamedAction Recipe)) :
    Task.Unlocks scope (work scope Worker.provisioner o actions : Task (Cloud Other) _) := by
  refine Task.unlocks_bind_of_connects (asks_validateAll scope actions).quiet
    fun {_ _ _ _ validated} _ => .inr ?_
  cases validated with
  | error fault => exact Task.unlocks_of_quiet (.pure _)
  | ok _ =>
    refine Task.unlocks_bind_of_connects (quiet_setupAll scope actions o.seed)
      fun {_ _ _ _ ready} _ => .inr ?_
    obtain ⟨r, actions⟩ := ready
    cases r with
    | error fault => exact Task.unlocks_of_quiet (.pure _)
    | ok options =>
      refine Task.unlocks_bind_of_connects (Worker.quiet_create scope options)
        fun {_ _ _ _ provisioned} made => ?_
      cases provisioned with
      | error fault => exact .inr (Task.unlocks_of_quiet (.pure _))
      | ok worker => exact .inl (Worker.create_connects made)

/-- The work comes to something only if a client was connected in a scope that was not cancelled. -/
theorem work_connects {o : StageOptions} {actions : List (NamedAction Recipe)}
    {x : Worked Recipe Worker}
    (h : work scope Worker.provisioner o actions script guards w = .done x w')
    (ok : x.result = .ok ()) : scope.Connects w w' := by
  obtain ⟨validated, u, ran, h⟩ := Task.bind_done.mp h
  cases validated with
  | error fault =>
    obtain ⟨rfl, -⟩ := Task.pure_done.mp h
    cases ok
  | ok _ =>
    obtain ⟨⟨ready, middle⟩, u', ran', h⟩ := Task.bind_done.mp h
    cases ready with
    | error fault =>
      obtain ⟨rfl, -⟩ := Task.pure_done.mp h
      cases ok
    | ok options =>
      obtain ⟨provisioned, u'', made, h⟩ := Task.bind_done.mp h
      cases provisioned with
      | error fault =>
        obtain ⟨rfl, -⟩ := Task.pure_done.mp h
        cases ok
      | ok worker =>
        have before := (Task.precedes_of_done ran).trans (Task.precedes_of_done ran')
        exact (Worker.create_connects made).mono before (Task.precedes_of_done h)

/-- Taking down the worker and cleaning up mends nothing. -/
theorem finish_ok {timeout : Nat} {x : Worked Recipe Worker}
    (h : finish scope Worker.provisioner timeout x script guards w = .done (.ok ()) w') :
    x.result = .ok () := by
  obtain ⟨r, u, released, unwound⟩ := Task.bind_done.mp h
  obtain ⟨_, rfl⟩ := Fault.told_eq_nil.mp (covers_unwind unwound).eq_nil
  unfold release at released
  cases employed : x.worker with
  | none =>
    rw [employed] at released
    exact (Task.pure_done.mp released).1
  | some worker =>
    rw [employed] at released
    obtain ⟨closed, v, -, released⟩ := Task.bind_done.mp released
    obtain ⟨deleted, v', -, released⟩ := Task.bind_done.mp released
    exact (foldWorker_ok (foldWorker_ok (Task.pure_done.mp released).1).1).1

end Stage

end Phases

/-! ## Whole runs -/

/-- Nothing that a recipe executes is run in the scope that it is given. -/
theorem Recipe.execute_scope (scope scope' : Scope) (client : WorkerClient (Cloud Other)) :
    (Action.execute scope client : Recorded Recipe (Cloud Other) Unit) =
      Action.execute scope' client := by
  refine bind_congr fun a => ?_
  cases a <;> rfl

namespace Stage

theorem executeAll_scope (scope scope' : Scope) (client : WorkerClient (Cloud Other))
    (actions : List (NamedAction Recipe)) :
    executeAll scope client actions = executeAll scope' client actions := by
  induction actions with
  | nil => rfl
  | cons a rest ih => simp only [executeAll, Recipe.execute_scope scope scope', ih]

/-- Unless it begins to connect a client in a scope that is not cancelled then, a run makes no
request. It ends just when its work does, and then in the time of the cleanups that are due, having
taken every turn of its course, and with a failure unless it has begun to connect a client. But the
actions are executed in one scope as in any other, be it cancelled or not. -/
theorem cancellation_counts_until_connected {scope : Scope} {o : StageOptions}
    {actions : List (NamedAction Recipe)} {script : Script (Cloud Other)} {w : World (Cloud Other)}
    (rooted : script.root < w.clock.fresh) :
    (¬ scope.Connects w ((run scope Worker.provisioner o actions).run script [] w).world →
      ¬ w.Requests ((run scope Worker.provisioner o actions).run script [] w).world) ∧
    ((∃ r w', (run scope Worker.provisioner o actions).run script [] w = .done r w') ↔
      ∃ x v, work scope Worker.provisioner o actions script [] w = .done x v) ∧
    (∀ r w', (run scope Worker.provisioner o actions).run script [] w = .done r w' →
      ∃ x v turns, work scope Worker.provisioner o actions script [] w = .done x v ∧
        Turns scope Worker.provisioner o.cleanupTimeout script [] w turns w' ∧
        Course Worker.provisioner o.seed actions turns ∧
        w'.clock.now ≤ v.clock.now + ((if x.worker.isSome then 2 else 0) +
          (x.actions.filter fun a => Action.hasCleanup (Cloud Other) a.action).length) *
            o.cleanupTimeout ∧
        (¬ scope.Connects w w' → ∃ f, r = .error f)) ∧
    ∀ (scope' : Scope) (client : WorkerClient (Cloud Other)) (later : List (NamedAction Recipe)),
      executeAll scope client later = executeAll scope' client later := by
  have interruptible : Interruptible (A := Recipe)
      (Worker.provisioner : Provisioner (Cloud Other) Worker) := Worker.interruptible
  have lasts := interruptible.lasts_finish scope o.cleanupTimeout
  have split := run_eq (I := Cloud Other) scope Worker.provisioner o actions
  have finished : ∀ r w', (run scope Worker.provisioner o actions).run script [] w = .done r w' →
      ∃ x v, work scope Worker.provisioner o actions script [] w = .done x v ∧
        finish scope Worker.provisioner o.cleanupTimeout x script [] v = .done r w' := by
    intro r w' ended
    rw [split] at ended
    exact Task.bind_done.mp ended
  refine ⟨fun unconnected requests => ?_, ⟨?_, ?_⟩, fun r w' ended => ?_,
    fun scope' client later => executeAll_scope scope scope' client later⟩
  · rw [split] at unconnected requests
    have unlocks : Task.Unlocks scope (work scope Worker.provisioner o actions >>=
        finish (I := Cloud Other) scope Worker.provisioner o.cleanupTimeout) :=
      (unlocks_work scope o actions).bind_quiet (quiet_finish scope o.cleanupTimeout)
    exact unconnected (unlocks script [] w requests)
  · rintro ⟨r, w', ended⟩
    obtain ⟨x, v, worked, -⟩ := finished r w' ended
    exact ⟨x, v, worked⟩
  · rintro ⟨x, v, worked⟩
    obtain ⟨r, w', followed, -⟩ := (lasts x script [] v).unguarded
    exact ⟨r, w', by rw [split]; exact Task.bind_done.mpr ⟨x, v, worked, followed⟩⟩
  · obtain ⟨turns, taken, course, -⟩ := run_turns rooted ended
    obtain ⟨x, v, worked, followed⟩ := finished r w' ended
    obtain ⟨_, _, followed', now⟩ := (lasts x script [] v).unguarded
    obtain ⟨rfl, rfl⟩ := Step.done.inj (followed.symm.trans followed')
    refine ⟨x, v, turns, worked, taken, course, now, fun unconnected => ?_⟩
    cases r with
    | error f => exact ⟨f, rfl⟩
    | ok _ =>
      have connects := work_connects worked (finish_ok followed)
      exact absurd (connects.mono (.refl w) (Task.precedes_of_done followed)) unconnected

/-- The run is cancelled while it waits for the endpoints of the worker. -/
theorem cancellation_counts_while_awaiting_worker :
    ∃ r w', (run .unbounded Worker.provisioner restorationOptions [restoration]).run
        Worker.stranded [] .initial = .done r w' ∧
      Scope.unbounded.isCancelled w'.clock = true ∧
      ¬ World.initial.Requests w' ∧ ∃ f, r = .error f := by
  have rooted : Worker.stranded.root < (World.initial : World (Cloud .silent)).clock.fresh :=
    Nat.zero_lt_one
  obtain ⟨quiet, -, ends, -⟩ := @cancellation_counts_until_connected _ .unbounded
    restorationOptions [restoration] _ _ rooted
  have course : ∃ r w', (run .unbounded Worker.provisioner restorationOptions [restoration]).run
      Worker.stranded [] .initial = .done r w' ∧
      Scope.unbounded.isCancelled w'.clock = true ∧
      w'.log.all (fun e => !e.call.isConnect) = true := ⟨_, _, rfl, rfl, rfl⟩
  obtain ⟨r, w', ended, cancelled, unconnected⟩ := course
  have none : ¬ Scope.unbounded.Connects World.initial w' := fun connects => by
    obtain ⟨e, mem, connect⟩ := connects.logged
    have other := List.all_eq_true.mp unconnected e mem
    simp [connect] at other
  obtain ⟨_, _, _, -, -, -, -, fails⟩ := ends r w' ended
  rw [ended] at quiet
  exact ⟨r, w', ended, cancelled, quiet none, fails none⟩

/-- Downloads the data of a bucket. -/
def download (name : String) : NamedAction Recipe where
  name := name
  action := .objectStorage ⟨.download, "dr", "", "s3://" ++ name, "keys", none, none⟩

/-- Grants every call at once except that a request comes to the given outcome. -/
def laborious (outcome : Outcome Unit) : Script (Cloud .silent) where
  root := 0
  answer
    | _, .request _ => outcome
    | _, c => .immediate (.ok (Cloud.grant c))

/-- The scope of the run is cancelled at this instant. -/
def cancelledAt (instant : Nat) : World (Cloud .silent) :=
  ⟨Scope.unbounded.cancelAfter instant (Scope.background .start).2, []⟩

/-- The second download is begun after the cancellation, and the run succeeds. If the first one
hangs then so does the run, and the client is not even closed. -/
theorem cancellation_passes_over_requests :
    (∃ w', (run .unbounded Worker.provisioner restorationOptions
          [download "first", download "second"]).run (laborious ⟨false, false, 5, .ok ()⟩) []
          (cancelledAt 3) = .done (.ok ()) w' ∧
        Scope.unbounded.isCancelled w'.clock = true ∧
        (w'.log.filter fun e => e.call.isRequest).map Entry.instant = [0, 5]) ∧
      ∃ w', (run .unbounded Worker.provisioner restorationOptions
          [download "first", download "second"]).run (laborious ⟨false, true, 0, .ok ()⟩) []
          (cancelledAt 3) = .endless w' ∧
        w'.log.getLast?.map (fun e => (e.instant, e.call.isRequest)) = some (0, true) :=
  ⟨⟨_, rfl, rfl, rfl⟩, _, rfl, rfl⟩

end Stage

end Recovery
