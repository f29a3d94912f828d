import Mathlib.Algebra.BigOperators.Group.List.Basic
import Recovery.Proofs.Recipe.Account
import Recovery.Proofs.Worker.Account
/-!
# What stages owe

Each phase keeps the account of the actions it has come to: what an action has recorded is owed for
until its cleanup, what a worker has recorded until it is taken down.
-/
set_option autoImplicit false

namespace Recovery

variable {Other : Interface}

/-- The client of the worker has been closed since `base` was on record. -/
def World.Closed (base : List (Mark (Cloud Other))) (w : World (Cloud Other)) : Prop :=
  ∃ ms, w.marks = base ++ ms ∧
    ∃ instant, (.ended instant .closeClient (.ok ()) : Mark (Cloud Other)) ∈ ms

theorem World.Closed.later {base : List (Mark (Cloud Other))} {w w' : World (Cloud Other)}
    (h : w.Closed base) (later : w.marks <+: w'.marks) : w'.Closed base := by
  obtain ⟨ms, marks, instant, shut⟩ := h
  obtain ⟨more, grown⟩ := later
  exact ⟨ms ++ more, by rw [← grown, marks, List.append_assoc], instant,
    List.mem_append_left _ shut⟩

namespace Stage

section TakeDown

variable {script : Script (Cloud Other)} {base : List (Mark (Cloud Other))}
  {owed : Multiset ObjectKey} {told : List Fault} {guards : List Guard}
  {w w' : World (Cloud Other)} {worker : Worker}

theorem covers_foldWorker {α : Type} (result : Except Fault Unit) (cleaned : Except Fault α) :
    Fault.Covers (Fault.told result ++ Fault.told (blame .cleanup workerAction cleaned))
      (Fault.told (foldWorker result cleaned)) := by
  cases cleaned with
  | ok _ => exact .of_subset (by simp [foldWorker, blame, Except.mapError])
  | error fault => exact Fault.covers_foldInto result _

theorem covers_blame {α : Type} (p : Phase) (name : String) (result : Except Fault α) :
    Fault.Covers (Fault.told result) (Fault.told (blame p name result)) :=
  Fault.covers_mapError (Fault.Covers.phase p name) result

/-- The cleanup that closes the client. -/
abbrev closing (timeout : Nat) (worker : Worker) : Cleanup (Cloud Other) Worker :=
  ((Cleanup.of (Worker.provisioner.close worker)).withContext "close worker client").withTimeout
    timeout

/-- The cleanup that deletes the worker. -/
abbrev deletion (timeout : Nat) (worker : Worker) : Cleanup (Cloud Other) Unit :=
  ((Cleanup.ofScope (Worker.provisioner.delete worker)).withContext "delete worker").withTimeout
    timeout

theorem settles_closing (timeout : Nat) (worker : Worker) :
    (closing timeout worker : Cleanup (Cloud Other) Worker).Settles 0 :=
  Cleanup.settles_of_undoes (Worker.undoes_close worker _ (fun _ => rfl)
    (fun f => Fault.shows_context _ f)) rfl rfl

theorem closing_ok {scope : Scope} {timeout : Nat} {worker' : Worker}
    (a : Account script base owed told w)
    (h : ((closing timeout worker).run scope).run script guards w = .done (.ok worker') w') :
    worker'.due = worker.due ∧ (worker.connected = true → w'.Closed base) := by
  obtain ⟨s, v, adds, sheltered, -, ran⟩ := Cleanup.ran_of_timeout a.rooted rfl rfl h
  generalize same : (.ok worker' : Except Fault Worker) = r at ran
  cases ran with
  | through r inside =>
    obtain ⟨r', middle, closed, rfl⟩ := Worker.close_done inside
    cases r' with
    | error _ => cases same
    | ok _ =>
      cases same
      obtain ⟨rfl, call⟩ := Worker.closeClient_done closed
      refine ⟨rfl, fun connected => ?_⟩
      rw [if_pos connected] at call
      have adds' := Task.call_done call
      obtain ⟨ms, marks, -⟩ := a.books
      refine ⟨_, by rw [adds'.marks, adds.marks, marks, List.append_assoc, List.append_assoc],
        w'.clock.now, ?_⟩
      exact List.mem_append_right _ (.tail _ (.head _))
  | cut why what inside => cases same

/-- Deleting the worker settles what it owes unless it was cut short while closing a client. -/
theorem account_deletion {scope : Scope} {timeout : Nat} {r : Except Fault Unit}
    (a : Account script base (worker.due + owed) told w)
    (h : ((deletion timeout worker).run scope).run script guards w = .done r w') :
    ∃ leaked, Account script base (leaked + owed) (told ++ Fault.told r) w' ∧
      (script.ClosesWithin timeout base w'.marks → leaked = 0) ∧ (r = .ok () → leaked = 0) := by
  obtain ⟨s, v, adds, sheltered, deadline, ran⟩ := Cleanup.ran_of_timeout a.rooted rfl rfl h
  have a : Account script base (worker.due + owed) told v :=
    a.adds adds fun ms books => by rwa [List.append_nil]
  cases ran with
  | through r inside =>
    obtain ⟨worker', ran⟩ := Recorded.evalFrom_done.mp inside
    refine ⟨0, ?_, fun _ => rfl, fun _ => rfl⟩
    rw [zero_add]
    exact (Worker.account_delete sheltered a ran).retell ((Fault.Covers.refl told).append
      (Fault.covers_mapError (Cleanup.covers_report fun f => .refl [f]) r))
  | cut why what inside =>
    obtain ⟨adds', -, outlasts⟩ :=
      Worker.delete_cut sheltered deadline (Recorded.evalFrom_interrupted.mp inside)
    refine ⟨worker.due, ?_, fun within => absurd ?_ outlasts, fun same => by cases same⟩
    · exact a.adds adds' fun ms books =>
        books.close_cut (.of_subset (List.subset_append_left ..)) _
    · obtain ⟨ms, marks, -⟩ := a.books
      exact within v.marks v.clock.now ⟨ms, marks.symm⟩
        ⟨[], by rw [adds'.marks, List.append_nil]⟩

theorem foldWorker_ok {α : Type} {result : Except Fault Unit} {cleaned : Except Fault α}
    (h : foldWorker result cleaned = .ok ()) : result = .ok () ∧ ∃ a, cleaned = .ok a := by
  cases cleaned with
  | ok a => exact ⟨h, a, rfl⟩
  | error fault => cases result <;> cases h

/-- What taking down a worker leaves owed, if anything. -/
theorem account_takeDown {scope : Scope} {timeout : Nat} {result r : Except Fault Unit}
    (a : Account script base (worker.due + owed) (told ++ Fault.told result) w)
    (h : takeDown scope Worker.provisioner timeout worker result script guards w = .done r w') :
    ∃ leaked, Account script base (leaked + owed) (told ++ Fault.told r) w' ∧
      (script.ClosesWithin timeout base w'.marks → leaked = 0) ∧
      (r = .ok () → leaked = 0 ∧ (worker.connected = true → w'.Closed base)) := by
  obtain ⟨closed, v, closes, h⟩ := Task.bind_done.mp h
  obtain ⟨deleted, v', deletes, h⟩ := Task.bind_done.mp h
  obtain ⟨rfl, rfl⟩ := Task.pure_done.mp h
  have due : (closed.toOption.getD worker).due = worker.due := by
    cases closed with
    | ok worker' => exact (closing_ok a closes).1
    | error _ => rfl
  have opened : Account script base (0 + (worker.due + owed)) (told ++ Fault.told result) w := by
    rwa [zero_add]
  have shut := (settles_closing timeout worker).account opened closes
  rw [← due] at shut
  obtain ⟨leaked, a', within, none⟩ := account_deletion shut deletes
  refine ⟨leaked, a'.retell ?_, within, fun ok => ?_⟩
  · have first : Fault.Covers (Fault.told result ++ Fault.told closed)
        (Fault.told (foldWorker result closed)) :=
      ((Fault.Covers.refl _).append (covers_blame _ _ closed)).trans
        (covers_foldWorker result closed)
    have second := (first.append (covers_blame .cleanup workerAction deleted)).trans
      (covers_foldWorker (foldWorker result closed) deleted)
    simpa only [List.append_assoc] using (Fault.Covers.refl told).append second
  · obtain ⟨folded, _, rfl⟩ := foldWorker_ok ok
    obtain ⟨-, worker', rfl⟩ := foldWorker_ok folded
    exact ⟨none rfl, fun connected =>
      ((closing_ok a closes).2 connected).later (Task.precedes_of_done deletes).marks⟩

end TakeDown

/-! ## The phases -/

/-- What the actions owe. -/
def due (actions : List (NamedAction Recipe)) : Multiset ObjectKey :=
  (actions.map fun a => a.action.due).sum

section Due

variable (a : NamedAction Recipe) (actions more : List (NamedAction Recipe))

@[simp] theorem due_nil : due [] = 0 := rfl

@[simp] theorem due_cons : due (a :: actions) = a.action.due + due actions := by simp [due]

theorem due_append : due (actions ++ more) = due actions + due more := by simp [due]

theorem due_reverse : due actions.reverse = due actions := by
  induction actions with
  | nil => rfl
  | cons a actions ih => rw [List.reverse_cons, due_append, ih, due_cons, due_cons, due_nil,
      add_zero, add_comm]

variable {actions}

theorem due_of_isNew (new : ∀ a ∈ actions, a.action.IsNew) : due actions = 0 := by
  induction actions with
  | nil => rfl
  | cons a actions ih =>
    obtain ⟨first, rest⟩ := List.forall_mem_cons.mp new
    rw [due_cons, Recipe.due_of_isNew first, ih rest, add_zero]

end Due

section Phases

variable {script : Script (Cloud Other)} {base : List (Mark (Cloud Other))}
  {owed : Multiset ObjectKey} {told : List Fault} {guards : List Guard} {scope : Scope}
  {actions actions' : List (NamedAction Recipe)} {w w' : World (Cloud Other)}

theorem asks_validateAll (scope : Scope) (actions : List (NamedAction Recipe)) :
    Cloud.Asks (validateAll scope actions : Saga (Cloud Other) Unit).run := by
  induction actions with
  | nil => exact .pure _
  | cons a actions ih =>
    exact Saga.only_bind ((Recipe.asks_validate a.action scope).map _) fun _ => ih

theorem account_setupAll {worker : WorkerOptions} {result : Except Fault WorkerOptions}
    (new : ∀ a ∈ actions, a.action.IsNew) (a : Account script base owed told w)
    (h : setupAll scope actions worker script guards w = .done (result, actions') w') :
    Account script base (due actions' + owed) (told ++ Fault.told result) w' := by
  induction actions generalizing w w' worker result actions' owed with
  | nil =>
    obtain ⟨same, rfl⟩ := Task.pure_done.mp h
    cases same
    simpa using a
  | cons first rest ih =>
    obtain ⟨new, newRest⟩ := List.forall_mem_cons.mp new
    obtain ⟨⟨result', action, worker'⟩, v, ran, h⟩ := Task.bind_done.mp h
    have opened : Account script base (0 + owed) told w := by rwa [zero_add]
    have a := (Recipe.carries_setup scope first.action worker new).account opened ran
    cases result' with
    | error fault =>
      obtain ⟨same, rfl⟩ := Task.pure_done.mp h
      cases same
      rw [due_cons, due_of_isNew newRest, add_zero]
      exact a.retell ((Fault.Covers.refl told).append (covers_blame .setup first.name _))
    | ok _ =>
      obtain ⟨⟨result'', rest'⟩, v', later, h⟩ := Task.bind_done.mp h
      obtain ⟨same, rfl⟩ := Task.pure_done.mp h
      cases same
      rw [Fault.told_ok, List.append_nil] at a
      have a := ih newRest a later
      rwa [due_cons, add_assoc, add_left_comm]

theorem account_executeAll {result : Except Fault Unit}
    (a : Account script base (due actions + owed) told w)
    (h : executeAll scope Cloud.client actions script guards w = .done (result, actions') w') :
    Account script base (due actions' + owed) (told ++ Fault.told result) w' := by
  induction actions generalizing w w' result actions' owed with
  | nil =>
    obtain ⟨same, rfl⟩ := Task.pure_done.mp h
    cases same
    simpa using a
  | cons first rest ih =>
    obtain ⟨⟨result', action⟩, v, ran, h⟩ := Task.bind_done.mp h
    rw [due_cons, add_assoc] at a
    have a := (Recipe.carries_execute scope first.action).account a ran
    cases result' with
    | error fault =>
      obtain ⟨same, rfl⟩ := Task.pure_done.mp h
      cases same
      rw [due_cons, add_assoc]
      exact a.retell ((Fault.Covers.refl told).append (covers_blame .execute first.name _))
    | ok _ =>
      obtain ⟨⟨result'', rest'⟩, v', later, h⟩ := Task.bind_done.mp h
      obtain ⟨same, rfl⟩ := Task.pure_done.mp h
      cases same
      rw [Fault.told_ok, List.append_nil, add_left_comm] at a
      have a := ih a later
      rwa [due_cons, add_assoc, add_left_comm]

theorem account_executeOn {client : Option (WorkerClient (Cloud Other))}
    {result : Except Fault Unit} (known : ∀ c, client = some c → c = Cloud.client)
    (a : Account script base (due actions + owed) told w)
    (h : executeOn scope client actions script guards w = .done (result, actions') w') :
    Account script base (due actions' + owed) (told ++ Fault.told result) w' := by
  cases client with
  | none =>
    obtain ⟨same, rfl⟩ := Task.pure_done.mp h
    cases same
    exact a.tell _
  | some c =>
    obtain rfl := known c rfl
    exact account_executeAll a h

/-- What the execution of the actions leaves owed besides the actions, if anything. -/
theorem account_execute {timeout : Nat} {options : WorkerOptions} {result : Except Fault Unit}
    (a : Account script base (due actions + owed) told w)
    (h : execute scope Worker.provisioner timeout options actions script guards w =
      .done (result, actions') w') :
    ∃ leaked, Account script base (leaked + (due actions' + owed)) (told ++ Fault.told result) w' ∧
      (script.ClosesWithin timeout base w'.marks → leaked = 0) ∧
      (result = .ok () → leaked = 0 ∧ w'.Closed base) := by
  obtain ⟨provisioned, v, made, h⟩ := Task.bind_done.mp h
  have a := (Worker.owes_create scope options).account a made
  cases provisioned with
  | error fault =>
    obtain ⟨same, rfl⟩ := Task.pure_done.mp h
    cases same
    refine ⟨0, a.retell ((Fault.Covers.refl told).append ?_), fun _ => rfl,
      fun same => by cases same⟩
    exact covers_blame .execute workerAction (.error fault : Except Fault Worker)
  | ok worker =>
    obtain ⟨⟨result', actions''⟩, v', executed, h⟩ := Task.bind_done.mp h
    obtain ⟨result'', v'', down, h⟩ := Task.bind_done.mp h
    obtain ⟨same, rfl⟩ := Task.pure_done.mp h
    cases same
    have connected := Worker.create_connected made
    have known (c : WorkerClient (Cloud Other)) (h : Worker.provisioner.client worker = some c) :
        c = Cloud.client := by
      simpa [Worker.provisioner, connected] using h.symm
    rw [Fault.told_ok, List.append_nil, Saga.dueFor, add_left_comm] at a
    have a := account_executeOn known a executed
    rw [add_left_comm] at a
    obtain ⟨leaked, a, within, ok⟩ := account_takeDown a down
    exact ⟨leaked, a, within, fun same => ⟨(ok same).1, (ok same).2 connected⟩⟩

theorem account_phases {o : StageOptions} {result : Except Fault Unit}
    (new : ∀ a ∈ actions, a.action.IsNew) (a : Account script base owed told w)
    (h : phases scope Worker.provisioner o actions script guards w = .done (result, actions') w') :
    ∃ leaked, Account script base (leaked + (due actions' + owed)) (told ++ Fault.told result) w' ∧
      (script.ClosesWithin o.cleanupTimeout base w'.marks → leaked = 0) ∧
      (result = .ok () → leaked = 0 ∧ w'.Closed base) := by
  obtain ⟨validated, v, ran, h⟩ := Task.bind_done.mp h
  have a := a.neutral (asks_validateAll scope actions).neutral ran
  cases validated with
  | error fault =>
    obtain ⟨same, rfl⟩ := Task.pure_done.mp h
    cases same
    refine ⟨0, ?_, fun _ => rfl, fun same => by cases same⟩
    rw [due_of_isNew new, zero_add, zero_add]
    exact a.tell _
  | ok _ =>
    obtain ⟨⟨setup, middle⟩, v', ran, h⟩ := Task.bind_done.mp h
    have a := account_setupAll new a ran
    cases setup with
    | error fault =>
      obtain ⟨same, rfl⟩ := Task.pure_done.mp h
      cases same
      refine ⟨0, ?_, fun _ => rfl, fun same => by cases same⟩
      rwa [zero_add]
    | ok options =>
      rw [Fault.told_ok, List.append_nil] at a
      exact account_execute a h

end Phases

/-! ## The cleanups -/

section Cleanups

variable {script : Script (Cloud Other)} {base : List (Mark (Cloud Other))}
  {owed : Multiset ObjectKey} {told : List Fault} {guards : List Guard} {scope : Scope}
  {w w' : World (Cloud Other)}

theorem settles_cleanupOf (timeout : Nat) (a : NamedAction Recipe) :
    (cleanupOf timeout a : Cleanup (Cloud Other) Unit).Settles a.action.due :=
  Cleanup.settles_of_undoes (Recipe.undoes_cleanup
    (Cleanup.covers_report fun f => Fault.Covers.phase .cleanup a.name f) a.action) rfl rfl

theorem account_unwind {timeout : Nat} {actions : List (NamedAction Recipe)}
    {result r : Except Fault Unit}
    (a : Account script base (due actions + owed) (told ++ Fault.told result) w)
    (h : Cleanup.unwind scope result (actions.map (cleanupOf timeout)) script guards w =
      .done r w') :
    Account script base owed (told ++ Fault.told r) w' := by
  induction actions generalizing w w' result owed with
  | nil =>
    obtain ⟨rfl, rfl⟩ := Task.pure_done.mp h
    simpa using a
  | cons first rest ih =>
    obtain ⟨result', v, folded, h⟩ := Task.bind_done.mp h
    rw [due_cons, add_assoc] at a
    exact ih ((settles_cleanupOf timeout first).foldInto a folded) h

theorem due_filter (actions : List (NamedAction Recipe)) :
    due (actions.filter fun a => Action.hasCleanup (Cloud Other) a.action) = due actions := by
  induction actions with
  | nil => rfl
  | cons a actions ih =>
    rw [List.filter_cons]
    split
    · rw [due_cons, due_cons, ih]
    · rename_i none
      rw [due_cons, ih, Recipe.due_of_not_hasCleanup (by simpa using none), zero_add]

theorem covers_unwind {I : Interface} {script : Script I} {guards : List Guard} {scope : Scope}
    {stack : List (Cleanup I Unit)} {result r : Except Fault Unit} {w w' : World I}
    (h : Cleanup.unwind scope result stack script guards w = .done r w') :
    Fault.Covers (Fault.told result) (Fault.told r) := by
  induction stack generalizing w w' result with
  | nil =>
    obtain ⟨rfl, rfl⟩ := Task.pure_done.mp h
    exact .refl _
  | cons c stack ih =>
    obtain ⟨result', v, folded, h⟩ := Task.bind_done.mp h
    obtain ⟨cleaned, -, rfl⟩ := Cleanup.foldInto_done.mp folded
    refine Fault.Covers.trans ?_ (ih h)
    cases cleaned with
    | ok _ => exact .refl _
    | error fault =>
      exact (Fault.Covers.of_subset (List.subset_append_left ..)).trans
        (Fault.covers_foldInto result fault)

end Cleanups

/-! ## Whole runs -/

section Run

variable {script : Script (Cloud Other)} {guards : List Guard} {scope : Scope} {o : StageOptions}
  {actions : List (NamedAction Recipe)} {r : Except Fault Unit} {w w' : World (Cloud Other)}

/-- What a run leaves owed: nothing if it succeeds or if its clients close in time. -/
theorem account_run (rooted : script.root < w.clock.fresh) (new : ∀ a ∈ actions, a.action.IsNew)
    (ended : (run scope Worker.provisioner o actions).run script guards w = .done r w') :
    ∃ leaked, Account script w.marks leaked (Fault.told r) w' ∧
      (script.ClosesWithin o.cleanupTimeout w.marks w'.marks → leaked = 0) ∧
      (r = .ok () → leaked = 0 ∧ w'.Closed w.marks) := by
  obtain ⟨⟨result, actions'⟩, v, ran, unwound⟩ := Task.bind_done.mp ended
  have a : Account script w.marks 0 [] w :=
    ⟨rooted, [], (List.append_nil _).symm, Ledger.Books.nil⟩
  obtain ⟨leaked, a, within, ok⟩ := account_phases new a ran
  have later := (Task.precedes_of_done unwound).marks
  rw [add_zero, add_comm] at a
  have a : Account script w.marks (due (actions'.filter fun a =>
      Action.hasCleanup (Cloud Other) a.action).reverse + leaked) ([] ++ Fault.told result) v := by
    rwa [due_reverse, due_filter]
  have unwound' : Cleanup.unwind scope result ((actions'.filter fun a =>
      Action.hasCleanup (Cloud Other) a.action).reverse.map (cleanupOf o.cleanupTimeout))
      script guards v = .done r w' := by
    rwa [List.map_reverse]
  refine ⟨leaked, account_unwind a unwound', fun h => within (h.earlier later), fun same => ?_⟩
  subst same
  obtain ⟨_, rfl⟩ := Fault.told_eq_nil.mp (covers_unwind unwound).eq_nil
  exact ⟨(ok rfl).1, (ok rfl).2.later later⟩

end Run

end Stage

end Recovery
