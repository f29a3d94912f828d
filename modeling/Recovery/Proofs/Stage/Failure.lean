import Recovery.Proofs.Stage.Account
/-!
# Failures of the phases

`Stage.Fails` says that a step of some phase has failed in a run of a stage, whatever the actions
and the provisioner are. The result of the run cites every such failure.
-/
set_option autoImplicit false

namespace Recovery

namespace Stage

variable {I : Interface} {A H : Type} [Action I A]

/-- In a run from `w` the validation, the setup or the execution of an action failed with `e`, or
the provisioning of the worker did. -/
inductive Fails (scope : Scope) (provisioner : Provisioner I H) (o : StageOptions)
    (actions : List (NamedAction A)) (script : Script I) (guards : List Guard) (w : World I)
    (e : Fault) : Prop where
  | validate {before after : List (NamedAction A)} {a : NamedAction A} {v v' : World I}
    (split : actions = before ++ a :: after)
    (reached : (validateAll scope before).run script guards w = .done (.ok ()) v)
    (failed : (Action.validate a.action scope).run script guards v = .done (.error e) v')
  | setup {before after before' : List (NamedAction A)} {a : NamedAction A}
    {worker : WorkerOptions} {record : A × WorkerOptions} {v v' v'' : World I}
    (split : actions = before ++ a :: after)
    (validated : (validateAll scope actions).run script guards w = .done (.ok ()) v)
    (reached : setupAll scope before o.seed script guards v = .done (.ok worker, before') v')
    (failed : (Action.setup scope).runFrom (a.action, worker) script guards v' =
      .done (.error e, record) v'')
  | provision {actions' : List (NamedAction A)} {worker : WorkerOptions} {v v' v'' : World I}
    (validated : (validateAll scope actions).run script guards w = .done (.ok ()) v)
    (ready : setupAll scope actions o.seed script guards v = .done (.ok worker, actions') v')
    (failed : (provisioner.provision scope worker).run script guards v' = .done (.error e) v'')
  | execute {actions' before after before' : List (NamedAction A)} {a : NamedAction A}
    {worker : WorkerOptions} {handle : H} {client : WorkerClient I} {record : A}
    {v v' v'' u u' : World I}
    (validated : (validateAll scope actions).run script guards w = .done (.ok ()) v)
    (ready : setupAll scope actions o.seed script guards v = .done (.ok worker, actions') v')
    (provisioned : (provisioner.provision scope worker).run script guards v' =
      .done (.ok handle) v'')
    (connected : provisioner.client handle = some client)
    (split : actions' = before ++ a :: after)
    (reached : executeAll scope client before script guards v'' = .done (.ok (), before') u)
    (failed : (Action.execute scope client).runFrom a.action script guards u =
      .done (.error e, record) u')

section Steps

variable {scope : Scope} {script : Script I} {guards : List Guard} {w v v' : World I} {e : Fault}
  {before before' after : List (NamedAction A)} {a : NamedAction A}

theorem validateAll_fails
    (reached : (validateAll scope before).run script guards w = .done (.ok ()) v)
    (failed : (Action.validate a.action scope).run script guards v = .done (.error e) v') :
    (validateAll scope (before ++ a :: after)).run script guards w =
      .done (.error (.phase .validate a.name e)) v' := by
  induction before generalizing w with
  | nil =>
    obtain ⟨-, rfl⟩ := Task.pure_done.mp reached
    exact Saga.bind_done.mpr (.inr ⟨_, Task.map_done.mpr ⟨_, failed, rfl⟩, rfl⟩)
  | cons first rest ih =>
    rcases Saga.bind_done.mp reached with ⟨_, u, one, reached⟩ | ⟨_, _, ⟨⟩⟩
    exact Saga.bind_done.mpr (.inl ⟨_, u, one, ih reached⟩)

theorem setupAll_fails {worker worker' : WorkerOptions} {record : A × WorkerOptions}
    (reached : setupAll scope before worker script guards w = .done (.ok worker', before') v)
    (failed : (Action.setup scope).runFrom (a.action, worker') script guards v =
      .done (.error e, record) v') :
    ∃ actions', setupAll scope (before ++ a :: after) worker script guards w =
      .done (.error (.phase .setup a.name e), actions') v' := by
  induction before generalizing w worker before' with
  | nil =>
    obtain ⟨same, rfl⟩ := Task.pure_done.mp reached
    cases same
    exact ⟨_, Task.bind_done.mpr ⟨_, v', failed, rfl⟩⟩
  | cons first rest ih =>
    obtain ⟨⟨result, action, middle⟩, u, one, reached⟩ := Task.bind_done.mp reached
    cases result with
    | error fault =>
      obtain ⟨same, -⟩ := Task.pure_done.mp reached
      cases same
    | ok _ =>
      obtain ⟨⟨result, rest'⟩, u', more, last⟩ := Task.bind_done.mp reached
      obtain ⟨same, rfl⟩ := Task.pure_done.mp last
      cases same
      obtain ⟨actions', all⟩ := ih more
      exact ⟨_, Task.bind_done.mpr ⟨_, u, one, Task.bind_done.mpr ⟨_, v', all, rfl⟩⟩⟩

theorem executeAll_fails {client : WorkerClient I} {record : A}
    (reached : executeAll scope client before script guards w = .done (.ok (), before') v)
    (failed : (Action.execute scope client).runFrom a.action script guards v =
      .done (.error e, record) v') :
    ∃ actions', executeAll scope client (before ++ a :: after) script guards w =
      .done (.error (.phase .execute a.name e), actions') v' := by
  induction before generalizing w before' with
  | nil =>
    obtain ⟨same, rfl⟩ := Task.pure_done.mp reached
    exact ⟨_, Task.bind_done.mpr ⟨_, v', failed, rfl⟩⟩
  | cons first rest ih =>
    obtain ⟨⟨result, action⟩, u, one, reached⟩ := Task.bind_done.mp reached
    cases result with
    | error fault =>
      obtain ⟨same, -⟩ := Task.pure_done.mp reached
      cases same
    | ok _ =>
      obtain ⟨⟨result, rest'⟩, u', more, last⟩ := Task.bind_done.mp reached
      obtain ⟨same, rfl⟩ := Task.pure_done.mp last
      cases same
      obtain ⟨actions', all⟩ := ih more
      exact ⟨_, Task.bind_done.mpr ⟨_, u, one, Task.bind_done.mpr ⟨_, v', all, rfl⟩⟩⟩

end Steps

section Run

variable {scope : Scope} {provisioner : Provisioner I H} {o : StageOptions}
  {actions actions' : List (NamedAction A)} {script : Script I} {guards : List Guard}
  {w w' : World I} {e : Fault} {r result : Except Fault Unit}

/-- Taking down a worker loses no failure. -/
theorem covers_takeDown {timeout : Nat} {worker : H}
    (h : takeDown scope provisioner timeout worker result script guards w = .done r w') :
    Fault.Covers (Fault.told result) (Fault.told r) := by
  obtain ⟨closed, v, -, h⟩ := Task.bind_done.mp h
  obtain ⟨deleted, v', -, h⟩ := Task.bind_done.mp h
  obtain ⟨rfl, rfl⟩ := Task.pure_done.mp h
  have folded {α : Type} (result : Except Fault Unit) (cleaned : Except Fault α) :
      Fault.Covers (Fault.told result) (Fault.told (foldWorker result cleaned)) :=
    (Fault.Covers.of_subset (List.subset_append_left ..)).trans (covers_foldWorker result cleaned)
  exact (folded result closed).trans (folded _ deleted)

/-- The failure that ends the phases is cited by their result. -/
theorem phases_cites (failed : Fails scope provisioner o actions script guards w e)
    (ended : phases scope provisioner o actions script guards w = .done (result, actions') w') :
    ∃ f ∈ Fault.told result, f.Cites e := by
  have cited (p : Phase) (name : String) {result : Except Fault Unit}
      (h : result = .error (.phase p name e)) : ∃ f ∈ Fault.told result, f.Cites e := by
    subst h
    exact ⟨_, List.mem_singleton_self _, Fault.cites_phase p name (.refl e)⟩
  obtain ⟨validated, v, validation, ended⟩ := Task.bind_done.mp ended
  cases failed with
  | validate split reached failed =>
    subst split
    obtain ⟨rfl, rfl⟩ := Step.done.inj (validation.symm.trans (validateAll_fails reached failed))
    obtain ⟨same, rfl⟩ := Task.pure_done.mp ended
    cases same
    exact cited _ _ rfl
  | setup split valid reached failed =>
    subst split
    obtain ⟨rfl, rfl⟩ := Step.done.inj (validation.symm.trans valid)
    obtain ⟨⟨setup, middle⟩, v', ran, ended⟩ := Task.bind_done.mp ended
    obtain ⟨_, all⟩ := setupAll_fails reached failed
    obtain ⟨same, rfl⟩ := Step.done.inj (ran.symm.trans all)
    cases same
    obtain ⟨same, rfl⟩ := Task.pure_done.mp ended
    cases same
    exact cited _ _ rfl
  | provision valid ready failed =>
    obtain ⟨rfl, rfl⟩ := Step.done.inj (validation.symm.trans valid)
    obtain ⟨⟨setup, middle⟩, v', ran, ended⟩ := Task.bind_done.mp ended
    obtain ⟨same, rfl⟩ := Step.done.inj (ran.symm.trans ready)
    cases same
    obtain ⟨provisioned, v'', made, ended⟩ := Task.bind_done.mp ended
    obtain ⟨rfl, rfl⟩ := Step.done.inj (made.symm.trans failed)
    obtain ⟨same, rfl⟩ := Task.pure_done.mp ended
    cases same
    exact cited _ _ rfl
  | execute valid ready made connected split reached failed =>
    obtain ⟨rfl, rfl⟩ := Step.done.inj (validation.symm.trans valid)
    obtain ⟨⟨setup, middle⟩, v', ran, ended⟩ := Task.bind_done.mp ended
    obtain ⟨same, rfl⟩ := Step.done.inj (ran.symm.trans ready)
    cases same
    obtain ⟨provisioned, v'', made', ended⟩ := Task.bind_done.mp ended
    obtain ⟨rfl, rfl⟩ := Step.done.inj (made'.symm.trans made)
    obtain ⟨⟨executed, middle⟩, u, on, ended⟩ := Task.bind_done.mp ended
    rw [connected, split] at on
    obtain ⟨_, all⟩ := executeAll_fails reached failed
    obtain ⟨same, rfl⟩ := Step.done.inj (on.symm.trans all)
    cases same
    obtain ⟨final, u', down, ended⟩ := Task.bind_done.mp ended
    obtain ⟨same, rfl⟩ := Task.pure_done.mp ended
    cases same
    obtain ⟨f, hf, cites⟩ := cited .execute _ rfl
    obtain ⟨f', hf', cites'⟩ := covers_takeDown down f hf
    exact ⟨f', hf', cites' e cites⟩

theorem run_cites (failed : Fails scope provisioner o actions script guards w e)
    (ended : (run scope provisioner o actions).run script guards w = .done r w') :
    ∃ f ∈ Fault.told r, f.Cites e := by
  obtain ⟨⟨result, actions'⟩, v, ran, unwound⟩ := Task.bind_done.mp ended
  obtain ⟨f, hf, cites⟩ := phases_cites failed ran
  obtain ⟨f', hf', cites'⟩ := covers_unwind unwound f hf
  exact ⟨f', hf', cites' e cites⟩

end Run

end Stage

end Recovery
