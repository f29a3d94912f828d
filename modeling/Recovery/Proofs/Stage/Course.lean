import Recovery.Proofs.Stage.Turn
/-!
# The course of a stage

Which turns a run of a stage takes: the phases up to the first failure, the worker taken down
whenever there is one, and a cleanup for every action that has one, whatever has failed before. The
result tells of the turns that failed.
-/
set_option autoImplicit false

namespace Recovery

namespace Stage

variable {I : Interface} {A H : Type}

/-- Actions take their turns one after another, up to the first that fails. `takes` says of one turn
how the action and what the actions share go through it. -/
inductive InTurn {σ : Type}
    (takes : σ → NamedAction A → Except Fault Unit → Turn I A H → NamedAction A → σ → Prop) :
    σ → List (NamedAction A) → List (Turn I A H) → (all : Bool) → List (NamedAction A) → σ →
      Prop where
  | nil (s : σ) : InTurn takes s [] [] true [] s
  | failed {s s' : σ} {a a' : NamedAction A} {t : Turn I A H} {fault : Fault}
    (rest : List (NamedAction A)) : takes s a (.error fault) t a' s' →
    InTurn takes s (a :: rest) [t] false (a' :: rest) s'
  | cons {s s' s'' : σ} {a a' : NamedAction A} {t : Turn I A H} {all : Bool}
    {rest rest' : List (NamedAction A)} {turns : List (Turn I A H)} :
    takes s a (.ok ()) t a' s' → InTurn takes s' rest turns all rest' s'' →
    InTurn takes s (a :: rest) (t :: turns) all (a' :: rest') s''

inductive Validates : Unit → NamedAction A → Except Fault Unit → Turn I A H → NamedAction A →
    Unit → Prop where
  | turn (a : NamedAction A) (r : Except Fault Unit) : Validates () a r (.validate a r) a ()

inductive SetsUp : WorkerOptions → NamedAction A → Except Fault Unit → Turn I A H →
    NamedAction A → WorkerOptions → Prop where
  | turn (a : NamedAction A) (worker : WorkerOptions) (r : Except Fault Unit) (action : A)
    (worker' : WorkerOptions) :
    SetsUp worker a r (.setup a worker r action worker') { a with action } worker'

inductive Executes (client : WorkerClient I) : Unit → NamedAction A → Except Fault Unit →
    Turn I A H → NamedAction A → Unit → Prop where
  | turn (a : NamedAction A) (r : Except Fault Unit) (action : A) :
    Executes client () a r (.execute a client r action) { a with action } ()

/-- Without a client nothing is executed. -/
inductive ExecutesOn : Option (WorkerClient I) → List (NamedAction A) → List (Turn I A H) →
    List (NamedAction A) → Prop where
  | absent (actions : List (NamedAction A)) : ExecutesOn none actions [] actions
  | present {client : WorkerClient I} {actions actions' : List (NamedAction A)}
    {turns : List (Turn I A H)} {all : Bool} :
    InTurn (Executes client) () actions turns all actions' () →
    ExecutesOn (some client) actions turns actions'

/-- One worker is provisioned; if there is one, it is taken down after the actions have been
executed on it. -/
inductive Employs (provisioner : Provisioner I H) (worker : WorkerOptions)
    (actions : List (NamedAction A)) : List (Turn I A H) → List (NamedAction A) → Prop where
  | unprovisioned (fault : Fault) :
    Employs provisioner worker actions [.provision worker (.error fault)] actions
  | provisioned {handle : H} {executions : List (Turn I A H)} {actions' : List (NamedAction A)}
    (closed : Except Fault H) (deleted : Except Fault Unit) :
    ExecutesOn (provisioner.client handle) actions executions actions' →
    Employs provisioner worker actions
      (.provision worker (.ok handle) :: executions ++
        [.close handle closed, .delete (closed.toOption.getD handle) deleted]) actions'

/-- The phases up to the first failure. -/
inductive Phased (provisioner : Provisioner I H) (seed : WorkerOptions)
    (actions : List (NamedAction A)) : List (Turn I A H) → List (NamedAction A) → Prop where
  | invalid {turns : List (Turn I A H)} : InTurn Validates () actions turns false actions () →
    Phased provisioner seed actions turns actions
  | unset {validations setups : List (Turn I A H)} {actions' : List (NamedAction A)}
    {worker : WorkerOptions} : InTurn Validates () actions validations true actions () →
    InTurn SetsUp seed actions setups false actions' worker →
    Phased provisioner seed actions (validations ++ setups) actions'
  | employed {validations setups turns : List (Turn I A H)}
    {actions' actions'' : List (NamedAction A)} {worker : WorkerOptions} :
    InTurn Validates () actions validations true actions () →
    InTurn SetsUp seed actions setups true actions' worker →
    Employs provisioner worker actions' turns actions'' →
    Phased provisioner seed actions (validations ++ setups ++ turns) actions''

/-- All of these actions clean up, in this order. -/
inductive CleansUp : List (NamedAction A) → List (Turn I A H) → Prop where
  | nil : CleansUp [] []
  | cons (a : NamedAction A) (r : Except Fault Unit) {rest : List (NamedAction A)}
    {turns : List (Turn I A H)} : CleansUp rest turns →
    CleansUp (a :: rest) (.cleanup a r :: turns)

/-- After the phases, every action that has something to clean up does so, the last one first. -/
inductive Course [Action I A] (provisioner : Provisioner I H) (seed : WorkerOptions)
    (actions : List (NamedAction A)) : List (Turn I A H) → Prop where
  | mk {phases cleanups : List (Turn I A H)} {actions' : List (NamedAction A)} :
    Phased provisioner seed actions phases actions' →
    CleansUp (actions'.filter fun a => Action.hasCleanup I a.action).reverse cleanups →
    Course provisioner seed actions (phases ++ cleanups)

theorem toOption_mapError {α : Type} (change : Fault → Fault) (result : Except Fault α) :
    (result.mapError change).toOption = result.toOption := by
  cases result <;> rfl

/-! ## Turn by turn -/

section Phases

variable [Action I A] {scope : Scope} {provisioner : Provisioner I H} {timeout : Nat}
  {actions actions' : List (NamedAction A)} {script : Script I} {guards : List Guard}
  {w w' : World I}

theorem validateAll_turns (provisioner : Provisioner I H) (timeout : Nat) {r : Except Fault Unit}
    (h : (validateAll scope actions).run script guards w = .done r w') :
    ∃ turns, Turns scope provisioner timeout script guards w turns w' ∧
      InTurn Validates () actions turns r.isOk actions () ∧ Reports provisioner r turns := by
  induction actions generalizing w with
  | nil =>
    obtain ⟨rfl, rfl⟩ := Task.pure_done.mp h
    exact ⟨[], .nil w, .nil (), .ok ()⟩
  | cons a rest ih =>
    rcases Saga.bind_done.mp h with ⟨_, v, one, h⟩ | ⟨fault, one, rfl⟩
    · obtain ⟨result, ran, blamed⟩ := Task.map_done.mp one
      cases result with
      | error _ => cases blamed
      | ok _ =>
        obtain ⟨turns, taken, inTurn, reports⟩ := ih h
        exact ⟨.validate a (.ok ()) :: turns, .cons (.validate ran) taken, .cons (.turn a _) inTurn,
          reports.cons rfl⟩
    · obtain ⟨result, ran, blamed⟩ := Task.map_done.mp one
      cases result with
      | ok _ => cases blamed
      | error e =>
        cases blamed
        exact ⟨[.validate a (.error e)], .one (.validate ran), .failed rest (.turn a _),
          Reports.error (x := ⟨.validate, a.name, e⟩) rfl⟩

theorem setupAll_turns (provisioner : Provisioner I H) (timeout : Nat) {worker : WorkerOptions}
    {r : Except Fault WorkerOptions}
    (h : setupAll scope actions worker script guards w = .done (r, actions') w') :
    ∃ turns worker', Turns scope provisioner timeout script guards w turns w' ∧
      InTurn SetsUp worker actions turns r.isOk actions' worker' ∧ Reports provisioner r turns ∧
      ∀ set, r = .ok set → set = worker' := by
  induction actions generalizing w worker actions' with
  | nil =>
    obtain ⟨same, rfl⟩ := Task.pure_done.mp h
    cases same
    exact ⟨[], worker, .nil w, .nil worker, .ok _, fun _ same => (Except.ok.inj same).symm⟩
  | cons a rest ih =>
    obtain ⟨⟨result, action, worker'⟩, v, ran, h⟩ := Task.bind_done.mp h
    cases result with
    | error e =>
      obtain ⟨same, rfl⟩ := Task.pure_done.mp h
      cases same
      exact ⟨[.setup a worker (.error e) action worker'], worker', .one (.setup ran),
        .failed rest (.turn a ..), Reports.error (x := ⟨.setup, a.name, e⟩) rfl, nofun⟩
    | ok _ =>
      obtain ⟨⟨result', rest'⟩, v', more, h⟩ := Task.bind_done.mp h
      obtain ⟨same, rfl⟩ := Task.pure_done.mp h
      cases same
      obtain ⟨turns, set, taken, inTurn, reports, accumulated⟩ := ih more
      exact ⟨.setup a worker (.ok ()) action worker' :: turns, set, .cons (.setup ran) taken,
        .cons (.turn a ..) inTurn, reports.cons rfl, accumulated⟩

theorem executeAll_turns (provisioner : Provisioner I H) (timeout : Nat) {client : WorkerClient I}
    {r : Except Fault Unit}
    (h : executeAll scope client actions script guards w = .done (r, actions') w') :
    ∃ turns, Turns scope provisioner timeout script guards w turns w' ∧
      InTurn (Executes client) () actions turns r.isOk actions' () ∧
      Reports provisioner r turns := by
  induction actions generalizing w actions' with
  | nil =>
    obtain ⟨same, rfl⟩ := Task.pure_done.mp h
    cases same
    exact ⟨[], .nil w, .nil (), .ok ()⟩
  | cons a rest ih =>
    obtain ⟨⟨result, action⟩, v, ran, h⟩ := Task.bind_done.mp h
    cases result with
    | error e =>
      obtain ⟨same, rfl⟩ := Task.pure_done.mp h
      cases same
      exact ⟨[.execute a client (.error e) action], .one (.execute ran),
        .failed rest (.turn a ..), Reports.error (x := ⟨.execute, a.name, e⟩) rfl⟩
    | ok _ =>
      obtain ⟨⟨result', rest'⟩, v', more, h⟩ := Task.bind_done.mp h
      obtain ⟨same, rfl⟩ := Task.pure_done.mp h
      cases same
      obtain ⟨turns, taken, inTurn, reports⟩ := ih more
      exact ⟨.execute a client (.ok ()) action :: turns, .cons (.execute ran) taken,
        .cons (.turn a ..) inTurn, reports.cons rfl⟩

/-! ## The worker and the cleanups -/

theorem takeDown_turns {handle : H} {result r : Except Fault Unit}
    {turns : List (Turn I A H)} (rooted : script.root < w.clock.fresh)
    (reports : Reports provisioner result turns)
    (h : takeDown scope provisioner timeout handle result script guards w = .done r w') :
    ∃ closed deleted, Turns scope provisioner timeout script guards w
        ([.close handle closed, .delete (closed.toOption.getD handle) deleted] :
          List (Turn I A H)) w' ∧
      Reports provisioner r (turns ++
        [.close handle closed, .delete (closed.toOption.getD handle) deleted]) := by
  obtain ⟨closed, v, closes, h⟩ := Task.bind_done.mp h
  obtain ⟨deleted, v', deletes, h⟩ := Task.bind_done.mp h
  obtain ⟨rfl, rfl⟩ := Task.pure_done.mp h
  have rooted' : script.root < v.clock.fresh :=
    Nat.lt_of_lt_of_le rooted (Task.precedes_of_done closes).clock.fresh_le
  obtain ⟨closed, closing, rfl⟩ := Cleanup.detached_of_done rooted rfl rfl closes
  obtain ⟨deleted, deletion, rfl⟩ := Cleanup.detached_of_done rooted' rfl rfl deletes
  rw [toOption_mapError] at deletion
  refine ⟨closed, deleted, .cons (.close closing) (.one (.delete deletion)), ?_⟩
  have first : Reports provisioner
      (foldWorker result (closed.mapError (Fault.context "close worker client")))
      (turns ++ [.close handle closed]) :=
    reports.foldWorker (by rintro _ rfl; rfl) (by rintro _ rfl; rfl)
  have second : Reports provisioner
      (foldWorker _ (deleted.mapError (Fault.context "delete worker")))
      (turns ++ [.close handle closed] ++ [.delete (closed.toOption.getD handle) deleted]) :=
    first.foldWorker (by rintro _ rfl; rfl) (by rintro _ rfl; rfl)
  rwa [List.append_assoc] at second

theorem executeOn_turns (provisioner : Provisioner I H) (timeout : Nat) {handle : H}
    {worker : WorkerOptions} {r : Except Fault Unit}
    (h : executeOn scope (provisioner.client handle) actions script guards w =
      .done (r, actions') w') :
    ∃ turns, Turns scope provisioner timeout script guards w turns w' ∧
      ExecutesOn (provisioner.client handle) actions turns actions' ∧
      Reports provisioner r (.provision worker (.ok handle) :: turns) := by
  cases connected : provisioner.client handle with
  | none =>
    rw [connected] at h
    obtain ⟨same, rfl⟩ := Task.pure_done.mp h
    cases same
    refine ⟨[], .nil w, .absent actions, Reports.error (x := ⟨.execute, workerAction, _⟩) ?_⟩
    rw [Turn.failure?, connected]
    rfl
  | some client =>
    rw [connected] at h
    obtain ⟨turns, taken, inTurn, reports⟩ := executeAll_turns provisioner timeout h
    refine ⟨turns, taken, .present inTurn, reports.cons ?_⟩
    rw [Turn.failure?, connected]
    rfl

theorem unwind_turns (provisioner : Provisioner I H) {due : List (NamedAction A)}
    {result r : Except Fault Unit} {turns : List (Turn I A H)}
    (rooted : script.root < w.clock.fresh) (reports : Reports provisioner result turns)
    (h : Cleanup.unwind scope result (due.map (cleanupOf timeout)) script guards w =
      .done r w') :
    ∃ cleanups, Turns scope provisioner timeout script guards w cleanups w' ∧
      CleansUp due cleanups ∧ Reports provisioner r (turns ++ cleanups) := by
  induction due generalizing w result turns with
  | nil =>
    obtain ⟨rfl, rfl⟩ := Task.pure_done.mp h
    exact ⟨[], .nil w, .nil, by rwa [List.append_nil]⟩
  | cons a rest ih =>
    obtain ⟨folded, v, one, h⟩ := Task.bind_done.mp h
    have rooted' : script.root < v.clock.fresh :=
      Nat.lt_of_lt_of_le rooted (Task.precedes_of_done one).clock.fresh_le
    obtain ⟨cleaned, ran, rfl⟩ := Cleanup.foldInto_done.mp one
    obtain ⟨cleaned, detached, rfl⟩ := Cleanup.detached_of_done rooted rfl rfl ran
    have told : Reports provisioner
        (Cleanup.folded result (cleaned.mapError (cleanupOf timeout a : Cleanup I Unit).report))
        (turns ++ [.cleanup a cleaned]) := by
      cases cleaned with
      | ok _ => exact reports.pass rfl
      | error e => exact reports.fold (x := ⟨.cleanup, a.name, e⟩) rfl
    obtain ⟨cleanups, taken, cleans, reports⟩ := ih rooted' told h
    refine ⟨.cleanup a cleaned :: cleanups, .cons (.cleanup detached) taken, .cons a cleaned cleans,
      ?_⟩
    rwa [List.append_cons]

/-! ## The whole course -/

theorem execute_turns {worker : WorkerOptions} {r : Except Fault Unit}
    (rooted : script.root < w.clock.fresh)
    (h : execute scope provisioner timeout worker actions script guards w =
      .done (r, actions') w') :
    ∃ turns, Turns scope provisioner timeout script guards w turns w' ∧
      Employs provisioner worker actions turns actions' ∧ Reports provisioner r turns := by
  obtain ⟨provisioned, v, made, h⟩ := Task.bind_done.mp h
  have rooted_v : script.root < v.clock.fresh :=
    Nat.lt_of_lt_of_le rooted (Task.precedes_of_done made).clock.fresh_le
  cases provisioned with
  | error fault =>
    obtain ⟨same, rfl⟩ := Task.pure_done.mp h
    cases same
    exact ⟨_, .one (.provision made), .unprovisioned fault,
      Reports.error (x := ⟨.execute, workerAction, fault⟩) rfl⟩
  | ok handle =>
    obtain ⟨⟨executed, actions''⟩, u, ran, h⟩ := Task.bind_done.mp h
    obtain ⟨r', u', down, h⟩ := Task.bind_done.mp h
    obtain ⟨same, rfl⟩ := Task.pure_done.mp h
    cases same
    have rooted_u : script.root < u.clock.fresh :=
      Nat.lt_of_lt_of_le rooted_v (Task.precedes_of_done ran).clock.fresh_le
    obtain ⟨executions, taken, executes, reports⟩ := executeOn_turns provisioner timeout ran
    obtain ⟨closed, deleted, taken', reports'⟩ := takeDown_turns rooted_u reports down
    exact ⟨_, (Turns.cons (.provision made) taken).append taken',
      .provisioned closed deleted executes, reports'⟩

theorem phases_turns {o : StageOptions} {r : Except Fault Unit}
    (rooted : script.root < w.clock.fresh)
    (h : phases scope provisioner o actions script guards w = .done (r, actions') w') :
    ∃ turns, Turns scope provisioner o.cleanupTimeout script guards w turns w' ∧
      Phased provisioner o.seed actions turns actions' ∧ Reports provisioner r turns := by
  obtain ⟨validated, v, ran, h⟩ := Task.bind_done.mp h
  obtain ⟨validations, taken, valid, reports⟩ := validateAll_turns provisioner o.cleanupTimeout ran
  cases validated with
  | error fault =>
    obtain ⟨same, rfl⟩ := Task.pure_done.mp h
    cases same
    exact ⟨validations, taken, .invalid valid, reports⟩
  | ok _ =>
    have rooted_v : script.root < v.clock.fresh :=
      Nat.lt_of_lt_of_le rooted (Task.precedes_of_done ran).clock.fresh_le
    obtain ⟨⟨ready, middle⟩, u, ran', h⟩ := Task.bind_done.mp h
    obtain ⟨setups, worker, taken', set, reports', accumulated⟩ :=
      setupAll_turns provisioner o.cleanupTimeout ran'
    cases ready with
    | error fault =>
      obtain ⟨same, rfl⟩ := Task.pure_done.mp h
      cases same
      exact ⟨validations ++ setups, taken.append taken', .unset valid set,
        (reports'.after reports).of_error⟩
    | ok options =>
      obtain rfl := accumulated options rfl
      have rooted_u : script.root < u.clock.fresh :=
        Nat.lt_of_lt_of_le rooted_v (Task.precedes_of_done ran').clock.fresh_le
      obtain ⟨turns, taken'', employs, reports''⟩ := execute_turns rooted_u h
      exact ⟨_, (taken.append taken').append taken'', .employed valid set employs,
        reports''.after (reports'.after reports)⟩

/-- The turns of a whole run and what its result tells of them. -/
theorem run_turns {o : StageOptions} {r : Except Fault Unit} (rooted : script.root < w.clock.fresh)
    (h : (run scope provisioner o actions).run script guards w = .done r w') :
    ∃ turns, Turns scope provisioner o.cleanupTimeout script guards w turns w' ∧
      Course provisioner o.seed actions turns ∧ Reports provisioner r turns := by
  obtain ⟨⟨result, actions'⟩, v, ran, unwound⟩ := Task.bind_done.mp h
  have rooted_v : script.root < v.clock.fresh :=
    Nat.lt_of_lt_of_le rooted (Task.precedes_of_done ran).clock.fresh_le
  obtain ⟨turns, taken, phased, reports⟩ := phases_turns rooted ran
  have unwound : Cleanup.unwind scope result
      ((actions'.filter fun a => Action.hasCleanup I a.action).reverse.map
        (cleanupOf o.cleanupTimeout)) script guards v = .done r w' := by
    rw [List.map_reverse]
    exact unwound
  obtain ⟨cleanups, taken', cleans, reports'⟩ :=
    unwind_turns provisioner rooted_v reports unwound
  exact ⟨turns ++ cleanups, taken.append taken', .mk phased cleans, reports'⟩

end Phases

end Stage

end Recovery
