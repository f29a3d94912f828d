import Recovery.Timed.Cleanup
/-!
# Recorded sagas

A recorded saga keeps a record of what it has done so far. Unlike a result, the record outlives a
failure, so that what was made before the failure can be undone.
-/
set_option autoImplicit false

namespace Recovery

abbrev Recorded (σ : Type) (I : Interface) (α : Type) := ExceptT Fault (StateT σ (Task I)) α

namespace Recorded

variable {σ τ : Type} {I : Interface} {α : Type}

def runFrom (saga : Recorded σ I α) (record : σ) : Task I (Except Fault α × σ) :=
  saga.run.run record

def evalFrom (saga : Recorded σ I α) (record : σ) : Saga I α :=
  ExceptT.mk (Prod.fst <$> saga.runFrom record)

def ofSaga (saga : Saga I α) : Recorded σ I α :=
  ExceptT.mk fun record => do
    let result ← saga.run
    return (result, record)

instance : MonadLift (Saga I) (Recorded σ I) := ⟨ofSaga⟩

def ofTask (task : Task I α) : Recorded σ I α := ofSaga (Saga.ofTask task)

def ofResult (result : Except Fault α) : Recorded σ I α := ofSaga (Saga.ofResult result)

def fail (fault : Fault) : Recorded σ I α := ofResult (.error fault)

def zoom (get : τ → σ) (set : σ → τ → τ) (saga : Recorded σ I α) : Recorded τ I α :=
  ExceptT.mk fun record => do
    let (result, part) ← saga.runFrom (get record)
    return (result, set part record)

/-! How the parts of a recorded saga thread the record. -/

section RunFrom

variable {β : Type}

theorem runFrom_bind (saga : Recorded σ I α) (next : α → Recorded σ I β) (record : σ) :
    (saga >>= next).runFrom record = do
      let (result, record) ← saga.runFrom record
      match result with
      | .ok a => (next a).runFrom record
      | .error fault => return (.error fault, record) := by
  simp only [runFrom, ExceptT.run_bind, StateT.run_bind]
  congr
  funext ⟨result, record⟩
  cases result <;> rfl

@[simp] theorem runFrom_pure (a : α) (record : σ) :
    (pure a : Recorded σ I α).runFrom record = pure (.ok a, record) := rfl

@[simp] theorem runFrom_get (record : σ) :
    (get : Recorded σ I σ).runFrom record = pure (.ok record, record) := rfl

@[simp] theorem runFrom_set (record record' : σ) :
    (set record' : Recorded σ I PUnit).runFrom record = pure (.ok (), record') := rfl

@[simp] theorem runFrom_modify (change : σ → σ) (record : σ) :
    (modify change : Recorded σ I PUnit).runFrom record = pure (.ok (), change record) := rfl

@[simp] theorem runFrom_ofResult (result : Except Fault α) (record : σ) :
    (ofResult result : Recorded σ I α).runFrom record = pure (result, record) := rfl

@[simp] theorem runFrom_fail (fault : Fault) (record : σ) :
    (fail fault : Recorded σ I α).runFrom record = pure (.error fault, record) := rfl

theorem runFrom_get_bind (next : σ → Recorded σ I β) (record : σ) :
    (get >>= next).runFrom record = (next record).runFrom record := by
  rw [runFrom_bind, runFrom_get, pure_bind]

theorem runFrom_set_bind (record' : σ) (next : PUnit → Recorded σ I β) (record : σ) :
    (set record' >>= next).runFrom record = (next ()).runFrom record' := by
  rw [runFrom_bind, runFrom_set, pure_bind]

theorem runFrom_ofSaga_bind (saga : Saga I α) (next : α → Recorded σ I β) (record : σ) :
    (ofSaga saga >>= next).runFrom record = saga.run >>= fun result =>
      match result with
      | .ok a => (next a).runFrom record
      | .error fault => pure (.error fault, record) := by
  rw [runFrom_bind]
  show (saga.run >>= fun result => pure (result, record)) >>= _ = _
  rw [bind_assoc]
  simp only [pure_bind]

theorem evalFrom_get_bind (next : σ → Recorded σ I β) (record : σ) :
    (get >>= next).evalFrom record = (next record).evalFrom record :=
  congrArg (fun task => ExceptT.mk (Prod.fst <$> task)) (runFrom_get_bind next record)

theorem evalFrom_ofSaga (saga : Saga I α) (record : σ) :
    (ofSaga saga : Recorded σ I α).evalFrom record = saga := by
  show ExceptT.mk (Prod.fst <$> (saga.run >>= fun r => pure (r, record))) = saga
  rw [map_bind]
  simp only [map_pure]
  exact bind_pure saga.run

theorem evalFrom_zoom (get : τ → σ) (set : σ → τ → τ) (saga : Recorded σ I α) (whole : τ) :
    (zoom get set saga).evalFrom whole = saga.evalFrom (get whole) := by
  show ExceptT.mk (Prod.fst <$> (saga.runFrom (get whole) >>= fun p => pure (p.1, set p.2 whole))) =
    ExceptT.mk (Prod.fst <$> saga.runFrom (get whole))
  rw [map_bind]
  simp only [map_pure, ← map_eq_pure_bind]

/-- The last change of a record makes no difference to the result. -/
theorem evalFrom_bind_set (saga : Recorded σ I Unit) (record record' : σ) :
    (saga >>= fun _ => set record').evalFrom record = saga.evalFrom record := by
  show ExceptT.mk (Prod.fst <$> (saga >>= fun _ => set record').runFrom record) =
    ExceptT.mk (Prod.fst <$> saga.runFrom record)
  rw [runFrom_bind, map_bind, map_eq_pure_bind]
  congr
  funext ⟨result, middle⟩
  cases result <;> rfl

variable {script : Script I} {guards : List Guard} {w w' : World I} {record record' : σ}

theorem bind_done {saga : Recorded σ I α} {next : α → Recorded σ I β} {r : Except Fault β} :
    (saga >>= next).runFrom record script guards w = .done (r, record') w' ↔
      (∃ a middle v, saga.runFrom record script guards w = .done (.ok a, middle) v ∧
        (next a).runFrom middle script guards v = .done (r, record') w') ∨
      ∃ fault, saga.runFrom record script guards w = .done (.error fault, record') w' ∧
        r = .error fault := by
  rw [runFrom_bind, Task.bind_done]
  constructor
  · rintro ⟨⟨_ | a, middle⟩, v, h, h'⟩
    · obtain ⟨h', rfl⟩ := Task.pure_done.mp h'
      cases h'
      exact .inr ⟨_, h, rfl⟩
    · exact .inl ⟨a, middle, v, h, h'⟩
  · rintro (⟨a, middle, v, h, h'⟩ | ⟨fault, h, rfl⟩)
    · exact ⟨(.ok a, middle), v, h, h'⟩
    · exact ⟨(.error fault, record'), w', h, Task.pure_done.mpr ⟨rfl, rfl⟩⟩

theorem evalFrom_done {saga : Recorded σ I α} {r : Except Fault α} :
    (saga.evalFrom record).run script guards w = .done r w' ↔
      ∃ record', saga.runFrom record script guards w = .done (r, record') w' := by
  refine Task.map_done.trans ⟨?_, ?_⟩
  · rintro ⟨⟨r, record'⟩, h, rfl⟩
    exact ⟨record', h⟩
  · rintro ⟨record', h⟩
    exact ⟨(r, record'), h, rfl⟩

theorem evalFrom_interrupted {saga : Recorded σ I α} {outside : Nat} {why : Interrupt} :
    (saga.evalFrom record).run script guards w = .interrupted outside why w' ↔
      saga.runFrom record script guards w = .interrupted outside why w' :=
  Task.map_interrupted

theorem bind_interrupted {saga : Recorded σ I α} {next : α → Recorded σ I β} {outside : Nat}
    {why : Interrupt} :
    (saga >>= next).runFrom record script guards w = .interrupted outside why w' ↔
      saga.runFrom record script guards w = .interrupted outside why w' ∨
      ∃ a middle v, saga.runFrom record script guards w = .done (.ok a, middle) v ∧
        (next a).runFrom middle script guards v = .interrupted outside why w' := by
  rw [runFrom_bind, Task.bind_interrupted]
  refine or_congr_right ⟨?_, ?_⟩
  · rintro ⟨⟨_ | a, middle⟩, v, h, h'⟩
    · cases h'
    · exact ⟨a, middle, v, h, h'⟩
  · rintro ⟨a, middle, v, h, h'⟩
    exact ⟨(.ok a, middle), v, h, h'⟩

theorem ofSaga_interrupted {saga : Saga I α} {outside : Nat} {why : Interrupt} :
    (ofSaga saga : Recorded σ I α).runFrom record script guards w =
        .interrupted outside why w' ↔
      saga.run script guards w = .interrupted outside why w' := by
  show (saga.run >>= fun r => pure (r, record)) script guards w = _ ↔ _
  rw [Task.bind_interrupted, or_iff_left]
  rintro ⟨_, _, _, h⟩
  cases h

theorem ofSaga_done {saga : Saga I α} {r : Except Fault α} :
    (ofSaga saga : Recorded σ I α).runFrom record script guards w = .done (r, record') w' ↔
      saga.run script guards w = .done r w' ∧ record' = record := by
  show (saga.run >>= fun r => pure (r, record)) script guards w = _ ↔ _
  rw [Task.bind_done]
  simp only [Task.pure_done, Prod.mk.injEq]
  constructor
  · rintro ⟨_, _, h, ⟨rfl, rfl⟩, rfl⟩
    exact ⟨h, rfl⟩
  · rintro ⟨h, rfl⟩
    exact ⟨r, w', h, ⟨rfl, rfl⟩, rfl⟩

theorem ofSaga_bind_done {saga : Saga I α} {next : α → Recorded σ I β} {r : Except Fault β} :
    (ofSaga saga >>= next).runFrom record script guards w = .done (r, record') w' ↔
      (∃ a v, saga.run script guards w = .done (.ok a) v ∧
        (next a).runFrom record script guards v = .done (r, record') w') ∨
      ∃ fault, saga.run script guards w = .done (.error fault) w' ∧ r = .error fault ∧
        record' = record := by
  rw [bind_done]
  constructor
  · rintro (⟨a, middle, v, lifted, h⟩ | ⟨fault, lifted, rfl⟩)
    · obtain ⟨ran, rfl⟩ := ofSaga_done.mp lifted
      exact .inl ⟨a, v, ran, h⟩
    · obtain ⟨ran, rfl⟩ := ofSaga_done.mp lifted
      exact .inr ⟨fault, ran, rfl, rfl⟩
  · rintro (⟨a, v, ran, h⟩ | ⟨fault, ran, rfl, rfl⟩)
    · exact .inl ⟨a, record, v, ofSaga_done.mpr ⟨ran, rfl⟩, h⟩
    · exact .inr ⟨fault, ofSaga_done.mpr ⟨ran, rfl⟩, rfl⟩

theorem runFrom_bind_done {saga : Recorded σ I α} {next : Except Fault α × σ → Saga I β}
    {r : Except Fault β} :
    (Saga.ofTask (saga.runFrom record) >>= next).run script guards w = .done r w' ↔
      ∃ result record' v, saga.runFrom record script guards w = .done (result, record') v ∧
        (next (result, record')).run script guards v = .done r w' := by
  rw [Saga.bind_done]
  constructor
  · rintro (⟨⟨result, record'⟩, v, h, h'⟩ | ⟨fault, h, -⟩)
    · obtain ⟨_, h, ⟨⟩⟩ := Saga.ofTask_done.mp h
      exact ⟨result, record', v, h, h'⟩
    · obtain ⟨_, -, ⟨⟩⟩ := Saga.ofTask_done.mp h
  · rintro ⟨result, record', v, h, h'⟩
    exact .inl ⟨_, v, Saga.ofTask_done.mpr ⟨_, h, rfl⟩, h'⟩

theorem zoom_done {get : τ → σ} {set : σ → τ → τ} {saga : Recorded σ I α} {whole whole' : τ}
    {r : Except Fault α} :
    (zoom get set saga).runFrom whole script guards w = .done (r, whole') w' ↔
      ∃ part, saga.runFrom (get whole) script guards w = .done (r, part) w' ∧
        whole' = set part whole := by
  show (saga.runFrom (get whole) >>= fun p => pure (p.1, set p.2 whole)) script guards w = _ ↔ _
  rw [Task.bind_done]
  simp only [Task.pure_done, Prod.mk.injEq, Prod.exists]
  constructor
  · rintro ⟨_, part, _, h, ⟨rfl, rfl⟩, rfl⟩
    exact ⟨part, h, rfl⟩
  · rintro ⟨part, h, rfl⟩
    exact ⟨r, part, w', h, ⟨rfl, rfl⟩, rfl⟩

end RunFrom

end Recorded

end Recovery
