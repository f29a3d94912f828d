import Recovery.Fault
import Recovery.Timed.Clock
/-!
# Tasks

A task is a program that runs against the clock and asks the outside world by calls. The world is
a script: it answers each call by an outcome that may depend on every call made so far. Every call
is logged with its instant as it begins, and once more with its result when it has been seen
through.

A task ends with a value, or is interrupted by one of the guards around it, or rests for ever.
`Task.within` puts a guard around a task and turns the interruption by that guard into a value.
-/
set_option autoImplicit false

namespace Recovery

/-- The calls that a task may make, each with the type of its answer. -/
structure Interface where
  Call : Type
  Reply : Call → Type

/-- How a call ends: first it may cancel the root scope, then it hangs or takes its time, then it
gives its result. -/
structure Outcome (α : Type) where
  cancels : Bool
  hangs : Bool
  delay : Nat
  result : Except Fault α

def Outcome.immediate {α : Type} (result : Except Fault α) : Outcome α := ⟨false, false, 0, result⟩

structure Script (I : Interface) where
  root : Token
  answer : (history : List I.Call) → (call : I.Call) → Outcome (I.Reply call)

structure Entry (I : Interface) where
  instant : Nat
  call : I.Call

/-- What a call leaves on record: that it began and, if it was seen through, how it ended. -/
inductive Mark (I : Interface) where
  | began (entry : Entry I)
  | ended (instant : Nat) (call : I.Call) (result : Except Fault (I.Reply call))

def Mark.entry? {I : Interface} : Mark I → Option (Entry I)
  | .began entry => some entry
  | .ended _ _ _ => none

structure World (I : Interface) where
  clock : Clock
  marks : List (Mark I)

namespace World

variable {I : Interface}

def log (w : World I) : List (Entry I) := w.marks.filterMap Mark.entry?

/-- How the world may go on: the clock does, and what is on record stays there. -/
structure Precedes (w w' : World I) : Prop where
  clock : w.clock.Precedes w'.clock
  marks : w.marks <+: w'.marks

namespace Precedes

theorem refl (w : World I) : w.Precedes w := ⟨.refl _, List.prefix_refl _⟩

theorem trans {w w' w'' : World I} (h : w.Precedes w') (h' : w'.Precedes w'') :
    w.Precedes w'' :=
  ⟨h.clock.trans h'.clock, h.marks.trans h'.marks⟩

theorem of_clock {w : World I} {c : Clock} (h : w.clock.Precedes c) :
    w.Precedes { w with clock := c } :=
  ⟨h, List.prefix_refl _⟩

end Precedes

def mark (w : World I) (m : Mark I) : World I := { w with marks := w.marks ++ [m] }

theorem precedes_mark (w : World I) (m : Mark I) : w.Precedes (w.mark m) :=
  ⟨.refl _, List.prefix_append ..⟩

end World

inductive Step (I : Interface) (α : Type) where
  | done (value : α) (world : World I)
  | interrupted (outside : Nat) (why : Interrupt) (world : World I)
  | endless (world : World I)

def Step.world {I : Interface} {α : Type} : Step I α → World I
  | .done _ w => w
  | .interrupted _ _ w => w
  | .endless w => w

/-- The guards are those around the task, innermost first. -/
structure Task (I : Interface) (α : Type) where
  perform : Script I → List Guard → World I → Step I α
  precedes : ∀ (script : Script I) (guards : List Guard) (w : World I),
    w.Precedes (perform script guards w).world

namespace Task

variable {I : Interface} {α β : Type}

instance : CoeFun (Task I α) fun _ => Script I → List Guard → World I → Step I α := ⟨perform⟩

@[ext] theorem ext {task task' : Task I α}
    (h : ∀ script guards w, task script guards w = task' script guards w) : task = task' := by
  cases task
  cases task'
  congr
  funext script guards w
  exact h script guards w

protected def pure (a : α) : Task I α where
  perform _ _ w := .done a w
  precedes _ _ w := .refl w

protected def bind (task : Task I α) (next : α → Task I β) : Task I β where
  perform script guards w :=
    match task script guards w with
    | .done a w => next a script guards w
    | .interrupted outside why w => .interrupted outside why w
    | .endless w => .endless w
  precedes script guards w := by
    have h := task.precedes script guards w
    cases hs : task script guards w with
    | done a w' =>
      rw [hs] at h
      exact h.trans ((next a).precedes script guards w')
    | interrupted outside why w' => rwa [hs] at h
    | endless w' => rwa [hs] at h

instance : Monad (Task I) where
  pure := Task.pure
  bind := Task.bind

theorem pure_run (a : α) (script : Script I) (guards : List Guard) (w : World I) :
    (pure a : Task I α) script guards w = .done a w := rfl

theorem bind_run (task : Task I α) (next : α → Task I β) (script : Script I)
    (guards : List Guard) (w : World I) :
    (task >>= next) script guards w =
      match task script guards w with
      | .done a w => next a script guards w
      | .interrupted outside why w => .interrupted outside why w
      | .endless w => .endless w := rfl

private theorem id_map_run (task : Task I α) : id <$> task = task := by
  ext script guards w
  show (Task.bind task (Task.pure ∘ id)) script guards w = task script guards w
  simp only [Task.bind]
  cases task script guards w <;> rfl

private theorem bind_assoc_run {γ : Type} (task : Task I α) (f : α → Task I β)
    (g : β → Task I γ) : task >>= f >>= g = task >>= fun a => f a >>= g := by
  ext script guards w
  show (Task.bind (Task.bind task f) g) script guards w =
    (Task.bind task (fun a => Task.bind (f a) g)) script guards w
  simp only [Task.bind]
  cases task script guards w <;> rfl

instance : LawfulMonad (Task I) :=
  LawfulMonad.mk' _ id_map_run (fun _ _ => rfl) bind_assoc_run

section Ends

variable {script : Script I} {guards : List Guard} {w w' : World I}

@[simp] theorem pure_done {a b : α} :
    (pure a : Task I α) script guards w = .done b w' ↔ a = b ∧ w = w' := by
  simp [pure_run]

theorem bind_done {task : Task I α} {next : α → Task I β} {b : β} :
    (task >>= next) script guards w = .done b w' ↔
      ∃ a v, task script guards w = .done a v ∧ next a script guards v = .done b w' := by
  rw [bind_run]
  cases task script guards w with
  | done a v =>
    constructor
    · exact fun h => ⟨a, v, rfl, h⟩
    · rintro ⟨_, _, ⟨rfl, rfl⟩, h⟩
      exact h
  | interrupted outside why v => simp
  | endless v => simp

theorem bind_interrupted {task : Task I α} {next : α → Task I β} {outside : Nat}
    {why : Interrupt} :
    (task >>= next) script guards w = .interrupted outside why w' ↔
      task script guards w = .interrupted outside why w' ∨
      ∃ a v, task script guards w = .done a v ∧
        next a script guards v = .interrupted outside why w' := by
  rw [bind_run]
  cases task script guards w with
  | done a v =>
    constructor
    · exact fun h => .inr ⟨a, v, rfl, h⟩
    · rintro (h | ⟨_, _, ⟨rfl, rfl⟩, h⟩)
      · cases h
      · exact h
  | interrupted _ _ v => simp
  | endless v => simp

theorem bind_endless {task : Task I α} {next : α → Task I β} :
    (task >>= next) script guards w = .endless w' ↔
      task script guards w = .endless w' ∨
      ∃ a v, task script guards w = .done a v ∧ next a script guards v = .endless w' := by
  rw [bind_run]
  cases task script guards w with
  | done a v =>
    constructor
    · exact fun h => .inr ⟨a, v, rfl, h⟩
    · rintro (h | ⟨_, _, ⟨rfl, rfl⟩, h⟩)
      · cases h
      · exact h
  | interrupted _ _ v => simp
  | endless v => simp

theorem map_done {task : Task I α} {f : α → β} {b : β} :
    (f <$> task) script guards w = .done b w' ↔
      ∃ a, task script guards w = .done a w' ∧ f a = b := by
  rw [map_eq_pure_bind, bind_done]
  simp

theorem map_interrupted {task : Task I α} {f : α → β} {outside : Nat} {why : Interrupt} :
    (f <$> task) script guards w = .interrupted outside why w' ↔
      task script guards w = .interrupted outside why w' := by
  rw [map_eq_pure_bind, bind_interrupted]
  simp [pure_run]

theorem map_endless {task : Task I α} {f : α → β} :
    (f <$> task) script guards w = .endless w' ↔ task script guards w = .endless w' := by
  rw [map_eq_pure_bind, bind_endless]
  simp [pure_run]

theorem precedes_of_done {task : Task I α} {a : α} (h : task script guards w = .done a w') :
    w.Precedes w' := by
  have := task.precedes script guards w
  rwa [h] at this

end Ends

def clock : Task I Clock where
  perform _ _ w := .done w.clock w
  precedes _ _ w := .refl w

def now : Task I Nat where
  perform _ _ w := .done w.clock.now w
  precedes _ _ w := .refl w

/-- A step that changes the clock's tokens and alarms and takes no time. -/
def onClock (step : Clock → α × Clock) : Task I α where
  perform _ _ w := .done (step w.clock).1 { w with clock := w.clock.step (step w.clock).2 }
  precedes _ _ w := .of_clock (w.clock.precedes_step _)

def log : Task I (List (Entry I)) where
  perform _ _ w := .done w.log w
  precedes _ _ w := .refl w

/-- What comes of a rest, given what to go on with on waking. -/
def afterRest (onWake : World I → Step I α) (w : World I) : Rest → Step I α
  | .wakes clock => onWake { w with clock }
  | .interrupted outside why clock => .interrupted outside why { w with clock }
  | .endless clock => .endless { w with clock }

/-- Rests for a while; even a rest of no length lets the guards have their say. -/
def pause (milliseconds : Nat) : Task I Unit where
  perform _ guards w :=
    afterRest (.done ()) w (w.clock.rest guards (some (w.clock.now + milliseconds)))
  precedes _ guards w := by
    have h := w.clock.precedes_rest guards (some (w.clock.now + milliseconds))
    cases hr : w.clock.rest guards (some (w.clock.now + milliseconds)) <;>
      exact .of_clock (by rwa [hr] at h)

/-- A sleep of no length is no rest. -/
def sleep (milliseconds : Nat) : Task I Unit :=
  if milliseconds = 0 then pure () else pause milliseconds

def hang : Task I α where
  perform _ guards w := afterRest .endless w (w.clock.rest guards none)
  precedes _ guards w := by
    have h := w.clock.precedes_rest guards none
    cases hr : w.clock.rest guards none <;> exact .of_clock (by rwa [hr] at h)

/-- The task under one more guard; `error` if that guard interrupts it. -/
def within (guard : Guard) (task : Task I α) : Task I (Except Interrupt α) where
  perform script guards w :=
    match task script (guard :: guards) w with
    | .done a w => .done (.ok a) w
    | .interrupted outside why w =>
      if outside = guards.length then .done (.error why) w else .interrupted outside why w
    | .endless w => .endless w
  precedes script guards w := by
    have h := task.precedes script (guard :: guards) w
    cases hs : task script (guard :: guards) w with
    | done a w' => rwa [hs] at h
    | interrupted outside why w' =>
      rw [hs] at h
      dsimp only
      split <;> exact h
    | endless w' => rwa [hs] at h

theorem within_world (guard : Guard) (task : Task I α) (script : Script I) (guards : List Guard)
    (w : World I) :
    (within guard task script guards w).world = (task script (guard :: guards) w).world := by
  simp only [within]
  cases task script (guard :: guards) w with
  | done a v => rfl
  | interrupted outside why v =>
    dsimp only
    split <;> rfl
  | endless v => rfl

theorem within_done {guard : Guard} {task : Task I α} {r : Except Interrupt α}
    {script : Script I} {guards : List Guard} {w w' : World I} :
    within guard task script guards w = .done r w' ↔
      (∃ a, task script (guard :: guards) w = .done a w' ∧ r = .ok a) ∨
      ∃ why, task script (guard :: guards) w = .interrupted guards.length why w' ∧
        r = .error why := by
  simp only [within]
  cases task script (guard :: guards) w with
  | done a v =>
    constructor
    · rintro ⟨rfl, rfl⟩
      exact .inl ⟨a, rfl, rfl⟩
    · rintro (⟨_, ⟨rfl, rfl⟩, rfl⟩ | ⟨_, h, _⟩)
      · rfl
      · cases h
  | interrupted outside why v =>
    by_cases h : outside = guards.length
    · subst h
      simp only [if_true]
      constructor
      · rintro ⟨rfl, rfl⟩
        exact .inr ⟨why, rfl, rfl⟩
      · rintro (⟨_, h, _⟩ | ⟨_, ⟨rfl, rfl⟩, rfl⟩)
        · cases h
        · rfl
    · simp [h]
  | endless v => simp

theorem within_interrupted {guard : Guard} {task : Task I α} {outside : Nat} {why : Interrupt}
    {script : Script I} {guards : List Guard} {w w' : World I} :
    within guard task script guards w = .interrupted outside why w' ↔
      task script (guard :: guards) w = .interrupted outside why w' ∧
        outside ≠ guards.length := by
  simp only [within]
  cases task script (guard :: guards) w with
  | done a v => simp
  | interrupted outside' why' v =>
    by_cases h : outside' = guards.length
    · simp only [h, if_true, reduceCtorEq, Step.interrupted.injEq, false_iff]
      rintro ⟨⟨rfl, -, -⟩, other⟩
      exact other rfl
    · simp only [h, if_false, Step.interrupted.injEq, iff_self_and]
      rintro ⟨rfl, -, -⟩
      exact h
  | endless v => simp

theorem within_endless {guard : Guard} {task : Task I α} {script : Script I}
    {guards : List Guard} {w w' : World I} :
    within guard task script guards w = .endless w' ↔
      task script (guard :: guards) w = .endless w' := by
  simp only [within]
  cases task script (guard :: guards) w with
  | done a v => simp
  | interrupted outside why v =>
    dsimp only
    split <;> simp
  | endless v => simp

def limit (milliseconds : Nat) (task : Task I α) : Task I (Option α) := do
  let now ← now
  let ended ← within ⟨[], some (now + milliseconds)⟩ task
  return ended.toOption

def start (c : I.Call) : Task I (Outcome (I.Reply c)) where
  perform script _ w :=
    .done (script.answer (w.log.map Entry.call) c) (w.mark (.began ⟨w.clock.now, c⟩))
  precedes _ _ w := w.precedes_mark _

def finish (c : I.Call) (result : Except Fault (I.Reply c)) : Task I Unit where
  perform _ _ w := .done () (w.mark (.ended w.clock.now c result))
  precedes _ _ w := w.precedes_mark _

def cancelRoot : Task I Unit where
  perform script _ w := .done () { w with clock := w.clock.cancel script.root }
  precedes script _ w := .of_clock (w.clock.precedes_cancel script.root)

def ripen (outcome : Outcome α) : Task I (Except Fault α) :=
  if outcome.hangs then hang
  else do
    sleep outcome.delay
    return outcome.result

def play (outcome : Outcome α) : Task I (Except Fault α) := do
  if outcome.cancels then cancelRoot
  ripen outcome

def call (c : I.Call) : Task I (Except Fault (I.Reply c)) := do
  let outcome ← start c
  let result ← play outcome
  finish c result
  return result

def run (task : Task I α) (script : Script I) (w : World I) : Step I α := task script [] w

end Task

abbrev Saga (I : Interface) (α : Type) := ExceptT Fault (Task I) α

namespace Saga

variable {I : Interface} {α : Type}

def call (c : I.Call) : Saga I (I.Reply c) := ExceptT.mk (Task.call c)

theorem bind_done {β : Type} {saga : Saga I α} {next : α → Saga I β} {r : Except Fault β}
    {script : Script I} {guards : List Guard} {w w' : World I} :
    (saga >>= next).run script guards w = .done r w' ↔
      (∃ a v, saga.run script guards w = .done (.ok a) v ∧
        (next a).run script guards v = .done r w') ∨
      ∃ fault, saga.run script guards w = .done (.error fault) w' ∧ r = .error fault := by
  rw [ExceptT.run_bind, Task.bind_done]
  constructor
  · rintro ⟨_ | a, v, h, h'⟩
    · obtain ⟨rfl, rfl⟩ := Task.pure_done.mp h'
      exact .inr ⟨_, h, rfl⟩
    · exact .inl ⟨a, v, h, h'⟩
  · rintro (⟨a, v, h, h'⟩ | ⟨fault, h, rfl⟩)
    · exact ⟨.ok a, v, h, h'⟩
    · exact ⟨.error fault, w', h, Task.pure_done.mpr ⟨rfl, rfl⟩⟩

def ofTask (task : Task I α) : Saga I α := ExceptT.lift task

theorem ofTask_done {task : Task I α} {r : Except Fault α} {script : Script I}
    {guards : List Guard} {w w' : World I} :
    (ofTask task).run script guards w = .done r w' ↔
      ∃ a, task script guards w = .done a w' ∧ r = .ok a := by
  refine Task.map_done.trans ?_
  simp only [eq_comm]

def ofResult (result : Except Fault α) : Saga I α := ExceptT.mk (pure result)

def fail (fault : Fault) : Saga I α := ofResult (.error fault)

def attempt (saga : Saga I α) : Task I (Except Fault α) := saga.run

def during (context : String) (saga : Saga I α) : Saga I α :=
  ExceptT.mk (Fault.during context <$> saga.run)

def mapFault (change : Fault → Fault) (saga : Saga I α) : Saga I α :=
  ExceptT.mk (Except.mapError change <$> saga.run)

end Saga

end Recovery
