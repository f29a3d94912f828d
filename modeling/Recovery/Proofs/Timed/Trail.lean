import Recovery.Proofs.Timed.Attempt
import Recovery.Proofs.Timed.Interrupt
/-!
# Trails

The attempts that a task leaves behind, also if a guard around it cuts it short or if it never ends.
A trail relates attempts to what the task ended with, if it ended; an operation in a scope leaves
its trail, or what of it there is when the scope ends.
-/
set_option autoImplicit false

namespace Recovery

variable {I : Interface} {α β σ : Type}

/-- What a task has ended with. -/
def Step.value? : Step I α → Option α
  | .done a _ => some a
  | .interrupted _ _ _ => none
  | .endless _ => none

/-- Whichever way the task is left, its attempts are on the trail, which may depend on the clock as
it is then; so they are if it never is. -/
structure Task.Leaves (task : Task I α) (trail : Clock → List (Attempt I) → Option α → Prop) :
    Prop where
  done : ∀ {script : Script I} {guards : List Guard} {w w' : World I} {a : α},
    task script guards w = .done a w' →
    ∃ attempts, w.Makes script attempts w' ∧ trail w'.clock attempts (some a)
  cut : ∀ {script : Script I} {guards : List Guard} {w w' : World I} {outside : Nat}
    {why : Interrupt},
    task script guards w = .interrupted outside why w' →
    ∃ attempts, w.Makes script attempts w' ∧ trail w'.clock attempts none ∧
      Guard.Interrupts w'.clock why guards outside
  stays : ∀ {script : Script I} {guards : List Guard} {w w' : World I},
    task script guards w = .endless w' →
    ∃ attempts, w.Makes script attempts w' ∧ trail w'.clock attempts none

/-- The trail of a single call. -/
def Attempt.Sole (c : I.Call) (attempts : List (Attempt I))
    (ending : Option (Except Fault (I.Reply c))) : Prop :=
  attempts = [⟨c, ending⟩]

namespace Task

variable {first : Clock → List (Attempt I) → Option α → Prop}
  {trail : Clock → List (Attempt I) → Option β → Prop}

theorem leaves_pure {b : β} (h : ∀ c, trail c [] (some b)) : (pure b : Task I β).Leaves trail where
  done ended := by
    obtain ⟨rfl, rfl⟩ := pure_done.mp ended
    exact ⟨[], .refl _, h _⟩
  cut ended := nomatch ended
  stays ended := nomatch ended

theorem leaves_call (c : I.Call) : (call c).Leaves fun _ => Attempt.Sole c where
  done ended := ⟨_, call_makes ended, rfl⟩
  cut ended := ⟨_, call_makes_cut ended, rfl, call_guarded ended⟩
  stays ended := ⟨_, call_makes_endless ended, rfl⟩

theorem Leaves.whole {task : Task I β} (h : task.Leaves trail) (script : Script I)
    (guards : List Guard) (w : World I) :
    ∃ attempts, w.Makes script attempts (task script guards w).world ∧
      trail (task script guards w).world.clock attempts (task script guards w).value? := by
  cases ended : task script guards w with
  | done b v => exact h.done ended
  | interrupted outside why v =>
    obtain ⟨attempts, makes, left, -⟩ := h.cut ended
    exact ⟨attempts, makes, left⟩
  | endless v => exact h.stays ended

theorem Leaves.mono {task : Task I α} {trail : Clock → List (Attempt I) → Option α → Prop}
    (h : task.Leaves first)
    (weaker : ∀ c attempts ending, first c attempts ending → trail c attempts ending) :
    task.Leaves trail where
  done ended := by
    obtain ⟨attempts, makes, left⟩ := h.done ended
    exact ⟨attempts, makes, weaker _ _ _ left⟩
  cut ended := by
    obtain ⟨attempts, makes, left, guarded⟩ := h.cut ended
    exact ⟨attempts, makes, weaker _ _ _ left, guarded⟩
  stays ended := by
    obtain ⟨attempts, makes, left⟩ := h.stays ended
    exact ⟨attempts, makes, weaker _ _ _ left⟩

theorem Leaves.bind {task : Task I α} {next : α → Task I β} (h : task.Leaves first)
    (then_ : ∀ c a before, first c before (some a) →
      (next a).Leaves fun c more ending => trail c (before ++ more) ending)
    (cut : ∀ c before, first c before none → trail c before none) :
    (task >>= next).Leaves trail where
  done ended := by
    obtain ⟨a, v, ended, later⟩ := bind_done.mp ended
    obtain ⟨before, makes, left⟩ := h.done ended
    obtain ⟨more, makes', left'⟩ := (then_ _ a before left).done later
    exact ⟨before ++ more, makes.trans makes', left'⟩
  cut ended := by
    rcases bind_interrupted.mp ended with ended | ⟨a, v, ended, later⟩
    · obtain ⟨before, makes, left, guarded⟩ := h.cut ended
      exact ⟨before, makes, cut _ before left, guarded⟩
    · obtain ⟨before, makes, left⟩ := h.done ended
      obtain ⟨more, makes', left', guarded⟩ := (then_ _ a before left).cut later
      exact ⟨before ++ more, makes.trans makes', left', guarded⟩
  stays ended := by
    rcases bind_endless.mp ended with ended | ⟨a, v, ended, later⟩
    · obtain ⟨before, makes, left⟩ := h.stays ended
      exact ⟨before, makes, cut _ before left⟩
    · obtain ⟨before, makes, left⟩ := h.done ended
      obtain ⟨more, makes', left'⟩ := (then_ _ a before left).stays later
      exact ⟨before ++ more, makes.trans makes', left'⟩

theorem Leaves.map {task : Task I α} (h : task.Leaves first) (f : α → β)
    (made : ∀ c attempts ending, first c attempts ending → trail c attempts (ending.map f)) :
    (f <$> task).Leaves trail where
  done ended := by
    obtain ⟨a, ran, rfl⟩ := map_done.mp ended
    obtain ⟨attempts, makes, left⟩ := h.done ran
    exact ⟨attempts, makes, made _ _ _ left⟩
  cut ended := by
    obtain ⟨attempts, makes, left, guarded⟩ := h.cut (map_interrupted.mp ended)
    exact ⟨attempts, makes, made _ _ _ left, guarded⟩
  stays ended := by
    obtain ⟨attempts, makes, left⟩ := h.stays (map_endless.mp ended)
    exact ⟨attempts, makes, made _ _ _ left⟩

/-- A guard around the task ends it with what it has left so far. -/
theorem Leaves.within {task : Task I α}
    {trail : Clock → List (Attempt I) → Option (Except Interrupt α) → Prop}
    (h : task.Leaves first) (g : Guard)
    (through : ∀ c attempts a, first c attempts (some a) → trail c attempts (some (.ok a)))
    (ended : ∀ c attempts why, first c attempts none → g.Trips c why →
      trail c attempts (some (.error why)))
    (cut : ∀ c attempts, first c attempts none → trail c attempts none) :
    (Task.within g task).Leaves trail where
  done around := by
    rcases within_done.mp around with ⟨a, inside, rfl⟩ | ⟨why, inside, rfl⟩
    · obtain ⟨attempts, makes, left⟩ := h.done inside
      exact ⟨attempts, makes, through _ _ a left⟩
    · obtain ⟨attempts, makes, left, guarded⟩ := h.cut inside
      exact ⟨attempts, makes, ended _ _ why left guarded.trips⟩
  cut inside := by
    obtain ⟨inside, other⟩ := within_interrupted.mp inside
    obtain ⟨attempts, makes, left, guarded⟩ := h.cut inside
    exact ⟨attempts, makes, cut _ _ left, guarded.outer_of_ne other⟩
  stays inside := by
    obtain ⟨attempts, makes, left⟩ := h.stays (within_endless.mp inside)
    exact ⟨attempts, makes, cut _ _ left⟩

theorem leaves_call_bind {c : I.Call} {next : Except Fault (I.Reply c) → Task I β}
    (then_ : ∀ r, (next r).Leaves fun now more ending => trail now (⟨c, some r⟩ :: more) ending)
    (cut : ∀ now, trail now [⟨c, none⟩] none) : (call c >>= next).Leaves trail := by
  refine (leaves_call c).bind (fun now r before sole => ?_) (fun now before sole => ?_)
  · rw [sole]
    exact then_ r
  · rw [sole]
    exact cut now

end Task

theorem Saga.leaves_call_bind {c : I.Call} {next : I.Reply c → Saga I β}
    {trail : Clock → List (Attempt I) → Option (Except Fault β) → Prop}
    (then_ : ∀ reply, (next reply).run.Leaves fun now more ending =>
      trail now (⟨c, some (.ok reply)⟩ :: more) ending)
    (failed : ∀ now e, trail now [⟨c, some (.error e)⟩] (some (.error e)))
    (cut : ∀ now, trail now [⟨c, none⟩] none) : (call c >>= next).run.Leaves trail := by
  rw [ExceptT.run_bind]
  refine Task.leaves_call_bind (fun r => ?_) cut
  cases r with
  | ok reply => exact then_ reply
  | error e => exact Task.leaves_pure fun now => failed now e

theorem Saga.leaves_call_during (c : I.Call) (context : String) :
    ((call c).during context).run.Leaves fun _ attempts ending =>
      ∃ result, attempts = [⟨c, result⟩] ∧ ending = result.map (Fault.during context) :=
  (Task.leaves_call c).map _ fun _ _ result sole => ⟨result, sole, rfl⟩

theorem Recorded.leaves_ofSaga_bind {saga : Saga I α} {next : α → Recorded σ I β} {record : σ}
    {first : Clock → List (Attempt I) → Option (Except Fault α) → Prop}
    {trail : Clock → List (Attempt I) → Option (Except Fault β × σ) → Prop}
    (h : saga.run.Leaves first)
    (then_ : ∀ c a before, first c before (some (.ok a)) →
      ((next a).runFrom record).Leaves fun c more ending => trail c (before ++ more) ending)
    (failed : ∀ c fault before, first c before (some (.error fault)) →
      trail c before (some (.error fault, record)))
    (cut : ∀ c before, first c before none → trail c before none) :
    ((ofSaga saga >>= next).runFrom record).Leaves trail where
  done {script guards w w' result} ended := by
    obtain ⟨r, record'⟩ := result
    rcases ofSaga_bind_done.mp ended with ⟨a, v, ran, later⟩ | ⟨fault, ran, rfl, rfl⟩
    · obtain ⟨before, makes, left⟩ := h.done ran
      obtain ⟨more, makes', left'⟩ := (then_ _ a before left).done later
      exact ⟨before ++ more, makes.trans makes', left'⟩
    · obtain ⟨before, makes, left⟩ := h.done ran
      exact ⟨before, makes, failed _ fault before left⟩
  cut ended := by
    rw [runFrom_ofSaga_bind] at ended
    rcases Task.bind_interrupted.mp ended with ended | ⟨r, v, ended, later⟩
    · obtain ⟨before, makes, left, guarded⟩ := h.cut ended
      exact ⟨before, makes, cut _ before left, guarded⟩
    · cases r with
      | ok a =>
        obtain ⟨before, makes, left⟩ := h.done ended
        obtain ⟨more, makes', left', guarded⟩ := (then_ _ a before left).cut later
        exact ⟨before ++ more, makes.trans makes', left', guarded⟩
      | error fault => cases later
  stays ended := by
    rw [runFrom_ofSaga_bind] at ended
    rcases Task.bind_endless.mp ended with ended | ⟨r, v, ended, later⟩
    · obtain ⟨before, makes, left⟩ := h.stays ended
      exact ⟨before, makes, cut _ before left⟩
    · cases r with
      | ok a =>
        obtain ⟨before, makes, left⟩ := h.done ended
        obtain ⟨more, makes', left'⟩ := (then_ _ a before left).stays later
        exact ⟨before ++ more, makes.trans makes', left'⟩
      | error fault => cases later

/-! ## In a scope -/

/-- What comes of an operation in a scope that has ended by now: it leaves its trail, or what of it
there is when the scope ends, or nothing if the scope is cancelled before. -/
inductive Scope.Confines (s : Scope) (what : String)
    (trail : List (Attempt I) → Option (Except Fault α) → Prop) (c : Clock) :
    List (Attempt I) → Except Fault α → Prop where
  | through {attempts : List (Attempt I)} {r : Except Fault α} : trail attempts (some r) →
    Confines s what trail c attempts r
  | cut {attempts : List (Attempt I)} {why : Interrupt} : trail attempts none →
    s.guard.Trips c why → Confines s what trail c attempts (.error (why.fault what))
  | unbegun : s.guard.Trips c .cancelled → Confines s what trail c [] (.error (.cancelled what))

theorem Scope.Confines.forall_mem {s : Scope} {what : String}
    {trail : List (Attempt I) → Option (Except Fault α) → Prop} {c : Clock}
    {attempts : List (Attempt I)} {r : Except Fault α} {p : Attempt I → Prop}
    (h : s.Confines what trail c attempts r)
    (all : ∀ {attempts ending}, trail attempts ending → ∀ a ∈ attempts, p a) :
    ∀ a ∈ attempts, p a := by
  cases h with
  | through left => exact all left
  | cut left _ => exact all left
  | unbegun _ => exact List.forall_mem_nil _

theorem Scope.run_confines {s : Scope} {what : String} {operation : Saga I α}
    {trail : List (Attempt I) → Option (Except Fault α) → Prop} {script : Script I}
    {guards : List Guard} {w w' : World I} {r : Except Fault α}
    (h : operation.run.Leaves fun _ => trail)
    (ended : (s.run what operation).run script guards w = .done r w') :
    ∃ attempts, w.Makes script attempts w' ∧ s.Confines what trail w'.clock attempts r := by
  cases cancelled : s.isCancelled w.clock with
  | true =>
    rw [run_of_cancelled cancelled] at ended
    obtain ⟨rfl, rfl⟩ := Step.done.inj ended
    exact ⟨[], .refl w, .unbegun cancelled⟩
  | false =>
    rcases (run_done cancelled).mp ended with inside | ⟨why, inside, rfl⟩
    · obtain ⟨attempts, makes, left⟩ := h.done inside
      exact ⟨attempts, makes, .through left⟩
    · obtain ⟨attempts, makes, left, guarded⟩ := h.cut inside
      exact ⟨attempts, makes, .cut left guarded.trips⟩

theorem Scope.leaves_run {s : Scope} {what : String} {operation : Saga I α}
    {inside : List (Attempt I) → Option (Except Fault α) → Prop}
    {trail : Clock → List (Attempt I) → Option (Except Fault α) → Prop}
    (h : operation.run.Leaves fun _ => inside)
    (ended : ∀ c attempts r, s.Confines what inside c attempts r → trail c attempts (some r))
    (cut : ∀ c attempts, inside attempts none → trail c attempts none) :
    (s.run what operation).run.Leaves trail where
  done {script guards w w' r} inside := by
    obtain ⟨attempts, makes, confines⟩ := run_confines h inside
    exact ⟨attempts, makes, ended _ attempts r confines⟩
  cut {script guards w w' outside why} inside := by
    cases cancelled : s.isCancelled w.clock with
    | true => cases (run_of_cancelled cancelled).symm.trans inside
    | false =>
      obtain ⟨inside, other⟩ := (run_interrupted cancelled).mp inside
      obtain ⟨attempts, makes, left, guarded⟩ := h.cut inside
      exact ⟨attempts, makes, cut _ attempts left, guarded.outer_of_ne other⟩
  stays {script guards w w'} inside := by
    cases cancelled : s.isCancelled w.clock with
    | true => cases (run_of_cancelled cancelled).symm.trans inside
    | false =>
      obtain ⟨attempts, makes, left⟩ := h.stays ((run_endless cancelled).mp inside)
      exact ⟨attempts, makes, cut _ attempts left⟩

/-! ## Steps that have to succeed -/

/-- The calls are made in order up to the first that fails, which is reported. -/
inductive Performs (report : I.Call → Fault → Fault) :
    List I.Call → List (Attempt I) → Except Fault Unit → Prop where
  | finished : Performs report [] [] (.ok ())
  | failed (c : I.Call) (calls : List I.Call) (e : Fault) :
    Performs report (c :: calls) [⟨c, some (.error e)⟩] (.error (report c e))
  | passed (c : I.Call) (reply : I.Reply c) {calls : List I.Call} {attempts : List (Attempt I)}
      {r : Except Fault Unit} :
    Performs report calls attempts r →
    Performs report (c :: calls) (⟨c, some (.ok reply)⟩ :: attempts) r

namespace Performs

variable {report : I.Call → Fault → Fault} {calls later : List I.Call}
  {attempts attempts' : List (Attempt I)} {r : Except Fault Unit}

theorem append (h : Performs report calls attempts (.ok ()))
    (h' : Performs report later attempts' r) :
    Performs report (calls ++ later) (attempts ++ attempts') r := by
  generalize complete : (.ok () : Except Fault Unit) = first at h
  induction h with
  | finished => exact h'
  | failed => cases complete
  | passed c reply _ ih => exact .passed c reply (ih complete)

theorem stop {e : Fault} (h : Performs report calls attempts (.error e)) (later : List I.Call) :
    Performs report (calls ++ later) attempts (.error e) := by
  generalize incomplete : (.error e : Except Fault Unit) = first at h
  induction h with
  | finished => cases incomplete
  | failed c calls e => exact .failed c (calls ++ later) e
  | passed c reply _ ih => exact .passed c reply (ih incomplete)

theorem follows (h : Performs report calls attempts r) :
    Follows (fun a => a.succeeded = true) calls attempts r.isOk := by
  induction h with
  | finished => exact .finished
  | failed c calls e => exact .stopped ⟨c, some (.error e)⟩ calls Bool.false_ne_true
  | passed c reply _ ih => exact .advanced ⟨c, some (.ok reply)⟩ rfl ih

end Performs

end Recovery
