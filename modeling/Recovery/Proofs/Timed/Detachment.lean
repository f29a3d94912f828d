import Recovery.Proofs.Timed.Conduct
import Recovery.Proofs.Timed.Duration
/-!
# A cleanup and its caller

A cleanup with a time of its own goes as it would at the beginning of time, where there is nobody
that could have called it. So it makes no difference who calls it, or what has become of the caller
or becomes of it on the way. A cleanup without a time of its own is not begun for a caller that is
cancelled.
-/
set_option autoImplicit false

namespace Recovery

namespace Cleanup

variable {I : Interface} {α : Type} {c : Cleanup I α} {operation : Scope → Saga I α}
  {caller : Scope} {milliseconds : Nat} {script : Script I} {w : World I}

/-- The cleanup gave this result after so much time. It was handed a scope that neither its caller
nor a call can cancel, performed its operation once in there and put these marks on record, their
instants counted from its own beginning. In the end its scope was `stopped` or not. -/
structure Secluded (c : Cleanup I α) (operation : Scope → Saga I α) (milliseconds : Nat)
    (r : Except Fault α) (elapsed : Nat) (marks : List (Mark I)) (stopped : Bool) (caller : Scope)
    (script : Script I) (w : World I) (s : Scope) (v w' : World I) : Prop where
  opened : Task.onClock (Scope.detached milliseconds) script [] w = .done s v
  sheltered : v.Shelters script s
  unaffected : ∀ t ∈ caller.tokens, ∀ d : Clock, s.isCancelled (d.cancel t) = s.isCancelled d
  performed : ((operation s).run script [s.guard] v).world = w'
  result : (c.run caller).run script [] w = .done r w'
  now : w'.clock.now = w.clock.now + elapsed
  marks : w'.marks = w.marks ++ marks.map (Mark.shift w.clock.now)
  stopped : s.isCancelled w'.clock = stopped

/-- The cleanup goes the same way within another world, whoever calls it in the one or the other. -/
theorem mirrors_run {v : Inset I} (operates : c.operation = .inr operation)
    (timeout : c.timeout = some milliseconds)
    (mirrors : ∀ s, Task.Mirrors v Eq (operation s).run (operation (v.scope s)).run)
    (caller caller' : Scope) :
    Task.Mirrors v Eq (c.run caller).run (c.run caller').run := by
  have opened : Task.Mirrors v (fun s t => t = v.scope s)
      (Task.onClock (Scope.detached milliseconds)) (Task.onClock (Scope.detached milliseconds)) :=
    Task.mirrors_onClock (fun c => ⟨rfl, Scope.precedes_detached milliseconds c⟩)
      (fun d => ⟨rfl, Scope.precedes_detached milliseconds d⟩)
      fun _ _ shifted => Scope.detached_shift shifted milliseconds
  rw [run_eq operates, run_eq operates, scope, scope, timeout]
  refine opened.bind ?_
  rintro s _ rfl
  refine (Scope.mirrors_run _ (mirrors s)).bind ?_
  rintro r _ rfl
  exact Task.mirrors_pure rfl

/-- No other token that has been given away is one of a detached scope. -/
theorem isCancelled_detached_cancel {c : Clock} {t : Token} (given : t < c.fresh) (d : Clock) :
    (Scope.detached milliseconds c).1.isCancelled (d.cancel t) =
      (Scope.detached milliseconds c).1.isCancelled d := by
  have other : c.fresh ≠ t := Nat.ne_of_gt given
  have other' : c.fresh + 1 ≠ t := Nat.ne_of_gt (Nat.lt_succ_of_lt given)
  simp [Scope.isCancelled, Scope.detached, Scope.background, Scope.withTimeout, Scope.derive,
    Clock.issue, Clock.anyCancelled, Clock.cancel, other, other']

/-- Under no guards the operation is performed once, in a scope that is made for it. -/
theorem performed_of_done {r : Except Fault α} {w' : World I} (rooted : script.root < w.clock.fresh)
    (operates : c.operation = .inr operation) (timeout : c.timeout = some milliseconds)
    (h : (c.run caller).run script [] w = .done r w') :
    let s := (Scope.detached milliseconds w.clock).1
    ∃ v, Task.onClock (Scope.detached milliseconds) script [] w = .done s v ∧
      v.Shelters script s ∧ ((operation s).run script [s.guard] v).world = w' := by
  obtain ⟨s, v, r', opened, ran, -⟩ := (run_done operates).mp h
  rw [scope, timeout] at opened
  obtain ⟨-, sheltered, -⟩ := Scope.detached_done rooted opened
  have performed : ((operation s).run script [s.guard] v).world = w' :=
    (Scope.run_world sheltered.isCancelled).symm.trans (congrArg Step.world ran)
  have made := opened
  rw [Task.onClock_done _ script [] w rfl (Scope.precedes_detached ..)] at made
  obtain ⟨rfl, -⟩ := Step.done.inj made
  exact ⟨v, opened, sheltered, performed⟩

/-- One course for all callers: the one that the cleanup takes where there is none. -/
theorem exists_secluded (operates : c.operation = .inr operation)
    (timeout : c.timeout = some milliseconds) (heeds : ∀ s, (operation s).run.Heeds)
    (mirrors : ∀ (v : Inset I) (s : Scope),
      Task.Mirrors v Eq (operation s).run (operation (v.scope s)).run) (answers : Answers I) :
    ∃ r elapsed marks stopped, elapsed ≤ milliseconds ∧
      ∀ (caller : Scope) (script : Script I) (w : World I), script.root < w.clock.fresh →
        (∀ t ∈ caller.tokens, t < w.clock.fresh) →
        script.Continues (w.log.map Entry.call) answers →
        ∃ s v w', c.Secluded operation milliseconds r elapsed marks stopped caller script w s v
          w' := by
  -- the cleanup is run once at the beginning of time, and every other run is moved there
  let dawn : World I := ⟨.start, []⟩
  let nobody : Scope := ⟨[], none⟩
  have bounded : c.Bounded milliseconds :=
    ⟨timeout, fun _ operates' s => Sum.inr.inj (operates.symm.trans operates') ▸ heeds s⟩
  obtain ⟨r, u, ended, now⟩ := (bounded.lasts nobody (.calm answers) [] dawn).unguarded
  refine ⟨r, u.clock.now, u.marks, (Scope.detached milliseconds .start).1.isCancelled u.clock,
    Nat.le_trans now (Nat.le_of_eq (Nat.zero_add _)), ?_⟩
  intro caller script w rooted given continues
  let v : Inset I := ⟨⟨w.clock.fresh, w.clock.now⟩, w.marks, answers, script, rooted, continues⟩
  have shown : v.Shows dawn w := ⟨.start w.clock, (List.append_nil _).symm⟩
  have mirrored := mirrors_run operates timeout (mirrors v) nobody caller [] dawn w shown
  rw [show v.inner = .calm answers from rfl, ended] at mirrored
  obtain ⟨_, u', ran, rfl, shows⟩ := mirrored.of_done
  obtain ⟨v', opened, sheltered, performed⟩ := performed_of_done rooted operates timeout ran
  have shifted := (Scope.detached_shift (Clock.Shifted.start w.clock) milliseconds).1
  have stopped := Scope.isCancelled_shift shows.clock (Scope.detached milliseconds .start).1
  rw [← shifted] at stopped
  exact ⟨_, v', u', opened, sheltered, fun t mem => isCancelled_detached_cancel (given t mem),
    performed, ran, shows.clock.now, shows.marks, stopped⟩

/-- For a caller that is cancelled, a cleanup without a time of its own fails at once, whatever it
was to do: nothing but the token of its scope is new in the world. -/
theorem run_of_cancelled (operates : c.operation = .inr operation) (timeout : c.timeout = none)
    (guards : List Guard) (cancelled : caller.isCancelled w.clock = true) :
    (c.run caller).run script guards w =
      .done (.error (c.report (.cancelled (c.context.getD "cleanup"))))
        { w with clock := (caller.child w.clock).2 } := by
  have opened : Task.onClock (c.scope caller) script guards w =
      .done (caller.child w.clock).1 { w with clock := (caller.child w.clock).2 } := by
    rw [onClock_scope, scope, timeout]
  have child : (caller.child w.clock).1.isCancelled (caller.child w.clock).2 = true :=
    (caller.isCancelled_child w.clock).trans cancelled
  rw [run_eq operates, Task.bind_run, opened]
  dsimp only
  rw [Task.bind_run,
    Scope.run_of_cancelled (w := { w with clock := (caller.child w.clock).2 }) child]
  rfl

/-- A cleanup with a time of its own does not see its caller. For all callers, whether cancelled,
past their deadline or cancelled on the way, and wherever it is begun, it gives one and the same
result after one and the same time, which is no longer than its own. Without a time of its own it is
not begun for a caller that is cancelled, and without anything to do it is done. -/
theorem run_ignores_caller (c : Cleanup I α) :
    (∀ (conduct : Conduct I 1 (Except Fault α)) (milliseconds : Nat) (answers : Answers I),
      c.operation = .inr conduct.operation → c.timeout = some milliseconds →
      ∃ r elapsed marks stopped, elapsed ≤ milliseconds ∧
        ∀ (caller : Scope) (script : Script I) (w : World I), script.root < w.clock.fresh →
          (∀ t ∈ caller.tokens, t < w.clock.fresh) →
          script.Continues (w.log.map Entry.call) answers →
          ∃ s v w', c.Secluded conduct.operation milliseconds r elapsed marks stopped caller script
            w s v w') ∧
    (∀ (operation : Scope → Saga I α) (caller : Scope) (script : Script I) (guards : List Guard)
      (w : World I), c.operation = .inr operation → c.timeout = none →
      caller.isCancelled w.clock = true →
      (c.run caller).run script guards w =
        .done (.error (c.mapFault (match c.context with
          | some message => .context message (.cancelled message)
          | none => .cancelled "cleanup"))) { w with clock := (caller.child w.clock).2 }) ∧
    (∀ (value : α) (caller : Scope) (script : Script I) (guards : List Guard) (w : World I),
      c.operation = .inl value → (c.run caller).run script guards w = .done (.ok value) w) := by
  refine ⟨?detached, ?cancelled, ?nil⟩
  case detached =>
    intro conduct milliseconds answers operates timeout
    exact exists_secluded operates timeout conduct.heeds_operation
      (fun _ s => conduct.mirrors_operation s) answers
  case cancelled =>
    intro operation caller script guards w operates timeout cancelled
    rw [run_of_cancelled operates timeout guards cancelled, report]
    cases c.context <;> rfl
  case nil =>
    intro value caller script guards w done
    rw [run_nil done]
    rfl

/-- One call, which has nothing to say. -/
def Knock : Interface := ⟨Unit, fun _ => Unit⟩

/-- The call fails after a while. If it meddles it cancels the root before that. -/
def refusal (meddles : Bool) : Script Knock :=
  ⟨0, fun _ _ => ⟨meddles, false, 20, .error (.cancelled "knock")⟩⟩

def knocking : Cleanup Knock Unit := (Cleanup.of (Saga.call ())).withContext "knock once"

theorem run_ignores_caller_that_a_call_cancels :
    (∃ r w w', ((knocking.withTimeout 50).run .unbounded).run (refusal false) [] .initial =
        .done r w ∧
      ((knocking.withTimeout 50).run .unbounded).run (refusal true) [] .initial = .done r w' ∧
      w'.clock.now = w.clock.now ∧ w'.clock.now ≤ 50 ∧
      Scope.unbounded.isCancelled w.clock = false ∧
      Scope.unbounded.isCancelled w'.clock = true) ∧
    (∃ w, ((knocking.run .unbounded).run (refusal false) []
        ⟨Scope.unbounded.cancel (Scope.background .start).2, []⟩) =
      .done (.error (.context "knock once" (.cancelled "knock once"))) w ∧ w.marks = []) ∧
    ((nil () : Cleanup Knock Unit).run .unbounded).run (refusal true) [] .initial =
      .done (.ok ()) .initial := by
  have operates : (knocking.withTimeout 50).operation =
      .inr (Conduct.calls () .gives : Conduct Knock 1 (Except Fault Unit)).operation :=
    congrArg Sum.inr (funext fun _ => (bind_pure (Task.call (I := Knock) ())).symm)
  obtain ⟨r, elapsed, marks, stopped, short, course⟩ :=
    (run_ignores_caller (knocking.withTimeout 50)).1 _ 50 (refusal false).answer operates
      rfl
  obtain ⟨s, v, w, secluded⟩ := course .unbounded (refusal false) .initial Nat.zero_lt_one
    (by decide) fun _ _ => rfl
  obtain ⟨s', v', w', secluded'⟩ := course .unbounded (refusal true) .initial Nat.zero_lt_one
    (by decide) fun _ _ => rfl
  have now := secluded.now
  have now' := secluded'.now
  have start : (World.initial : World Knock).clock.now = 0 := rfl
  obtain ⟨-, rfl⟩ := Step.done.inj (secluded.result.symm.trans rfl)
  obtain ⟨-, rfl⟩ := Step.done.inj (secluded'.result.symm.trans rfl)
  refine ⟨⟨r, _, _, secluded.result, secluded'.result, now'.trans now.symm, by omega, rfl, rfl⟩,
    ⟨_, (run_ignores_caller knocking).2.1 _ .unbounded _ [] _ rfl rfl rfl, rfl⟩,
    (run_ignores_caller (nil ())).2.2 () .unbounded _ [] .initial rfl⟩

end Cleanup

end Recovery
