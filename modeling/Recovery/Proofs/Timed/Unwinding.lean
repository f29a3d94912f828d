import Recovery.Proofs.Fault.Tree
import Recovery.Proofs.Sequel
import Recovery.Proofs.Timed.Detachment
/-!
# Unwinding

What has been registered is undone in the opposite order, one cleanup after the other and all of
them, whatever becomes of any. The failures join the fault that was there before, if there was one,
in the order in which they come.
-/
set_option autoImplicit false

namespace Recovery

/-! ## Folding failures -/

namespace Fault

variable {α : Type} {slot : Except Fault α} {failures : List Fault} {f : Fault}

theorem foldInto_eq_error (some_error : ∀ e ∈ told slot ++ [f], e.errors ≠ []) :
    ∃ e, foldInto slot f = .error e ∧ e.errors = (told slot ++ [f]).flatMap errors := by
  cases slot with
  | ok a => exact ⟨f, rfl, (List.flatMap_singleton ..).symm⟩
  | error e =>
    refine ⟨_, rfl, ?_⟩
    rw [join_eq_aggregate (some_error e (by simp)) (some_error f (by simp))]
    simp

theorem errors_eq_nil {e : Fault} (nothing : e.errors = []) : e = .aggregate [] := by
  cases e with
  | aggregate es => exact congrArg Fault.aggregate nothing
  | _ => cases nothing

/-- Faults that are not empty are told one after the other, after what was told before them. -/
theorem told_foldl_foldInto (some_error : ∀ e ∈ told slot ++ failures, e.errors ≠ []) :
    (told (failures.foldl foldInto slot)).flatMap errors =
      (told slot ++ failures).flatMap errors := by
  induction failures generalizing slot with
  | nil => rw [List.foldl_nil, List.append_nil]
  | cons f failures ih =>
    rw [List.append_cons] at some_error ⊢
    obtain ⟨e, folded, tells⟩ :=
      foldInto_eq_error fun e member => some_error e (List.mem_append_left _ member)
    have rest : ∀ g ∈ told (.error e : Except Fault α) ++ failures, g.errors ≠ [] := by
      intro g member
      obtain rfl | later := List.mem_cons.mp member
      · rw [tells, List.flatMap_append, List.flatMap_singleton]
        exact List.append_ne_nil_of_right_ne_nil _ (some_error f (by simp))
      · exact some_error g (List.mem_append_right _ later)
    rw [List.foldl_cons, folded, ih rest, told_error, List.flatMap_append, List.flatMap_singleton,
      tells, ← List.flatMap_append]

/-- What has failed is an error in the end. -/
theorem foldl_foldInto_eq_error (some_failure : failures ≠ [])
    (some_error : ∀ e ∈ told slot ++ failures, e.errors ≠ []) :
    ∃ e, failures.foldl foldInto slot = .error e ∧
      e.errors = (told slot).flatMap errors ++ failures.flatMap errors := by
  have tells := told_foldl_foldInto some_error
  rw [List.flatMap_append] at tells
  cases folded : failures.foldl foldInto slot with
  | error e =>
    rw [folded, told_error, List.flatMap_singleton] at tells
    exact ⟨e, rfl, tells⟩
  | ok a =>
    obtain ⟨f, rest, rfl⟩ := List.exists_cons_of_ne_nil some_failure
    rw [folded, told_ok, List.flatMap_nil, List.flatMap_cons] at tells
    have none_told := (List.append_eq_nil_iff.mp tells.symm).2
    exact absurd (List.append_eq_nil_iff.mp none_told).1 (some_error f (by simp))

end Fault

namespace Cleanup

variable {I : Interface} {α β : Type} {script : Script I} {guards : List Guard} {w w' : World I}
  {caller : Scope}

/-! ## Turns -/

/-- A cleanup takes its turn in one world and leaves another, with a failure if it had one. -/
structure Turn (I : Interface) where
  cleanup : Cleanup I Unit
  before : World I
  after : World I
  failure : Option Fault

namespace Turn

/-- The scope that the cleanup is handed. -/
def scope (caller : Scope) (t : Turn I) : Scope := (t.cleanup.scope caller t.before.clock).1

/-- The world as that scope is made: nothing but its tokens is new. -/
def opened (caller : Scope) (t : Turn I) : World I :=
  { t.before with clock := (t.cleanup.scope caller t.before.clock).2 }

def title (t : Turn I) : String := t.cleanup.context.getD "cleanup"

/-- What fails the cleanup is put into its context, if it has one, and then changed. -/
structure FailsOf (t : Turn I) (cause : Fault) : Prop where
  bare : t.cleanup.context = none → t.failure = some (t.cleanup.mapFault cause)
  under : ∀ message, t.cleanup.context = some message →
    t.failure = some (t.cleanup.mapFault (.context message cause))

/-- The operation is performed once in the scope, to its end or to that of the scope. -/
inductive Performs (caller : Scope) (script : Script I) (guards : List Guard)
    (operation : Saga I Unit) (t : Turn I) : Prop where
  | succeeds : operation.run script ((t.scope caller).guard :: guards) (t.opened caller) =
      .done (.ok ()) t.after → t.failure = none → Performs caller script guards operation t
  | fails {fault : Fault} :
    operation.run script ((t.scope caller).guard :: guards) (t.opened caller) =
      .done (.error fault) t.after → t.FailsOf fault → Performs caller script guards operation t
  | cut {why : Interrupt} :
    operation.run script ((t.scope caller).guard :: guards) (t.opened caller) =
      .interrupted guards.length why t.after → t.FailsOf (why.fault t.title) →
    Performs caller script guards operation t

/-- A cleanup with something to do is begun, unless it has no time of its own and its caller is
cancelled at that point. -/
inductive Goes (caller : Scope) (script : Script I) (guards : List Guard) (t : Turn I) : Prop where
  | nil : t.cleanup.operation = .inl () → t.after = t.before → t.failure = none →
    Goes caller script guards t
  | refused {operation : Scope → Saga I Unit} : t.cleanup.operation = .inr operation →
    t.cleanup.timeout = none → caller.isCancelled t.before.clock = true →
    t.after = t.opened caller → t.FailsOf (.cancelled t.title) → Goes caller script guards t
  | begun {operation : Scope → Saga I Unit} : t.cleanup.operation = .inr operation →
    (t.cleanup.timeout = none → caller.isCancelled t.before.clock = false) →
    t.Performs caller script guards (operation (t.scope caller)) → Goes caller script guards t

theorem failsOf_report {t : Turn I} {cause : Fault}
    (failed : t.failure = some (t.cleanup.report cause)) : t.FailsOf cause where
  bare none := by rw [failed, report, none]
  under message some := by rw [failed, report, some]

end Turn

/-- What is begun in an open scope is performed, and its result is that of the turn. -/
theorem exists_performs {c : Cleanup I Unit} {operation : Saga I Unit} {r : Except Fault Unit}
    (unstopped : (c.scope caller w.clock).1.isCancelled (c.scope caller w.clock).2 = false)
    (ended : ((c.scope caller w.clock).1.run (c.context.getD "cleanup") operation).run script guards
      { w with clock := (c.scope caller w.clock).2 } = .done r w') :
    ∃ failure, (⟨c, w, w', failure⟩ : Turn I).Performs caller script guards operation ∧
      Fault.told (r.mapError c.report) = failure.toList := by
  obtain inside | ⟨why, inside, rfl⟩ :=
    (Scope.run_done (w := { w with clock := (c.scope caller w.clock).2 }) unstopped).mp ended
  · cases r with
    | ok done => exact ⟨none, .succeeds inside rfl, rfl⟩
    | error fault =>
      exact ⟨some (c.report fault), .fails inside (Turn.failsOf_report rfl), rfl⟩
  · exact ⟨some (c.report _), .cut inside (Turn.failsOf_report rfl), rfl⟩

theorem exists_goes {c : Cleanup I Unit} {cleaned : Except Fault Unit}
    (ended : (c.run caller).run script guards w = .done cleaned w') :
    ∃ failure, (⟨c, w, w', failure⟩ : Turn I).Goes caller script guards ∧
      Fault.told cleaned = failure.toList := by
  cases operates : c.operation with
  | inl value =>
    rw [run_nil operates] at ended
    obtain ⟨rfl, rfl⟩ := Task.pure_done.mp ended
    exact ⟨none, .nil operates rfl rfl, rfl⟩
  | inr operation =>
    obtain ⟨s, v, r, opened, inside, rfl⟩ := (run_done operates).mp ended
    rw [onClock_scope] at opened
    obtain ⟨rfl, rfl⟩ := Step.done.inj opened
    have stopped := isCancelled_scope c caller w.clock
    cases refused : c.timeout.isNone && caller.isCancelled w.clock with
    | true =>
      -- a child of a cancelled scope has nothing begun in it
      obtain ⟨untimed, cancelled⟩ := Bool.and_eq_true_iff.mp refused
      rw [Scope.run_of_cancelled (w := { w with clock := (c.scope caller w.clock).2 })
        (stopped.trans refused)] at inside
      obtain ⟨rfl, rfl⟩ := Step.done.inj inside
      exact ⟨some (c.report _), .refused operates (Option.isNone_iff_eq_none.mp untimed) cancelled
        rfl (Turn.failsOf_report rfl), rfl⟩
    | false =>
      obtain ⟨failure, performs, tells⟩ := exists_performs (stopped.trans refused) inside
      refine ⟨failure, .begun operates (fun untimed => ?_) performs, tells⟩
      rwa [untimed, Option.isNone_none, Bool.true_and] at refused

theorem folded_eq_foldl (slot : Except Fault β) (cleaned : Except Fault α) :
    folded slot cleaned = (Fault.told cleaned).foldl Fault.foldInto slot := by
  cases cleaned <;> rfl

theorem exists_turns {stack : List (Cleanup I Unit)} {slot r : Except Fault β}
    (ended : unwind caller slot stack script guards w = .done r w') :
    ∃ turns : List (Turn I), turns.map Turn.cleanup = stack ∧
      Sequel Turn.before Turn.after w turns w' ∧ (∀ t ∈ turns, t.Goes caller script guards) ∧
      r = (turns.filterMap Turn.failure).foldl Fault.foldInto slot := by
  -- the rest of the stack is unwound from the world and with the result that its head leaves
  induction stack generalizing slot w with
  | nil =>
    obtain ⟨rfl, rfl⟩ := Task.pure_done.mp ended
    exact ⟨[], rfl, .nil, List.forall_mem_nil _, rfl⟩
  | cons c stack ih =>
    obtain ⟨slot', v, first, rest⟩ := Task.bind_done.mp ended
    obtain ⟨cleaned, ran, rfl⟩ := foldInto_done.mp first
    obtain ⟨failure, goes, tells⟩ := exists_goes ran
    obtain ⟨turns, cleanups, sequel, go, rfl⟩ := ih rest
    let t : Turn I := ⟨c, w, v, failure⟩
    have whole : Sequel Turn.before Turn.after t.before (t :: turns) w' := sequel.cons
    refine ⟨t :: turns, ?_, whole, List.forall_mem_cons.mpr ⟨goes, go⟩, ?_⟩
    · rw [List.map_cons, cleanups]
    · rw [folded_eq_foldl, tells]
      cases failure <;> rfl

/-- The cleanups of a stack have had these turns, and this is what has become of the result. -/
structure Unwinds (caller : Scope) (script : Script I) (guards : List Guard)
    (stack : List (Cleanup I Unit)) (slot r : Except Fault β) (w w' : World I)
    (turns : List (Turn I)) : Prop where
  in_order : turns.map Turn.cleanup = stack
  one_by_one : Sequel Turn.before Turn.after w turns w'
  goes : ∀ t ∈ turns, t.Goes caller script guards
  unchanged : (∀ t ∈ turns, t.failure = none) → r = slot
  joined : (∃ t ∈ turns, t.failure ≠ none) →
    (∀ e ∈ Fault.told slot ++ turns.filterMap Turn.failure, e ≠ .aggregate []) →
    ∃ e, r = .error e ∧ e.errors = (Fault.told slot).flatMap Fault.errors ++
      (turns.filterMap Turn.failure).flatMap Fault.errors

/-- All cleanups have their turns, the one registered last first, each in the world that the one
before it has left. Their failures are told in that order after the fault that was there before;
without any the result stays as it was. -/
theorem unwind_takes_turns (registered : List (Cleanup I Unit)) {slot r : Except Fault β}
    (ended : unwind caller slot registered.reverse script guards w = .done r w') :
    ∃ turns, Unwinds caller script guards registered.reverse slot r w w' turns := by
  obtain ⟨turns, cleanups, sequel, go, rfl⟩ := exists_turns ended
  refine ⟨turns, cleanups, sequel, go, ?unchanged, ?joined⟩
  case unchanged =>
    intro well
    rw [List.filterMap_eq_nil_iff.mpr well, List.foldl_nil]
  case joined =>
    rintro ⟨t, member, failed⟩ solid
    apply Fault.foldl_foldInto_eq_error
    · exact fun none => failed (List.filterMap_eq_nil_iff.mp none t member)
    · exact fun e told nothing => solid e told (Fault.errors_eq_nil nothing)

/-- Registered last and so run first, a cleanup cancels its caller and fails; the time of the next
one is up before it gets an answer; then one has nothing to do, and the last is refused. -/
def knocks : List (Cleanup Knock Unit) :=
  [knocking.withMapFault (.phase .cleanup "knock"), nil (), knocking.withTimeout 10,
    knocking.withTimeout 50]

theorem unwind_takes_turns_of_knocks :
    let slot : Except Fault Unit := .error (.aggregate [.plain "a", .plain "b"])
    let r : Except Fault Unit := .error (.aggregate [.plain "a", .plain "b",
      .context "knock once" (.cancelled "knock"),
      .context "knock once" (.deadlineExceeded "knock once"),
      .phase .cleanup "knock" (.context "knock once" (.cancelled "knock once"))])
    ∃ w', unwind .unbounded slot knocks.reverse (refusal true) [] .initial = .done r w' ∧
      ∃ turns, Unwinds .unbounded (refusal true) [] knocks.reverse slot r .initial w' turns := by
  intro slot r
  have ended : ∃ w', unwind .unbounded slot knocks.reverse (refusal true) [] .initial =
      .done r w' := ⟨_, rfl⟩
  obtain ⟨w', ended⟩ := ended
  exact ⟨w', ended, unwind_takes_turns knocks ended⟩

end Cleanup

end Recovery
