import Recovery.Proofs.Recipe.Validation
import Recovery.Proofs.Stage.Run
/-!
# Validations that fail

The actions of a stage are validated one after another until one is refused. Nothing has been made
by then, and the cleanups that follow do nothing.
-/
set_option autoImplicit false

namespace Recovery

/-! ## Cleanups that do nothing -/

namespace Cleanup

variable {I : Interface} {β : Type} {script : Script I} {guards : List Guard} {w : World I}

/-- Has a time of its own and nothing to do in it. -/
structure Void (c : Cleanup I Unit) : Prop where
  timed : c.timeout.isSome
  operation : c.operation = .inr fun _ => pure ()

theorem Void.run_done {c : Cleanup I Unit} (h : c.Void) (caller : Scope) :
    ∃ w', (c.run caller).run script guards w = .done (.ok ()) w' ∧ w'.marks = w.marks := by
  have opened : (c.scope caller w.clock).1.isCancelled (c.scope caller w.clock).2 = false := by
    rw [isCancelled_scope, Option.isNone_eq_false_iff.mpr h.timed, Bool.false_and]
  refine ⟨{ w with clock := (c.scope caller w.clock).2 }, ?_, rfl⟩
  refine (Cleanup.run_done h.operation).mpr ⟨_, _, .ok (), c.onClock_scope caller, ?_, rfl⟩
  exact (Scope.run_done opened).mpr (.inl rfl)

theorem unwind_void {stack : List (Cleanup I Unit)} (void : ∀ c ∈ stack, c.Void) (caller : Scope)
    (result : Except Fault β) :
    ∃ w', unwind caller result stack script guards w = .done result w' ∧ w'.marks = w.marks := by
  induction stack generalizing w with
  | nil => exact ⟨w, rfl, rfl⟩
  | cons c stack ih =>
    obtain ⟨first, rest⟩ := List.forall_mem_cons.mp void
    obtain ⟨v, ran, same⟩ := first.run_done caller
    obtain ⟨w', unwound, same'⟩ := ih rest
    exact ⟨w', Task.bind_done.mpr ⟨result, v, foldInto_done.mpr ⟨_, ran, rfl⟩, unwound⟩,
      same'.trans same⟩

end Cleanup

namespace Stage

variable {Other : Interface} {H : Type} {script : Script (Cloud Other)} {guards : List Guard}
  {scope : Scope} {actions : List (NamedAction Recipe)} {w u : World (Cloud Other)}
  {fault : Fault}

theorem cleanups_void (timeout : Nat) (new : ∀ a ∈ actions, a.action.IsNew) :
    ∀ c ∈ (cleanups timeout actions : List (Cleanup (Cloud Other) Unit)), c.Void := by
  intro c mem
  obtain ⟨a, kept, rfl⟩ := List.mem_map.mp (List.mem_reverse.mp mem)
  have new := new a (List.mem_filter.mp kept).1
  refine ⟨rfl, ?_⟩
  show Sum.inr _ = _
  exact congrArg Sum.inr (funext fun scope => Recipe.evalFrom_cleanup_new new scope)

/-! ## What is asked -/

/-- What is read for the actions, once at most for each. -/
def lookups (actions : List (NamedAction Recipe)) : List (Cloud Other).Call :=
  actions.filterMap (·.action.lookup?)

theorem lookups_cons (a : NamedAction Recipe) (actions : List (NamedAction Recipe)) :
    (lookups (a :: actions) : List (Cloud Other).Call) =
      a.action.lookup?.toList ++ lookups actions := by
  rw [lookups, List.filterMap_cons]
  cases (a.action.lookup? : Option (Cloud Other).Call) <;> rfl

theorem finds_of_mem_lookups {c : (Cloud Other).Call} (mem : c ∈ lookups actions) :
    CloudCall.Finds c := by
  obtain ⟨a, -, found⟩ := List.mem_filterMap.mp mem
  exact Recipe.finds_lookup found

/-- The actions have been validated up to one that was refused; if that is malformed, nothing was
read for it. -/
inductive Refused (actions : List (NamedAction Recipe)) (fault : Fault) :
    List (Cloud Other).Call → Prop where
  | malformed (before after : List (NamedAction Recipe)) (a : NamedAction Recipe) {why : Fault} :
    actions = before ++ a :: after → fault = .phase .validate a.name why → a.action.Malformed →
    Refused actions fault (lookups before)
  | unfit (before after : List (NamedAction Recipe)) (a : NamedAction Recipe) {why : Fault} :
    actions = before ++ a :: after → fault = .phase .validate a.name why → ¬ a.action.Malformed →
    Refused actions fault (lookups (before ++ [a]))

namespace Refused

variable {asked : List (Cloud Other).Call}

theorem cons (h : Refused actions fault asked) (a : NamedAction Recipe) :
    Refused (a :: actions) fault (a.action.lookup?.toList ++ asked) := by
  cases h with
  | malformed before after b whole blamed malformed =>
    rw [← lookups_cons]
    exact .malformed (a :: before) after b (congrArg (a :: ·) whole) blamed malformed
  | unfit before after b whole blamed wellformed =>
    rw [← lookups_cons]
    exact .unfit (a :: before) after b (congrArg (a :: ·) whole) blamed wellformed

theorem finds (h : Refused actions fault asked) : ∀ c ∈ asked, CloudCall.Finds c := by
  cases h with
  | malformed => exact fun _ => finds_of_mem_lookups
  | unfit => exact fun _ => finds_of_mem_lookups

end Refused

theorem validateAll_refused
    (failed : (validateAll scope actions : Saga (Cloud Other) Unit).run script guards w =
      .done (.error fault) u) :
    ∃ asked, u.asked id = w.asked id ++ asked ∧ Refused actions fault asked := by
  induction actions generalizing w with
  | nil => cases failed
  | cons a actions ih =>
    rcases Saga.bind_done.mp failed with ⟨_, v, one, failed⟩ | ⟨_, one, same⟩
    · obtain ⟨result, ran, passed⟩ := Task.map_done.mp one
      obtain rfl := mapError_eq_ok_iff.mp passed
      obtain ⟨asked, all, refused⟩ := ih failed
      refine ⟨_, ?_, refused.cons a⟩
      rw [all, Recipe.validate_ok ran, List.append_assoc]
    · obtain ⟨result, ran, blamed⟩ := Task.map_done.mp one
      obtain ⟨why, rfl, rfl⟩ := mapError_eq_error_iff.mp blamed
      obtain rfl := Except.error.inj same
      rcases Recipe.validate_error ran with ⟨malformed, rfl⟩ | ⟨wellformed, asked⟩
      · exact ⟨_, (List.append_nil _).symm, .malformed [] actions a rfl rfl malformed⟩
      · refine ⟨_, ?_, .unfit [] actions a rfl rfl wellformed⟩
        rw [asked, List.nil_append, lookups_cons]
        exact congrArg _ (List.append_nil _).symm

/-- A stage whose validation fails ends with that, and nothing but reads has been asked. -/
theorem failed_validation_touches_nothing (provisioner : Provisioner (Cloud Other) H)
    (o : StageOptions) (new : ∀ a ∈ actions, a.action.IsNew)
    (failed : (validateAll scope actions : Saga (Cloud Other) Unit).run script guards w =
      .done (.error fault) u) :
    (∃ asked w', (run scope provisioner o actions).run script guards w = .done (.error fault) w' ∧
        w'.log.map Entry.call = w.log.map Entry.call ++ asked ∧ Refused actions fault asked ∧
        ∀ c ∈ asked, CloudCall.Finds c) ∧
      ∀ a : Recipe, a.Malformed → ∀ (scope : Scope) (script : Script (Cloud Other))
        (guards : List Guard) (w : World (Cloud Other)), ∃ what why,
          (Action.validate a scope : Saga (Cloud Other) Unit).run script guards w =
            .done (.error (.validation what why)) w := by
  constructor
  · obtain ⟨asked, all, refused⟩ := validateAll_refused failed
    have ended : phases scope provisioner o actions script guards w =
        .done (.error fault, actions) u := Task.bind_done.mpr ⟨.error fault, u, failed, rfl⟩
    obtain ⟨w', unwound, same⟩ : ∃ w', Cleanup.unwind scope (.error fault)
        (cleanups o.cleanupTimeout actions) script guards u = .done (.error fault) w' ∧
          w'.marks = u.marks := Cleanup.unwind_void (cleanups_void _ new) scope _
    refine ⟨asked, w', Task.bind_done.mpr ⟨_, u, ended, unwound⟩, ?_, refused, refused.finds⟩
    rw [World.log, same]
    exact all
  · intro a malformed scope script guards w
    obtain ⟨what, why, refused⟩ := Recipe.validate_malformed Other malformed scope
    exact ⟨what, why, by rw [refused]; rfl⟩

/-- Backs up the files of a claim. -/
def copying (claim : String) : NamedAction Recipe where
  name := "copy"
  action := .volumeBackup ⟨"prod", claim, "dr", none, none, .default, none⟩

/-- A claim that does not exist is found out after a look at the cluster that is restored. -/
theorem failed_validation_touches_nothing_of_absent_claim :
    ∃ fault u, (validateAll .unbounded [restoration, copying "files", copying "dr"]).run
        (Cloud.parting (.immediate (.ok ()))) [] .initial = .done (.error fault) u ∧
      ∃ asked w', (run .unbounded Worker.provisioner restorationOptions
          [restoration, copying "files", copying "dr"]).run
          (Cloud.parting (.immediate (.ok ()))) [] .initial = .done (.error fault) w' ∧
        w'.log.map Entry.call = [] ++ asked ∧
        Refused [restoration, copying "files", copying "dr"] fault asked ∧
        ∀ c ∈ asked, CloudCall.Finds c := by
  have fails : ∃ fault u, (validateAll .unbounded [restoration, copying "files", copying "dr"]).run
      (Cloud.parting (.immediate (.ok ()))) [] .initial = .done (.error fault) u := ⟨_, _, rfl⟩
  have new : ∀ a ∈ [restoration, copying "files", copying "dr"], a.action.IsNew := by
    simp [restoration, copying, Recipe.IsNew]
  obtain ⟨fault, u, failed⟩ := fails
  exact ⟨fault, u, failed,
    (failed_validation_touches_nothing Worker.provisioner restorationOptions new failed).1⟩

end Stage

end Recovery
