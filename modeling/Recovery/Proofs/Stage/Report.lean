import Recovery.Proofs.Stage.Course
import Recovery.Proofs.Stage.Run
/-!
# What a run does and what it reports

For whatever actions and provisioner, a run that ends has gone through the phases in order and has
taken down and cleaned up on every path, and its result is the exact report of what failed.
-/
set_option autoImplicit false

namespace Recovery

namespace Stage

variable {I : Interface} {A H : Type} [Action I A] {scope : Scope} {provisioner : Provisioner I H}
  {o : StageOptions} {actions : List (NamedAction A)} {script : Script I} {guards : List Guard}
  {w w' : World I} {r : Except Fault Unit}

/-- A run succeeds if none of its turns fails. Otherwise its result comes to the failures of the
turns, each with its phase and name and in the order of the turns, and blames the first. -/
theorem run_reports_failures (rooted : script.root < w.clock.fresh)
    (ended : (run scope provisioner o actions).run script guards w = .done r w') :
    ∃ turns, Turns scope provisioner o.cleanupTimeout script guards w turns w' ∧
      Course provisioner o.seed actions turns ∧
      (r = .ok () ↔ ∀ t ∈ turns, t.failure? provisioner = none) ∧
      ∀ f, r = .error f →
        f.errors = (failures provisioner turns).map Failure.fault ∧
        f.failedPhase = (failures provisioner turns).head?.map fun x => (x.phase, x.name) := by
  obtain ⟨turns, taken, course, reports⟩ := run_turns rooted ended
  refine ⟨turns, taken, course, reports.succeeds, fun f same => ?_⟩
  subst same
  exact ⟨reports.errors, reports.blames⟩

/-- A pod that the API refuses to delete. -/
theorem run_reports_refused_pod :
    ∃ r w', (run .unbounded Worker.provisioner restorationOptions [restoration]).run
        (Cloud.grudging .pod (.immediate (.error (.plain "forbidden")))) [] .initial =
          .done r w' ∧
      r.isOk = false ∧
      ∃ turns, Turns .unbounded Worker.provisioner 120000
          (Cloud.grudging .pod (.immediate (.error (.plain "forbidden")))) [] .initial turns w' ∧
        Course Worker.provisioner restorationOptions.seed [restoration] turns ∧
        (r = .ok () ↔ ∀ t ∈ turns, t.failure? Worker.provisioner = none) ∧
        ∀ f, r = .error f →
          f.errors = (failures Worker.provisioner turns).map Failure.fault ∧
          f.failedPhase =
            (failures Worker.provisioner turns).head?.map fun x => (x.phase, x.name) := by
  have ends : ∃ r w', (run .unbounded Worker.provisioner restorationOptions [restoration]).run
      (Cloud.grudging .pod (.immediate (.error (.plain "forbidden")))) [] .initial =
        .done r w' ∧ r.isOk = false := ⟨_, _, rfl, rfl⟩
  obtain ⟨r, w', ended, failed⟩ := ends
  exact ⟨r, w', ended, failed, run_reports_failures Nat.zero_lt_one ended⟩

end Stage

end Recovery
