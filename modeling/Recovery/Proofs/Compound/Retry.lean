import Recovery.Proofs.Compound.Release
import Recovery.Proofs.Sequel
import Recovery.Proofs.Worker.Teardown
/-!
# Deleting a compound again and again

A deletion that fails in part is taken up by a later one. Whatever scopes the deletions run in and
however their calls come out, nothing is released twice and nothing is forgotten: what a compound
holds is just what none of them has released so far.
-/
set_option autoImplicit false

namespace Recovery

variable {Other : Interface}

namespace Compound

/-- A deletion that returned: the compound it was given and the one it left, with the attempts that
it made between. -/
structure Deletion (Other : Interface) where
  scope : Scope
  script : Script (Cloud Other)
  guards : List Guard
  start : World (Cloud Other)
  finish : World (Cloud Other)
  before : Compound
  after : Compound
  result : Except Fault Unit
  attempts : List (Attempt (Cloud Other))
  returned : before.delete scope script guards start = .done (result, after) finish
  makes : start.Makes script attempts finish

/-- Deletions of one compound after the other. -/
abbrev Retries : Compound → List (Deletion Other) → Compound → Prop :=
  Sequel Deletion.before Deletion.after

/-- What a deletion does, given those before it that began with the compound `first`. -/
structure Deletion.Resumes (first : Compound) (past : List (Deletion Other)) (d : Deletion Other) :
    Prop where
  /-- Held is what none of them has released. -/
  before : ∀ x, x ∈ d.before.holdings ↔
    x ∈ first.holdings ∧ ∀ e ∈ past, ¬ x.ReleasedBy e.attempts
  /-- Attempted is only what is held, each at most once and in order. -/
  attempts : (d.attempts.map Attempt.call).Sublist (d.before.holdings.map Holding.release)
  after : ∀ x, x ∈ d.after.holdings ↔ x ∈ d.before.holdings ∧ ¬ x.ReleasedBy d.attempts
  ordered : d.after.holdings.Sublist d.before.holdings
  ok : d.result.isOk = d.after.isEmpty
  /-- After a success nothing is attempted any more. -/
  settled : (∃ e ∈ past, e.result.isOk = true) → d.attempts = [] ∧ d.result = .ok ()
  /-- In a scope that has not been cancelled everything is attempted, whatever becomes of it. -/
  thorough : d.scope.isCancelled d.finish.clock = false →
    d.attempts.map Attempt.call = d.before.holdings.map Holding.release
  /-- A failure lists a fault for each thing that is still held, in order. -/
  errors : ∀ f, d.result = .error f →
    List.Forall₂ (Holding.Kept (d.scope.isCancelled d.finish.clock = true) d.attempts)
      d.after.holdings f.errors

namespace Deletion

variable (d : Deletion Other)

theorem releases : ∃ faults, Releases (d.scope.isCancelled d.finish.clock = true)
    d.before.holdings d.attempts d.after.holdings faults ∧ d.result = Part.settle faults := by
  obtain ⟨attempts, faults, makes, releases, settles⟩ := delete_releases d.returned
  rw [d.makes.unique makes]
  exact ⟨faults, releases, settles⟩

theorem ordered : d.after.holdings.Sublist d.before.holdings := by
  obtain ⟨faults, releases, -⟩ := d.releases
  exact releases.kept_sublist

theorem mem_after (once : d.before.holdings.Nodup) {x : Holding} :
    x ∈ d.after.holdings ↔ x ∈ d.before.holdings ∧ ¬ x.ReleasedBy d.attempts := by
  obtain ⟨faults, releases, -⟩ := d.releases
  exact releases.mem_kept (nodup_release once)

/-- A deletion succeeds just if nothing is held any more. -/
theorem isOk_iff : d.result.isOk = true ↔ d.after.holdings = [] := by
  obtain ⟨faults, releases, settles⟩ := d.releases
  have none : faults = [] ↔ d.after.holdings = [] := by
    rw [← List.length_eq_zero_iff, ← releases.blames.length_eq, List.length_eq_zero_iff]
  rw [settles, ← none, ← Fault.ofList?_eq_none releases.single, Part.settle]
  cases Fault.ofList? faults with
  | none => exact iff_of_true rfl rfl
  | some f => exact iff_of_false Bool.false_ne_true (Option.some_ne_none f)

theorem attempts_of_empty (empty : d.before.holdings = []) :
    d.attempts = [] ∧ d.result = .ok () := by
  obtain ⟨faults, releases, settles⟩ := d.releases
  rw [empty] at releases
  obtain ⟨nothing, rfl⟩ := releases.of_nil
  exact ⟨nothing, settles⟩

theorem errors {f : Fault} (failed : d.result = .error f) :
    List.Forall₂ (Holding.Kept (d.scope.isCancelled d.finish.clock = true) d.attempts)
      d.after.holdings f.errors := by
  obtain ⟨faults, releases, settles⟩ := d.releases
  rw [settles, Part.settle] at failed
  cases joined : Fault.ofList? faults with
  | none =>
    rw [joined] at failed
    cases failed
  | some g =>
    rw [joined] at failed
    cases failed
    rw [Fault.errors_of_ofList? releases.single joined]
    exact releases.blames

end Deletion

namespace Retries

variable {first last : Compound} {past : List (Deletion Other)}

theorem sublist (h : Retries first past last) : last.holdings.Sublist first.holdings := by
  induction h with
  | nil => exact List.Sublist.refl _
  | @snoc past d _ ih => exact d.ordered.trans ih

/-- What is held in the end is what none of the deletions has released. -/
theorem mem_holdings (h : Retries first past last) (once : first.holdings.Nodup) {x : Holding} :
    x ∈ last.holdings ↔ x ∈ first.holdings ∧ ∀ e ∈ past, ¬ x.ReleasedBy e.attempts := by
  induction h with
  | nil => simp
  | @snoc past d before ih =>
    rw [d.mem_after (once.sublist (sublist before)), ih, List.forall_mem_append,
      List.forall_mem_singleton, and_assoc]

theorem eq_nil_of_ok (h : Retries first past last)
    (succeeded : ∃ e ∈ past, e.result.isOk = true) : last.holdings = [] := by
  induction h with
  | nil =>
    obtain ⟨e, mem, -⟩ := succeeded
    cases mem
  | @snoc past d _ ih =>
    obtain ⟨e, mem, ok⟩ := succeeded
    rcases List.mem_append.mp mem with mem | mem
    · have below := d.ordered
      rw [ih ⟨e, mem, ok⟩] at below
      exact List.sublist_nil.mp below
    · obtain rfl := List.mem_singleton.mp mem
      exact e.isOk_iff.mp ok

end Retries

/-- Deletions of a compound, in whatever scopes and however their calls come out, resume each other:
each attempts only what is held and has not been released before, leaves just what it has not
released, in a scope that is not cancelled attempts all of it, succeeds just if nothing is left, and
otherwise lists a fault for each thing that is left. -/
theorem retries_resume {first last : Compound} {history : List (Deletion Other)}
    (once : first.holdings.Nodup) (retries : Retries first history last)
    {past later : List (Deletion Other)} {d : Deletion Other}
    (now : history = past ++ d :: later) : d.Resumes first past := by
  subst now
  have before := retries.earlier
  have nodup := once.sublist (Retries.sublist before)
  obtain ⟨faults, releases, -⟩ := d.releases
  exact {
    before := fun x => Retries.mem_holdings before once
    attempts := releases.calls_sublist
    after := fun x => d.mem_after nodup
    ordered := d.ordered
    ok := by rw [Bool.eq_iff_iff, d.isOk_iff, isEmpty_iff]
    settled := fun succeeded => d.attempts_of_empty (Retries.eq_nil_of_ok before succeeded)
    thorough := fun going => releases.calls (by rw [going]; exact Bool.false_ne_true)
    errors := fun f => d.errors }

/-- A pod that is refused to be deleted at first and deleted by the next deletion. -/
theorem retries_resume_of_refused_pod :
    ∃ d e : Deletion .silent, d.before = .worker Worker.sample ∧
      d.after = .worker { Worker.sample with parts := [⟨.pod, "worker"⟩], connected := false } ∧
      e.before = d.after ∧ e.result = .ok () ∧ e.after.isEmpty = true ∧
      e.Resumes (.worker Worker.sample) [d] := by
  have first : ∃ r w', (worker Worker.sample).delete .unbounded
      (Cloud.grudging .pod ⟨false, false, 0, .error (.plain "refused")⟩) [] .initial =
        .done (r, .worker { Worker.sample with parts := [⟨.pod, "worker"⟩], connected := false })
          w' := ⟨_, _, rfl⟩
  have second : ∃ w', (worker { Worker.sample with
        parts := [⟨.pod, "worker"⟩], connected := false }).delete .unbounded
      (Cloud.parting (.immediate (.ok ()))) [] .initial =
        .done (.ok (), .worker { Worker.sample with parts := [], connected := false }) w' :=
    ⟨_, rfl⟩
  obtain ⟨r, w', returned⟩ := first
  obtain ⟨w'', returned'⟩ := second
  obtain ⟨attempts, -, makes, -⟩ := delete_releases returned
  obtain ⟨attempts', -, makes', -⟩ := delete_releases returned'
  let d : Deletion .silent := ⟨_, _, _, _, _, _, _, _, _, returned, makes⟩
  let e : Deletion .silent := ⟨_, _, _, _, _, _, _, _, _, returned', makes'⟩
  have once : (worker Worker.sample).holdings.Nodup := by decide
  have one : Retries (.worker Worker.sample) ([] ++ [d]) d.after := .snoc .nil
  have retries : Retries (.worker Worker.sample) ([d] ++ [e]) e.after := .snoc one
  refine ⟨d, e, rfl, rfl, rfl, rfl, rfl, ?_⟩
  exact retries_resume once retries (show [d] ++ [e] = [d] ++ e :: [] from rfl)

end Compound

end Recovery
