import Recovery.Proofs.Cloud.Attempt
import Recovery.Proofs.Recipe.Heed
import Recovery.Proofs.Worker.Account
/-!
# What is deleted of a worker

The pod and the service are deleted whatever becomes of each other. The client is closed before
them and outside the scope that each deletion runs in, so that a close which outlasts the cleanup
takes all of its time and neither is deleted.
-/
set_option autoImplicit false

namespace Recovery

namespace Worker

section Teardown

variable {Other : Interface} {script : Script (Cloud Other)} {guards : List Guard}
  {w w' : World (Cloud Other)} {worker worker' : Worker} {limit : Nat}

/-- The client, if one is connected, takes no longer than this to close from here. -/
def ClosesInTime (worker : Worker) (script : Script (Cloud Other)) (w : World (Cloud Other))
    (limit : Nat) : Prop :=
  worker.connected = true →
    let outcome := script.answer (w.log.map Entry.call) .closeClient
    outcome.hangs = false ∧ outcome.delay ≤ limit

/-- The call that closes the client, if one is connected. -/
def closing (worker : Worker) : List (Cloud Other).Call :=
  if worker.connected then [CloudCall.closeClient] else []

def deletions (worker : Worker) : List (Cloud Other).Call :=
  worker.parts.map (Part.deletion worker.ns)

theorem closeClient_makes {r : Except Fault Unit}
    (h : closeClient.runFrom worker script guards w = .done (r, worker') w') :
    ∃ attempts, w.Makes script attempts w' ∧ attempts.map Attempt.call = worker.closing := by
  obtain ⟨-, closed⟩ := closeClient_done h
  unfold closing
  cases connected : worker.connected with
  | false =>
    simp only [connected, Bool.false_eq_true, if_false] at closed ⊢
    obtain ⟨-, rfl⟩ := closed
    exact ⟨[], .refl w', rfl⟩
  | true =>
    simp only [connected, if_true] at closed ⊢
    exact ⟨_, Task.call_makes closed, rfl⟩

/-- In a scope of its own everything is deleted if the client has been closed by its deadline. -/
theorem delete_makes {s : Scope} {r : Except Fault Unit} (sheltered : w.Shelters script s)
    (deadline : s.deadline = some (w.clock.now + limit))
    (h : (delete s).runFrom worker script (s.guard :: guards) w = .done (r, worker') w') :
    worker.ClosesInTime script w limit ∧ ∃ attempts, w.Makes script attempts w' ∧
      attempts.map Attempt.call = worker.closing ++ worker.deletions := by
  obtain ⟨⟨closed, middle⟩, v, ran, h⟩ := Task.bind_done.mp h
  obtain ⟨⟨kept, faults⟩, v', deleted, h⟩ := Task.bind_done.mp h
  obtain ⟨same, rfl⟩ := Task.pure_done.mp h
  cases same
  obtain ⟨rfl, call⟩ := closeClient_done ran
  obtain ⟨first, makes, closing⟩ := closeClient_makes ran
  obtain ⟨rest, makes', deletes⟩ := Part.deleteEach_makes (makes.shelters sheltered) deleted
  refine ⟨fun connected => ?_, first ++ rest, makes.trans makes', ?_⟩
  · rw [connected, if_pos rfl] at call
    have kept := Task.call_in_time List.mem_cons_self (show s.guard.deadline = _ from deadline) call
    rwa [Nat.add_sub_cancel_left] at kept
  · rw [List.map_append, closing, deletes.calls]
    rfl

theorem deletion_notMem_closing (worker : Worker) (p : Part) :
    (p.deletion worker.ns : (Cloud Other).Call) ∉ worker.closing := by
  intro mem
  unfold closing at mem
  split at mem
  · cases List.mem_singleton.mp mem
  · cases mem

section Cleanup

variable {caller : Scope} {c : Cleanup (Cloud Other) Unit}
  (operates : c.operation = .inr fun s => (delete s).evalFrom worker)
  (timeout : c.timeout = some limit)
include operates timeout

theorem bounded_of_delete : c.Bounded limit := by
  refine ⟨timeout, fun operation same s => ?_⟩
  obtain rfl := Sum.inr.inj (operates.symm.trans same)
  exact Recorded.heeds_evalFrom (heeds_delete s) worker

/-- A deletion is cut short just when the client is not closed in the time of the cleanup, and then
it has come to nothing but the close. -/
theorem cleanup_makes (rooted : script.root < w.clock.fresh) {r : Except Fault Unit}
    (ended : (c.run caller).run script guards w = .done r w') :
    ∃ attempts, w.Makes script attempts w' ∧
      (worker.ClosesInTime script w limit ∧
          attempts.map Attempt.call = worker.closing ++ worker.deletions ∨
        ¬ worker.ClosesInTime script w limit ∧ attempts.map Attempt.call = worker.closing) := by
  obtain ⟨_, detached, -⟩ := Cleanup.detached_of_done rooted operates timeout ended
  cases detached with
  | @through s v _ opens inside =>
    have same : v.log = w.log := by rw [World.log, opens.adds.marks, List.append_nil]; rfl
    obtain ⟨_, inside⟩ := Recorded.evalFrom_done.mp inside
    obtain ⟨closes, attempts, makes, calls⟩ := delete_makes opens.sheltered opens.deadline inside
    have within : worker.ClosesInTime script w limit := by rwa [ClosesInTime, ← same]
    exact ⟨attempts, (World.Makes.of_adds opens.adds).trans makes, .inl ⟨within, calls⟩⟩
  | @cut s v why opens inside =>
    have same : v.log = w.log := by rw [World.log, opens.adds.marks, List.append_nil]; rfl
    obtain ⟨adds, connected, outlasts⟩ := delete_cut opens.sheltered opens.deadline
      (Recorded.evalFrom_interrupted.mp inside)
    rw [same] at outlasts
    refine ⟨[⟨.closeClient, none⟩], ⟨_, opens.adds.trans adds, .cut _ _ .nil⟩,
      .inr ⟨fun within => outlasts (within connected), ?_⟩⟩
    rw [closing, if_pos connected]
    rfl

end Cleanup

/-- However its calls come out, a worker that is deleted in a cleanup with a time of its own is done
with by then. If its client, should one be connected, is closed in that time, each of its parts has
been asked for once to be deleted, whatever became of the close and of the other. Otherwise nothing
but the close has been asked for, so that a worker that has parts keeps all of them. -/
theorem delete_asks_for_parts_iff_closed_in_time (caller : Scope)
    (rooted : script.root < w.clock.fresh) {c : Cleanup (Cloud Other) Unit}
    (operates : c.operation = .inr fun s => (delete s).evalFrom worker)
    (timeout : c.timeout = some limit) :
    ∃ r w' attempts, (c.run caller).run script [] w = .done r w' ∧
      w'.clock.now ≤ w.clock.now + limit ∧ w.Makes script attempts w' ∧
      (worker.ClosesInTime script w limit →
        attempts.map Attempt.call = worker.closing ++ worker.deletions) ∧
      (¬ worker.ClosesInTime script w limit → attempts.map Attempt.call = worker.closing) ∧
      ((∀ p ∈ worker.parts, p.deletion worker.ns ∈ attempts.map Attempt.call) ↔
        worker.parts = [] ∨ worker.ClosesInTime script w limit) := by
  obtain ⟨r, w', ended, now⟩ :=
    ((bounded_of_delete operates timeout).lasts caller script [] w).unguarded
  obtain ⟨attempts, makes, ⟨within, calls⟩ | ⟨outlasts, calls⟩⟩ :=
    cleanup_makes operates timeout rooted ended
  · refine ⟨r, w', attempts, ended, now, makes, fun _ => calls, absurd within,
      fun _ => .inr within, fun _ p mem => ?_⟩
    rw [calls]
    exact List.mem_append_right _ (List.mem_map_of_mem mem)
  · refine ⟨r, w', attempts, ended, now, makes, fun within => absurd within outlasts,
      fun _ => calls, fun all => .inl ?_, ?_⟩
    · refine List.eq_nil_iff_forall_not_mem.mpr fun p mem => ?_
      exact deletion_notMem_closing worker p (calls ▸ all p mem)
    · rintro (none | within) p mem
      · rw [none] at mem
        cases mem
      · exact absurd within outlasts

end Teardown

/-- A worker that is connected. -/
def sample : Worker :=
  ⟨"worker", "prod", [⟨.pod, "worker"⟩, ⟨.service, "worker"⟩], some "10.0.0.1", true⟩

/-- How a worker is deleted within a second. -/
def sampleDeletion : Cleanup (Cloud .silent) Unit :=
  ((Cleanup.ofScope fun s => (delete s).evalFrom sample).withContext "delete worker").withTimeout
    1000

/-- The client takes half of the time. -/
theorem delete_asks_for_parts_of_slow_client :
    ∃ r w' attempts,
      (sampleDeletion.run .unbounded).run (Cloud.parting ⟨false, false, 500, .ok ()⟩) [] .initial =
        .done r w' ∧
      w'.clock.now ≤ 1000 ∧
      World.initial.Makes (Cloud.parting ⟨false, false, 500, .ok ()⟩) attempts w' ∧
      ∀ p ∈ sample.parts, p.deletion sample.ns ∈ attempts.map Attempt.call := by
  have rooted : (Cloud.parting ⟨false, false, 500, .ok ()⟩).root <
      (World.initial : World (Cloud .silent)).clock.fresh := Nat.zero_lt_one
  obtain ⟨r, w', attempts, ended, now, makes, -, -, asked⟩ :=
    delete_asks_for_parts_iff_closed_in_time .unbounded rooted (c := sampleDeletion) rfl rfl
  exact ⟨r, w', attempts, ended, now, makes, asked.mpr (.inr fun _ => ⟨rfl, by decide⟩)⟩

/-- The client is never closed, and neither the pod nor the service is asked for. -/
theorem delete_keeps_parts_of_stuck_client :
    ∃ r w', (sampleDeletion.run .unbounded).run (Cloud.parting ⟨false, true, 0, .ok ()⟩) []
        .initial = .done r w' ∧ w'.clock.now = 1000 ∧
      w'.log.map Entry.call = [CloudCall.closeClient] ∧
      ¬ ∀ p ∈ sample.parts, p.deletion sample.ns ∈ w'.log.map Entry.call := by
  have ends : ∃ r w', (sampleDeletion.run .unbounded).run
      (Cloud.parting ⟨false, true, 0, .ok ()⟩) [] .initial = .done r w' ∧ w'.clock.now = 1000 ∧
      w'.log.map Entry.call = [CloudCall.closeClient] := ⟨_, _, rfl, rfl, rfl⟩
  obtain ⟨r, w', ended, now, calls⟩ := ends
  refine ⟨r, w', ended, now, calls, fun all => ?_⟩
  have asked := calls ▸ all ⟨.pod, "worker"⟩ List.mem_cons_self
  cases List.mem_singleton.mp asked

end Worker

end Recovery
