import Recovery.Clone.Cluster
import Recovery.Clone.Volume
import Recovery.Proofs.Cloud.Attempt
import Recovery.Proofs.Worker.Account
/-!
# Releasing what a compound holds

What was made together is handed out as one compound: a cloned cluster, a cloned volume or a worker.
It holds its parts, and a worker also its client. Deleting a compound releases what it holds, in
order and one by one; what could not be released it goes on holding.
-/
set_option autoImplicit false

namespace Recovery

variable {Other : Interface}

inductive Holding where
  | client (worker : String)
  | part (ns : String) (p : Part)
deriving Repr, DecidableEq

namespace Holding

/-- The call that releases what is held. -/
def release : Holding → (Cloud Other).Call
  | .client _ => CloudCall.closeClient
  | .part ns p => p.deletion ns

/-- How the release is called in the fault of one that failed. -/
def doing : Holding → String
  | .client worker => "close client of worker " ++ worker
  | .part ns p => "delete " ++ p.kind.title ns p.name

end Holding

/-- The client of a worker, if one is connected. -/
def Worker.client (w : Worker) : List Holding := if w.connected then [.client w.name] else []

inductive Compound where
  | cluster (c : ClonedCluster)
  | volume (v : ClonedVolume)
  | worker (w : Worker)
deriving Repr, DecidableEq

namespace Compound

/-- In the order in which it is released. -/
def holdings : Compound → List Holding
  | .cluster c => c.parts.map (.part c.ns)
  | .volume v => v.parts.map (.part v.ns)
  | .worker w => w.client ++ w.parts.map (.part w.ns)

def isEmpty : Compound → Bool
  | .cluster c => c.isEmpty
  | .volume v => v.parts.isEmpty
  | .worker w => w.isEmpty

theorem isEmpty_iff {c : Compound} : c.isEmpty = true ↔ c.holdings = [] := by
  cases c with
  | cluster c => simp [isEmpty, holdings, ClonedCluster.isEmpty]
  | volume v => simp [isEmpty, holdings]
  | worker w =>
    cases connected : w.connected <;>
      simp [isEmpty, holdings, Worker.isEmpty, Worker.client, connected]

def delete (scope : Scope) : Compound → Task (Cloud Other) (Except Fault Unit × Compound)
  | .cluster c => Prod.map id .cluster <$> (ClonedCluster.delete scope).runFrom c
  | .volume v => Prod.map id .volume <$> (ClonedVolume.delete scope).runFrom v
  | .worker w => Prod.map id .worker <$> (Worker.delete scope).runFrom w

theorem release_inj_parts {ns : String} {parts : List Part} {x y : Holding}
    (hx : x ∈ parts.map (Holding.part ns)) (hy : y ∈ parts.map (Holding.part ns))
    (same : (x.release : (Cloud Other).Call) = y.release) : x = y := by
  obtain ⟨⟨kind, name⟩, -, rfl⟩ := List.mem_map.mp hx
  obtain ⟨⟨kind', name'⟩, -, rfl⟩ := List.mem_map.mp hy
  cases same
  rfl

/-- A compound holds no two things that the same call releases. -/
theorem release_inj {c : Compound} {x y : Holding} (hx : x ∈ c.holdings) (hy : y ∈ c.holdings)
    (same : (x.release : (Cloud Other).Call) = y.release) : x = y := by
  cases c with
  | cluster c => exact release_inj_parts hx hy same
  | volume v => exact release_inj_parts hx hy same
  | worker w =>
    have client {x : Holding} (hx : x ∈ w.client) : x = .client w.name := by
      unfold Worker.client at hx
      split at hx
      · exact List.mem_singleton.mp hx
      · cases hx
    rcases List.mem_append.mp hx with hx | hx <;> rcases List.mem_append.mp hy with hy | hy
    · rw [client hx, client hy]
    · obtain ⟨p, -, rfl⟩ := List.mem_map.mp hy
      cases client hx
      cases same
    · obtain ⟨p, -, rfl⟩ := List.mem_map.mp hx
      cases client hy
      cases same
    · exact release_inj_parts hx hy same

theorem nodup_release {c : Compound} (once : c.holdings.Nodup) :
    (c.holdings.map (@Holding.release Other)).Nodup :=
  once.map_on fun _ hx _ hy same => release_inj hx hy same

end Compound

/-! ## One pass over what is held -/

/-- What is held is released in order. What cannot be released is kept, with a fault for it; a part
may also be passed over if `passes` allows for it. -/
inductive Releases (passes : Prop) :
    List Holding → List (Attempt (Cloud Other)) → List Holding → List Fault → Prop where
  | nil : Releases passes [] [] [] []
  | gone {x : Holding} {a : Attempt (Cloud Other)} {held kept : List Holding}
      {attempts : List (Attempt (Cloud Other))} {faults : List Fault} :
    a.call = x.release → a.succeeded = true → Releases passes held attempts kept faults →
    Releases passes (x :: held) (a :: attempts) kept faults
  | kept {x : Holding} {a : Attempt (Cloud Other)} {e : Fault} {held kept : List Holding}
      {attempts : List (Attempt (Cloud Other))} {faults : List Fault} :
    a.call = x.release → a.Fails e → Releases passes held attempts kept faults →
    Releases passes (x :: held) (a :: attempts) (x :: kept) (.context x.doing e :: faults)
  | passed {ns : String} {p : Part} {held kept : List Holding}
      {attempts : List (Attempt (Cloud Other))} {faults : List Fault} :
    passes → Releases passes held attempts kept faults →
    Releases passes (.part ns p :: held) attempts (.part ns p :: kept)
      (.context (Holding.part ns p).doing (.cancelled ("delete " ++ p.kind.noun)) :: faults)

/-- Why something is kept: its release was attempted and failed, or it is a part that was passed
over. -/
inductive Holding.Kept (passes : Prop) (attempts : List (Attempt (Cloud Other))) :
    Holding → Fault → Prop where
  | failed {x : Holding} {a : Attempt (Cloud Other)} {e : Fault} :
    a ∈ attempts → a.call = x.release → a.Fails e → Kept passes attempts x (.context x.doing e)
  | passed {ns : String} {p : Part} :
    passes → Kept passes attempts (.part ns p)
      (.context (Holding.part ns p).doing (.cancelled ("delete " ++ p.kind.noun)))

/-- One of the attempts has released it. -/
def Holding.ReleasedBy (x : Holding) (attempts : List (Attempt (Cloud Other))) : Prop :=
  ∃ a ∈ attempts, a.call = x.release ∧ a.succeeded = true

namespace Holding

variable {passes : Prop} {attempts later : List (Attempt (Cloud Other))} {x : Holding} {f : Fault}

theorem Kept.mono (h : x.Kept passes attempts f) (more : attempts ⊆ later) :
    x.Kept passes later f := by
  cases h with
  | failed made call fails => exact .failed (more made) call fails
  | passed p => exact .passed p

theorem releasedBy_cons {a : Attempt (Cloud Other)} :
    x.ReleasedBy (a :: attempts) ↔
      a.call = x.release ∧ a.succeeded = true ∨ x.ReleasedBy attempts := by
  simp only [ReleasedBy, List.mem_cons, exists_eq_or_imp]

end Holding

namespace Releases

variable {passes : Prop} {held kept : List Holding} {attempts : List (Attempt (Cloud Other))}
  {faults : List Fault}

theorem append {held' kept' : List Holding} {attempts' : List (Attempt (Cloud Other))}
    {faults' : List Fault} (h : Releases passes held attempts kept faults)
    (h' : Releases passes held' attempts' kept' faults') :
    Releases passes (held ++ held') (attempts ++ attempts') (kept ++ kept')
      (faults ++ faults') := by
  induction h with
  | nil => exact h'
  | gone call succeeded _ ih => exact .gone call succeeded ih
  | kept call fails _ ih => exact .kept call fails ih
  | passed p _ ih => exact .passed p ih

theorem of_nil (h : Releases passes [] attempts kept faults) : attempts = [] ∧ faults = [] := by
  cases h
  exact ⟨rfl, rfl⟩

/-- Nothing is attempted but to release what is held, each at most once. -/
theorem calls_sublist (h : Releases passes held attempts kept faults) :
    (attempts.map Attempt.call).Sublist (held.map Holding.release) := by
  induction h with
  | nil => exact .slnil
  | gone call _ _ ih =>
    rw [List.map_cons, List.map_cons, call]
    exact ih.cons_cons _
  | kept call _ _ ih =>
    rw [List.map_cons, List.map_cons, call]
    exact ih.cons_cons _
  | passed _ _ ih => exact ih.cons _

/-- All of it is attempted if nothing may be passed over. -/
theorem calls (h : Releases passes held attempts kept faults) (none : ¬ passes) :
    attempts.map Attempt.call = held.map Holding.release := by
  induction h with
  | nil => rfl
  | gone call _ _ ih => exact congrArg₂ List.cons call ih
  | kept call _ _ ih => exact congrArg₂ List.cons call ih
  | passed p _ _ => exact absurd p none

theorem kept_sublist (h : Releases passes held attempts kept faults) : kept.Sublist held := by
  induction h with
  | nil => exact .slnil
  | gone _ _ _ ih => exact ih.cons _
  | kept _ _ _ ih => exact ih.cons_cons _
  | passed _ _ ih => exact ih.cons_cons _

/-- There is a fault for each thing that is kept, in order. -/
theorem blames (h : Releases passes held attempts kept faults) :
    List.Forall₂ (Holding.Kept passes attempts) kept faults := by
  induction h with
  | nil => exact .nil
  | gone _ _ _ ih => exact ih.imp fun _ _ kept => kept.mono (List.subset_cons_self ..)
  | kept call fails _ ih =>
    refine .cons (.failed List.mem_cons_self call fails) ?_
    exact ih.imp fun _ _ kept => kept.mono (List.subset_cons_self ..)
  | passed p _ ih => exact .cons (.passed p) ih

theorem single (h : Releases passes held attempts kept faults) : ∀ f ∈ faults, f.IsSingle := by
  induction h with
  | nil => exact List.forall_mem_nil _
  | gone _ _ _ ih => exact ih
  | kept _ _ _ ih => exact List.forall_mem_cons.mpr ⟨rfl, ih⟩
  | passed _ _ ih => exact List.forall_mem_cons.mpr ⟨rfl, ih⟩

theorem not_releasedBy (h : Releases passes held attempts kept faults) {x : Holding}
    (free : (x.release : (Cloud Other).Call) ∉ held.map Holding.release) :
    ¬ x.ReleasedBy attempts := by
  rintro ⟨a, made, call, -⟩
  apply free
  rw [← call]
  exact h.calls_sublist.subset (List.mem_map_of_mem made)

theorem mem_cons_kept {x y : Holding} (spared : ¬ x.ReleasedBy attempts)
    (rest : y ∈ kept ↔ y ∈ held ∧ ¬ y.ReleasedBy attempts) :
    y ∈ x :: kept ↔ y ∈ x :: held ∧ ¬ y.ReleasedBy attempts := by
  rw [List.mem_cons, List.mem_cons, rest]
  constructor
  · rintro (rfl | ⟨mem, unreleased⟩)
    · exact ⟨.inl rfl, spared⟩
    · exact ⟨.inr mem, unreleased⟩
  · rintro ⟨rfl | mem, unreleased⟩
    · exact .inl rfl
    · exact .inr ⟨mem, unreleased⟩

/-- Just what has been released is not kept. -/
theorem mem_kept (h : Releases passes held attempts kept faults)
    (distinct : (held.map (@Holding.release Other)).Nodup) {y : Holding} :
    y ∈ kept ↔ y ∈ held ∧ ¬ y.ReleasedBy attempts := by
  induction h with
  | nil => simp
  | @gone x a held kept attempts faults call succeeded _ ih =>
    obtain ⟨free, distinct⟩ := List.nodup_cons.mp distinct
    rw [ih distinct, List.mem_cons, Holding.releasedBy_cons]
    constructor
    · rintro ⟨mem, unreleased⟩
      refine ⟨.inr mem, ?_⟩
      rintro (⟨same, -⟩ | released)
      -- what is kept later has a release of its own
      · apply free
        rw [← call, same]
        exact List.mem_map_of_mem mem
      · exact unreleased released
    · rintro ⟨rfl | mem, unreleased⟩
      · exact absurd (.inl ⟨call, succeeded⟩) unreleased
      · exact ⟨mem, fun released => unreleased (.inr released)⟩
  | @kept x a e held kept attempts faults call fails rest ih =>
    obtain ⟨free, distinct⟩ := List.nodup_cons.mp distinct
    have fruitless : y.ReleasedBy (a :: attempts) ↔ y.ReleasedBy attempts := by
      simp [Holding.releasedBy_cons, fails.succeeded]
    rw [fruitless]
    exact mem_cons_kept (rest.not_releasedBy free) (ih distinct)
  | @passed ns p held kept attempts faults _ rest ih =>
    obtain ⟨free, distinct⟩ := List.nodup_cons.mp distinct
    exact mem_cons_kept (rest.not_releasedBy free) (ih distinct)

end Releases

/-! ## Deleting a compound -/

section Deletion

variable {script : Script (Cloud Other)} {guards : List Guard} {w w' : World (Cloud Other)}
  {scope : Scope} {ns : String}

theorem Scope.isCancelled_of_precedes {s : Scope} {c d : Clock} (h : c.Precedes d)
    (cancelled : s.isCancelled c = true) : s.isCancelled d = true := by
  obtain ⟨t, mem, found⟩ := List.any_eq_true.mp cancelled
  apply List.any_eq_true.mpr
  refine ⟨t, mem, ?_⟩
  rw [List.contains_iff_mem] at found ⊢
  exact h.cancelled_subset found

/-- In a scope that is cancelled already a part is passed over. -/
theorem Part.delete_of_cancelled {p : Part} (cancelled : scope.isCancelled w.clock = true) :
    (p.delete scope ns).run script guards w =
      .done (.error (.context (Holding.part ns p).doing (.cancelled ("delete " ++ p.kind.noun))))
        w := by
  apply Task.map_done.mpr
  exact ⟨_, Scope.run_of_cancelled cancelled, rfl⟩

theorem Part.deleteEach_releases {parts kept : List Part} {faults : List Fault}
    (h : deleteEach scope ns parts script guards w = .done (kept, faults) w') :
    ∃ attempts, w.Makes script attempts w' ∧
      Releases (scope.isCancelled w'.clock = true) (parts.map (.part ns)) attempts
        (kept.map (.part ns)) faults := by
  induction parts generalizing w w' kept faults with
  | nil =>
    obtain ⟨ends, rfl⟩ := Task.pure_done.mp h
    cases ends
    exact ⟨[], .refl w, .nil⟩
  | cons p parts ih =>
    obtain ⟨result, v, deleted, then_⟩ := Task.bind_done.mp h
    obtain ⟨⟨kept', faults'⟩, v', rest, ends⟩ := Task.bind_done.mp then_
    obtain ⟨attempts, makes, releases⟩ := ih rest
    have later := (Task.precedes_of_done rest).clock
    cases cancelled : scope.isCancelled w.clock with
    | true =>
      obtain ⟨rfl, rfl⟩ := Step.done.inj ((delete_of_cancelled cancelled).symm.trans deleted)
      obtain ⟨ends, rfl⟩ := Task.pure_done.mp ends
      cases ends
      exact ⟨attempts, makes, .passed (Scope.isCancelled_of_precedes later cancelled) releases⟩
    | false =>
      obtain ⟨a, made, call, ⟨succeeded, rfl⟩ | ⟨e, fails, rfl⟩⟩ := delete_makes cancelled deleted
      · obtain ⟨ends, rfl⟩ := Task.pure_done.mp ends
        cases ends
        exact ⟨a :: attempts, made.trans makes, .gone call succeeded releases⟩
      · obtain ⟨ends, rfl⟩ := Task.pure_done.mp ends
        cases ends
        rw [call]
        exact ⟨a :: attempts, made.trans makes, .kept call fails releases⟩

variable {r : Except Fault Unit}

theorem ClonedCluster.delete_releases {c c' : ClonedCluster}
    (h : (delete scope).runFrom c script guards w = .done (r, c') w') :
    ∃ attempts faults, w.Makes script attempts w' ∧
      Releases (scope.isCancelled w'.clock = true) (Compound.cluster c).holdings attempts
        (Compound.cluster c').holdings faults ∧ r = Part.settle faults := by
  rw [delete, Recorded.runFrom_get_bind] at h
  obtain ⟨kept, all, rfl⟩ := Recorded.zoom_done.mp h
  obtain ⟨faults, each, rfl⟩ := Part.deleteAll_done.mp all
  obtain ⟨attempts, makes, releases⟩ := Part.deleteEach_releases each
  exact ⟨attempts, faults, makes, releases, rfl⟩

theorem ClonedVolume.delete_releases {v v' : ClonedVolume}
    (h : (delete scope).runFrom v script guards w = .done (r, v') w') :
    ∃ attempts faults, w.Makes script attempts w' ∧
      Releases (scope.isCancelled w'.clock = true) (Compound.volume v).holdings attempts
        (Compound.volume v').holdings faults ∧ r = Part.settle faults := by
  rw [delete, Recorded.runFrom_get_bind] at h
  obtain ⟨kept, all, rfl⟩ := Recorded.zoom_done.mp h
  obtain ⟨faults, each, rfl⟩ := Part.deleteAll_done.mp all
  obtain ⟨attempts, makes, releases⟩ := Part.deleteEach_releases each
  exact ⟨attempts, faults, makes, releases, rfl⟩

namespace Worker

variable {worker worker' : Worker}

/-- The client is closed in whatever scope, so that it is never passed over. -/
theorem closeClient_releases (passes : Prop)
    (h : closeClient.runFrom worker script guards w = .done (r, worker') w') :
    ∃ attempts, w.Makes script attempts w' ∧
      Releases passes worker.client attempts worker'.client
        (Fault.told (Fault.during (Holding.client worker.name).doing r)) := by
  obtain ⟨rfl, closed⟩ := closeClient_done h
  unfold client
  cases connected : worker.connected with
  | false =>
    simp only [connected, Bool.false_eq_true, if_false] at closed
    obtain ⟨rfl, rfl⟩ := closed
    exact ⟨[], .refl w', .nil⟩
  | true =>
    simp only [connected, if_true] at closed
    refine ⟨_, Task.call_makes closed, ?_⟩
    cases r with
    | ok _ => exact .gone rfl rfl .nil
    | error e => exact .kept rfl (.refused _ e) .nil

theorem delete_releases (h : (delete scope).runFrom worker script guards w =
      .done (r, worker') w') :
    ∃ attempts faults, w.Makes script attempts w' ∧
      Releases (scope.isCancelled w'.clock = true) (Compound.worker worker).holdings attempts
        (Compound.worker worker').holdings faults ∧ r = Part.settle faults := by
  obtain ⟨⟨closed, middle⟩, v, ran, h⟩ := Task.bind_done.mp h
  obtain ⟨⟨kept, faults⟩, v', deleted, h⟩ := Task.bind_done.mp h
  obtain ⟨same, rfl⟩ := Task.pure_done.mp h
  cases same
  obtain ⟨first, makes, client⟩ := closeClient_releases (scope.isCancelled v'.clock = true) ran
  obtain ⟨rest, makes', parts⟩ := Part.deleteEach_releases deleted
  obtain ⟨rfl, -⟩ := closeClient_done ran
  refine ⟨first ++ rest, _, makes.trans makes', client.append parts, ?_⟩
  cases closed <;> rfl

end Worker

/-- A deletion that returns has gone once through what was held and has told of all that is kept. -/
theorem Compound.delete_releases {c c' : Compound}
    (h : c.delete scope script guards w = .done (r, c') w') :
    ∃ attempts faults, w.Makes script attempts w' ∧
      Releases (scope.isCancelled w'.clock = true) c.holdings attempts c'.holdings faults ∧
      r = Part.settle faults := by
  cases c with
  | cluster c =>
    obtain ⟨⟨r, c'⟩, ran, same⟩ := Task.map_done.mp h
    cases same
    exact ClonedCluster.delete_releases ran
  | volume v =>
    obtain ⟨⟨r, v'⟩, ran, same⟩ := Task.map_done.mp h
    cases same
    exact ClonedVolume.delete_releases ran
  | worker worker =>
    obtain ⟨⟨r, worker'⟩, ran, same⟩ := Task.map_done.mp h
    cases same
    exact Worker.delete_releases ran

end Deletion

end Recovery
