import Recovery.Proofs.Clone.Rollback
import Recovery.Proofs.Cloud.Attempt
import Recovery.Proofs.Volume.Provision
/-!
# What a store is asked for

A store is asked to see to its claim, to take a snapshot of it and to delete it. What each of these
attempts and what becomes of the claim is told here for every way it may come out.
-/
set_option autoImplicit false

namespace Recovery

variable {Other : Interface}

namespace Store

section Calls

variable (s : Store) (name : String)

/-- The call that takes a snapshot of the claim. -/
def taking (claim : String) : (Cloud Other).Call :=
  CloudCall.create s.options.ns
    (.snapshot (.ofClaim s.options.ns name claim s.options.snapshotClass))

def awaiting : (Cloud Other).Call :=
  CloudCall.await (.snapshot name) s.options.ns s.options.timeouts.snapshotReady

/-- The call that deletes a snapshot. -/
def dropping : (Cloud Other).Call := CloudCall.delete .snapshot s.options.ns name

/-- The call that deletes the claim. -/
def deletion (claim : String) : (Cloud Other).Call := CloudCall.delete .claim s.options.ns claim

/-- The fault of a wait for a snapshot that failed. -/
def unready (e : Fault) : Fault :=
  .context ("wait for " ++ Kind.snapshot.title s.options.ns name) e

end Calls

/-- How a snapshot comes out: there is no claim, or taking it is refused, or it gets ready, or it
does not and is dropped again. -/
inductive Takes (s : Store) (name : String) :
    List (Attempt (Cloud Other)) → Except Fault Snapshot → Prop where
  | unmade : s.claim = none →
    Takes s name [] (.error (.precondition s.title "volume does not exist yet"))
  | refused {claim : String} {a : Attempt (Cloud Other)} {f : Fault} : s.claim = some claim →
    a.call = s.taking name claim → a.succeeded = false → Takes s name [a] (.error f)
  | ready {claim : String} {a b : Attempt (Cloud Other)} {snapshot : Snapshot} :
    s.claim = some claim → a.call = s.taking name claim → a.succeeded = true →
    b.call = s.awaiting name → b.succeeded = true → Takes s name [a, b] (.ok snapshot)
  | dropped {claim : String} {a b c : Attempt (Cloud Other)} {e f : Fault} :
    s.claim = some claim → a.call = s.taking name claim → a.succeeded = true →
    b.call = s.awaiting name → b.Fails e → c.call = s.dropping name →
    f.errors.head? = some (s.unready name e) → Takes s name [a, b, c] (.error f)

/-- How the deletion of the claim comes out: there is none, or the scope is cancelled already, or
it is attempted. -/
inductive Deletes (s : Store) (cancelled : Bool) :
    List (Attempt (Cloud Other)) → Except Fault Unit → Store → Prop where
  | unmade : s.claim = none → Deletes s cancelled [] (.ok ()) s
  | passed {claim : String} {f : Fault} : s.claim = some claim → cancelled = true →
    Deletes s cancelled [] (.error f) s
  | gone {claim : String} {a : Attempt (Cloud Other)} : s.claim = some claim →
    cancelled = false → a.call = s.deletion claim → a.succeeded = true →
    Deletes s cancelled [a] (.ok ()) { s with claim := none }
  | kept {claim : String} {a : Attempt (Cloud Other)} {f : Fault} : s.claim = some claim →
    cancelled = false → a.call = s.deletion claim → a.succeeded = false →
    Deletes s cancelled [a] (.error f) s

section Outcomes

variable {s s' : Store} {name : String} {cancelled : Bool} {attempts : List (Attempt (Cloud Other))}

theorem Deletes.after {r : Except Fault Unit} (h : Deletes s cancelled attempts r s') :
    r.isOk = true ∧ s' = { s with claim := none } ∨ r.isOk = false ∧ s' = s := by
  cases h with
  | unmade none => exact .inl ⟨rfl, by rw [← none]⟩
  | passed _ _ => exact .inr ⟨rfl, rfl⟩
  | gone _ _ _ _ => exact .inl ⟨rfl, rfl⟩
  | kept _ _ _ _ => exact .inr ⟨rfl, rfl⟩

end Outcomes

section Orders

variable {script : Script (Cloud Other)} {guards : List Guard} {w w' : World (Cloud Other)}
  {scope : Scope} {s s' : Store}

/-! ## Seeing to the claim -/

/-- None of the attempts is to delete anything. -/
def Onward (attempts : List (Attempt (Cloud Other))) : Prop :=
  ∀ a ∈ attempts, CloudCall.Forward a.call

namespace Onward

variable {a : Attempt (Cloud Other)} {first later : List (Attempt (Cloud Other))}

theorem nil : Onward ([] : List (Attempt (Cloud Other))) := List.forall_mem_nil _

theorem cons (forward : CloudCall.Forward a.call) (h : Onward later) : Onward (a :: later) :=
  List.forall_mem_cons.mpr ⟨forward, h⟩

theorem one (forward : CloudCall.Forward a.call) : Onward [a] := .cons forward .nil

theorem append (h : Onward first) (h' : Onward later) : Onward (first ++ later) :=
  List.forall_mem_append.mpr ⟨h, h'⟩

end Onward

theorem Reads.onward {ns : String} {names : List String}
    {attempts : List (Attempt (Cloud Other))} {ending : Option (Except Fault (List String))}
    (h : Reads ns names attempts ending) : Onward attempts := by
  induction h with
  | finished => exact .nil
  | failed _ _ _ => exact .one trivial
  | missing _ _ => exact .one trivial
  | unsized _ _ _ => exact .one trivial
  | read _ _ _ ih => exact .cons trivial ih
  | cut _ _ => exact .one trivial

theorem Surveys.onward {c : Clock} {attempts : List (Attempt (Cloud Other))}
    {ending : Option (Except Fault (List String))}
    (h : Surveys scope s.options c attempts ending) : Onward attempts := by
  cases h with
  | given _ => exact .nil
  | ended _ confines => exact confines.forall_mem Reads.onward
  | cut _ reads => exact reads.onward

section Provides

variable {c : Clock} {sizes : List String} {bytes : Nat}
  {attempts : List (Attempt (Cloud Other))}

theorem Settles.onward {ending : Option (Except Fault Unit × Store)}
    (h : Settles s sizes bytes attempts ending) : Onward attempts := by
  cases h with
  | unknown _ => exact .one trivial
  | reused _ => exact .one trivial
  | refused _ _ => exact .cons trivial (.one trivial)
  | made _ => exact .cons trivial (.one trivial)
  | searching => exact .one trivial
  | making _ => exact .cons trivial (.one trivial)

theorem Provides.onward {ending : Option (Except Fault Unit × Store)}
    (h : s.Provides scope c attempts ending) : Onward attempts := by
  cases h with
  | reading surveys => exact surveys.onward
  | unread surveys => exact surveys.onward
  | unsized surveys _ _ => exact surveys.onward
  | sized surveys _ settles => exact surveys.onward.append settles.onward

theorem Provides.after {r : Except Fault Unit}
    (h : s.Provides scope c attempts (some (r, s'))) :
    s' = if r.isOk then { s with claim := some s.options.name } else s := by
  cases h with
  | unread _ => rfl
  | unsized _ _ _ => rfl
  | sized _ _ settles => cases settles <;> rfl

end Provides

/-- Seeing to the claim deletes nothing, and the claim is on record if all of it succeeds. -/
theorem ensureExists_makes {r : Except Fault Unit}
    (h : (ensureExists scope).runFrom s script guards w = .done (r, s') w') :
    ∃ attempts, w.Makes script attempts w' ∧ Onward attempts ∧
      s' = if r.isOk then { s with claim := some s.options.name } else s := by
  obtain ⟨attempts, makes, provides⟩ := (ensureExists_leaves scope s).done h
  exact ⟨attempts, makes, provides.onward, provides.after⟩

/-! ## Taking a snapshot -/

theorem snapshot_makes {name : String} {r : Except Fault Snapshot}
    (rooted : script.root < w.clock.fresh)
    (h : (s.snapshot scope name).run script guards w = .done r w') :
    ∃ attempts, w.Makes script attempts w' ∧ Takes s name attempts r := by
  unfold snapshot at h
  cases recorded : s.claim with
  | none =>
    simp only [recorded] at h
    obtain ⟨rfl, rfl⟩ := Task.pure_done.mp h
    exact ⟨[], .refl w, .unmade recorded⟩
  | some claim =>
    simp only [recorded] at h
    rcases Saga.bind_done.mp h with ⟨_, v, made, h⟩ | ⟨fault, made, rfl⟩
    · have makes := Cloud.make_makes made
      rcases Saga.bind_done.mp h with ⟨waited, v', attempted, h⟩ | ⟨fault, attempted, -⟩
      · obtain ⟨_, wrapped, ⟨⟩⟩ := Saga.ofTask_done.mp attempted
        obtain ⟨result, waits, rfl⟩ := Task.map_done.mp wrapped
        have makes' := makes.trans (Cloud.await_makes waits)
        cases result with
        | ok snapshot =>
          obtain ⟨rfl, rfl⟩ := Task.pure_done.mp h
          exact ⟨_, makes', .ready recorded rfl rfl rfl rfl⟩
        | error e =>
          have rooted' := Nat.lt_of_lt_of_le rooted makes'.fresh_le
          obtain ⟨cleaned, ran, rfl⟩ := Cleanup.foldInto_done.mp h
          obtain ⟨a, makes'', call, -⟩ := Cloud.deletion_makes rooted' ran
          refine ⟨_, makes'.trans makes'', ?_⟩
          cases cleaned with
          | ok _ => exact .dropped recorded rfl rfl rfl (.refused _ e) call rfl
          | error later =>
            have single : (s.unready name e).IsSingle := rfl
            exact .dropped recorded rfl rfl rfl (.refused _ e) call (Fault.errors_head?_join single)
      · obtain ⟨_, -, ⟨⟩⟩ := Saga.ofTask_done.mp attempted
    · obtain ⟨e, makes⟩ := Cloud.make_makes_of_error made
      exact ⟨_, makes, .refused recorded rfl rfl⟩

/-! ## Deleting the claim -/

theorem delete_done {claim : String} {r : Except Fault Unit} (recorded : s.claim = some claim)
    (h : (delete scope).runFrom s script guards w = .done (r, s') w') :
    ∃ ran, (scope.run "delete DR volume" (Cloud.delete .claim s.options.ns claim)).run script guards
        w = .done ran w' ∧
      r = Fault.during ("delete DR volume " ++ s.options.ns ++ "/" ++ claim) ran ∧
      s' = if ran.isOk then { s with claim := none } else s := by
  rw [delete, Recorded.runFrom_get_bind] at h
  simp only [recorded] at h
  rcases Recorded.ofSaga_bind_done.mp h with ⟨_, v, deleted, ends⟩ | ⟨fault, deleted, rfl, rfl⟩
  · obtain ⟨ran, inside, same⟩ := Task.map_done.mp deleted
    obtain ⟨ends, rfl⟩ := Task.pure_done.mp ends
    cases ends
    cases ran with
    | ok _ => exact ⟨_, inside, rfl, rfl⟩
    | error e => cases same
  · obtain ⟨ran, inside, same⟩ := Task.map_done.mp deleted
    cases ran with
    | ok _ => cases same
    | error e => exact ⟨_, inside, same.symm, rfl⟩

theorem delete_makes {r : Except Fault Unit}
    (h : (delete scope).runFrom s script guards w = .done (r, s') w') :
    ∃ attempts, w.Makes script attempts w' ∧
      Deletes s (scope.isCancelled w.clock) attempts r s' := by
  cases recorded : s.claim with
  | none =>
    rw [delete, Recorded.runFrom_get_bind] at h
    simp only [recorded] at h
    obtain ⟨same, rfl⟩ := Task.pure_done.mp h
    cases same
    exact ⟨[], .refl w, .unmade recorded⟩
  | some claim =>
    obtain ⟨ran, inside, rfl, rfl⟩ := delete_done recorded h
    cases cancelled : scope.isCancelled w.clock with
    | true =>
      obtain ⟨rfl, rfl⟩ := Step.done.inj ((Scope.run_of_cancelled cancelled).symm.trans inside)
      exact ⟨[], .refl w, .passed recorded rfl⟩
    | false =>
      obtain ⟨a, makes, call, ⟨succeeded, ok⟩ | ⟨e, fails, rfl⟩⟩ :=
        Scope.run_makes cancelled inside
      · cases ran with
        | ok _ => exact ⟨[a], makes, .gone recorded rfl call succeeded⟩
        | error _ => cases ok
      · exact ⟨[a], makes, .kept recorded rfl call fails.succeeded⟩

end Orders

end Store

end Recovery
