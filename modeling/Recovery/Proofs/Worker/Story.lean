import Recovery.Proofs.Cloud.Calls
import Recovery.Proofs.Worker.Start
/-!
# The story of a worker

A worker that could not be started is taken back: what was made is deleted in a scope of its own,
whatever has become of the scope of the caller by then.
-/
set_option autoImplicit false

namespace Recovery

variable {Other : Interface}

namespace Worker

/-! ## Rolling back -/

/-- Because of the fault `e` what was made is deleted in a scope of its own, and the fault that is
reported in the end stands for `e` and for what went wrong then. -/
structure RollsBack (o : WorkerOptions) (name : String) (script : Script (Cloud Other))
    (guards : List Guard) (v w' : World (Cloud Other)) (made : List Part) (e : Fault)
    (back : List (Attempt (Cloud Other))) (teardown : Option Fault) (f : Fault) : Prop where
  apart : ∃ r, Cleanup.Detached ("delete worker " ++ o.ns ++ "/" ++ name) o.cleanupTimeout
    (fun s => (Part.deleteAll s o.ns).evalFrom made) script guards v w' r
  makes : v.Makes script back w'
  calls : back.map Attempt.call = made.map (Part.deletion o.ns)
  errors : f.errors = e.errors ++ teardown.toList
  clean : teardown = none ↔ ∀ a ∈ back, a.succeeded = true
  names : ∀ a ∈ back, a.succeeded = false →
    ∃ t ∈ teardown, ∃ cause, a.Fails cause ∧ t.Shows (Part.report a.call cause)

theorem RollsBack.connection? {o : WorkerOptions} {name : String} {script : Script (Cloud Other)}
    {guards : List Guard} {v w' : World (Cloud Other)} {made : List Part} {e f : Fault}
    {back : List (Attempt (Cloud Other))} {teardown : Option Fault}
    (h : RollsBack o name script guards v w' made e back teardown f) :
    back.filterMap Attempt.connection? = [] := by
  refine Attempt.filterMap_eq_nil fun a mem => ?_
  have asked : a.call ∈ made.map (Part.deletion o.ns) := h.calls ▸ List.mem_map_of_mem mem
  obtain ⟨p, -, same⟩ := List.mem_map.mp asked
  rw [← same]
  rfl

theorem rollsBack_of_done {scope : Scope} {o : WorkerOptions} {name : String}
    {script : Script (Cloud Other)} {guards : List Guard} {v w' : World (Cloud Other)}
    {made : List Part} {e : Fault} {r : Except Fault Worker} (rooted : script.root < v.clock.fresh)
    (ended : (discard o name made).foldInto scope (.error e) script guards v = .done r w') :
    ∃ back teardown f, RollsBack o name script guards v w' made e back teardown f ∧
      r = .error f := by
  obtain ⟨cleaned, ran, rfl⟩ := Cleanup.foldInto_done.mp ended
  obtain ⟨undone, apart, rfl⟩ := Cleanup.detached_of_done rooted rfl rfl ran
  obtain ⟨back, faults, makes, deletes, rfl⟩ := Part.detached_makes apart
  cases joined : Fault.ofList? faults with
  | none =>
    have all := deletes.ofList?_eq_none.mp joined
    refine ⟨back, none, e, ⟨⟨_, apart⟩, makes, deletes.calls, (List.append_nil _).symm,
      iff_of_true rfl all, fun a mem failed => ?_⟩, ?_⟩
    · rw [all a mem] at failed
      cases failed
    · rw [Part.settle, joined]
      rfl
  | some g =>
    have single : (Fault.context ("delete worker " ++ o.ns ++ "/" ++ name) g).IsSingle := rfl
    refine ⟨back, some (.context ("delete worker " ++ o.ns ++ "/" ++ name) g), _,
      ⟨⟨_, apart⟩, makes, deletes.calls, Fault.errors_join single, ?_, fun a mem failed => ?_⟩, ?_⟩
    · refine iff_of_false (Option.some_ne_none _) fun all => ?_
      exact Option.some_ne_none g (joined.symm.trans (deletes.ofList?_eq_none.mpr all))
    · obtain ⟨cause, fails, shown⟩ := deletes.shown joined mem failed
      exact ⟨_, rfl, cause, fails, (Fault.shows_context _ g).trans shown⟩
    · rw [Part.settle, joined]
      rfl

/-! ## The whole story -/

/-- What the creation of a worker with valid options attempts, and what comes of it. -/
inductive Story (scope : Scope) (o : WorkerOptions) (script : Script (Cloud Other))
    (guards : List Guard) (w w' : World (Cloud Other)) : Except Fault Worker → Prop where
  | unnamed {e : Fault} : w.Makes script [draw (.error e)] w' →
    Story scope o script guards w w' (.error e)
  | connected {suffix : Suffix} {forward : List (Attempt (Cloud Other))} {host name : String} :
    name = suffix.name o.stem → w.Makes script (draw (.ok suffix) :: forward) w' →
    Starts scope o name w'.clock forward (.ok host) →
    forward.filterMap Attempt.made? = allParts name →
    forward.filterMap Attempt.connection? = [(host, o.port)] →
    Story scope o script guards w w' (.ok ⟨name, o.ns, allParts name, some host, true⟩)
  | undone {suffix : Suffix} {forward back : List (Attempt (Cloud Other))} {name : String}
      {v : World (Cloud Other)} {made : List Part} {e f : Fault} {teardown : Option Fault} :
    name = suffix.name o.stem → w.Makes script (draw (.ok suffix) :: forward) v →
    Starts scope o name v.clock forward (.error e) →
    forward.filterMap Attempt.made? = made → made <+: allParts name →
    RollsBack o name script guards v w' made e back teardown f →
    (forward ++ back).filterMap Attempt.connection? = [] →
    Story scope o script guards w w' (.error f)

section Story

variable {scope : Scope} {o : WorkerOptions} {script : Script (Cloud Other)}
  {guards : List Guard} {w w' : World (Cloud Other)} {r : Except Fault Worker}

theorem validate_eq_ok : o.validate = .ok () ↔ o.ns ≠ "" ∧ o.image ≠ "" ∧ o.port ≠ 0 := by
  by_cases ns : o.ns = "" <;> by_cases image : o.image = "" <;> by_cases port : o.port = 0 <;>
    simp [WorkerOptions.validate, Fault.require, Fault.firstMissing?, ns, image, port, bind,
      Except.bind]

theorem freshName_makes {stem : String} {r : Except Fault String}
    (ended : (Cloud.freshName stem).run script guards w = .done r w') :
    ∃ result, w.Makes script [draw result] w' ∧ r = result.map (Suffix.name stem) := by
  have shape : (Cloud.freshName stem).run =
      Except.map (Suffix.name stem) <$> Task.call (I := Cloud Other) .drawSuffix :=
    ExceptT.run_map _ _
  rw [shape] at ended
  obtain ⟨result, drawn, rfl⟩ := Task.map_done.mp ended
  exact ⟨result, Task.call_makes drawn, rfl⟩

theorem story_of_done (rooted : script.root < w.clock.fresh) (valid : o.validate = .ok ())
    (ended : (create scope o).run script guards w = .done r w') :
    Story scope o script guards w w' r := by
  rcases Saga.bind_done.mp ended with ⟨_, _, validated, naming⟩ | ⟨e, validated, rfl⟩
  · obtain ⟨-, rfl⟩ := Task.pure_done.mp validated
    rcases Saga.bind_done.mp naming with ⟨name, v, drawn, starting⟩ | ⟨e, drawn, rfl⟩
    · obtain ⟨_ | suffix, draws, named⟩ := freshName_makes drawn
      · cases named
      · cases named
        obtain ⟨started, parts, v', ran, given⟩ := Recorded.runFrom_bind_done.mp starting
        obtain ⟨forward, makes, starts, rfl⟩ := start_makes ran
        have makes : w.Makes script (draw (.ok suffix) :: forward) v' := draws.trans makes
        cases started with
        | ok host =>
          obtain ⟨rfl, rfl⟩ := Task.pure_done.mp given
          have all := starts.made?.2 rfl
          rw [all]
          exact .connected rfl makes starts all starts.connection?
        | error e =>
          have rooted := Nat.lt_of_lt_of_le rooted makes.fresh_le
          obtain ⟨back, teardown, f, undone, rfl⟩ := rollsBack_of_done rooted given
          refine .undone rfl makes starts rfl starts.made?.1 undone ?_
          rw [List.filterMap_append, starts.connection?, undone.connection?]
          rfl
    · obtain ⟨_ | suffix, draws, failed⟩ := freshName_makes drawn
      · cases failed
        exact .unnamed draws
      · cases failed
  · obtain ⟨invalid, -⟩ := Task.pure_done.mp validated
    rw [valid] at invalid
    cases invalid

/-- Whatever the calls come to, a worker is made step by step up to the first step that fails; it
is handed out with all its parts and a client that is connected at the host that was found, or else
what was made is deleted, each part by one call, and every failure is told of. -/
theorem create_story (rooted : script.root < w.clock.fresh)
    (ended : (create scope o).run script guards w = .done r w') :
    ((o.ns = "" ∨ o.image = "" ∨ o.port = 0) ∧
        ∃ e, o.validate = .error e ∧ r = .error e ∧ w' = w) ∨
      (o.ns ≠ "" ∧ o.image ≠ "" ∧ o.port ≠ 0) ∧ Story scope o script guards w w' r := by
  cases validated : o.validate with
  | ok _ => exact .inr ⟨validate_eq_ok.mp validated, story_of_done rooted validated ended⟩
  | error e =>
    have invalid : ¬ (o.ns ≠ "" ∧ o.image ≠ "" ∧ o.port ≠ 0) := by
      rw [← validate_eq_ok, validated]
      exact nofun
    rcases Saga.bind_done.mp ended with ⟨_, _, refused, _⟩ | ⟨e', refused, rfl⟩
    · obtain ⟨valid, -⟩ := Task.pure_done.mp refused
      rw [validated] at valid
      cases valid
    · obtain ⟨same, rfl⟩ := Task.pure_done.mp refused
      rw [validated] at same
      cases same
      exact .inl ⟨by tauto, e, rfl, rfl, rfl⟩

end Story

/-- The caller is cancelled while waiting for endpoints, and the pod cannot be deleted in time. -/
def stranded : Script (Cloud .silent) where
  root := 0
  answer
    | _, .await (.endpoints _) _ _ => ⟨true, true, 0, .ok ()⟩
    | history, c => (Cloud.grudging .pod ⟨false, true, 0, .ok ()⟩).answer history c

/-- The pod and the service are asked for to be deleted nevertheless. -/
theorem create_story_of_stranded_pod :
    ∃ r w', (create .unbounded (.new "prod" "worker:1")).run stranded [] .initial = .done r w' ∧
      r.isOk = false ∧ w'.log.length = 7 ∧
      Story .unbounded (.new "prod" "worker:1") stranded [] .initial w' r := by
  have ends : ∃ r w', (create .unbounded (.new "prod" "worker:1")).run stranded [] .initial =
      .done r w' ∧ r.isOk = false ∧ w'.log.length = 7 := ⟨_, _, rfl, rfl, rfl⟩
  obtain ⟨r, w', ended, failed, calls⟩ := ends
  rcases create_story Nat.zero_lt_one ended with ⟨missing, -⟩ | ⟨-, story⟩
  · exact absurd missing (by decide)
  · exact ⟨r, w', ended, failed, calls, story⟩

end Worker

end Recovery
