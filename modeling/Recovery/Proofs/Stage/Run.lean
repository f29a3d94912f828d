import Mathlib.Data.List.Induction
import Mathlib.Data.Set.Defs
import Recovery.Proofs.Stage.Failure
/-!
# Nothing leaks and nothing is hidden

What a whole run of a stage of recipes leaves behind: every object that was made has been asked to
be deleted once, after it was made, and the result tells of every failure on the way.
-/
set_option autoImplicit false

namespace Recovery

variable {Other : Interface}

namespace Ledger

theorem made?_eq_some {m : Mark (Cloud Other)} {key : ObjectKey} (h : m.made? = some key) :
    ∃ instant ns object, m = .ended instant (.create ns object) (.ok ()) ∧
      key = ⟨object.kind, ns, object.name⟩ := by
  unfold Mark.made? at h
  split at h
  · rename_i instant ns object _
    exact ⟨instant, ns, object, rfl, (Option.some.inj h).symm⟩
  · cases h

/-- The API does not create an object that exists already, unless its deletion has been asked
for. -/
def Refuses (existing : Set ObjectKey) (run : List (Mark (Cloud Other))) : Prop :=
  ∀ past instant ns object, past ++ [.ended instant (.create ns object) (.ok ())] <+: run →
    ⟨object.kind, ns, object.name⟩ ∈ existing → ⟨object.kind, ns, object.name⟩ ∈ asked past

/-- What exists already is neither made nor asked to be deleted. -/
theorem spares_existing {existing : Set ObjectKey} {run : List (Mark (Cloud Other))}
    (ordered : ∀ past, past <+: run → asked past ≤ made past) (refuses : Refuses existing run) :
    ∀ key ∈ existing, key ∉ asked run := by
  intro key exists_
  have unmade (past : List (Mark (Cloud Other))) (hp : past <+: run) : key ∉ made past := by
    induction past using List.reverseRecOn with
    | nil => exact Multiset.notMem_zero key
    | append_singleton past m ih =>
      have earlier : past <+: run := (List.prefix_append past [m]).trans hp
      rw [made_append, Multiset.mem_add, not_or]
      refine ⟨ih earlier, fun last => ?_⟩
      obtain ⟨m', hm', made⟩ := List.mem_filterMap.mp (Multiset.mem_coe.mp last)
      obtain rfl := List.mem_singleton.mp hm'
      obtain ⟨instant, ns, object, rfl, rfl⟩ := made?_eq_some made
      have asked := refuses past instant ns object hp exists_
      exact ih earlier (Multiset.mem_of_le (ordered past earlier) asked)
  exact fun asked => unmade run (List.prefix_refl run)
    (Multiset.mem_of_le (ordered run (List.prefix_refl run)) asked)

end Ledger

namespace Stage

section Run

variable {script : Script (Cloud Other)} {guards : List Guard} {scope : Scope} {o : StageOptions}
  {actions : List (NamedAction Recipe)} {r : Except Fault Unit} {w w' : World (Cloud Other)}

/-- Every object that a run makes is asked to be deleted once, after it was made, and no other one
is, as long as the clients close within the time for cleanups. -/
theorem run_deletes_what_it_makes (rooted : script.root < w.clock.fresh)
    (new : ∀ a ∈ actions, a.action.IsNew)
    (ended : (run scope Worker.provisioner o actions).run script guards w = .done r w')
    (closes : script.ClosesWithin o.cleanupTimeout w.marks w'.marks) :
    ∃ ms, w'.marks = w.marks ++ ms ∧ Ledger.asked ms = Ledger.made ms ∧
      (∀ past, past <+: ms → Ledger.asked past ≤ Ledger.made past) ∧
      ∀ existing, Ledger.Refuses existing ms → ∀ key ∈ existing, key ∉ Ledger.asked ms := by
  obtain ⟨leaked, a, within, -⟩ := account_run rooted new ended
  obtain ⟨ms, marks, books⟩ := a.books
  refine ⟨ms, marks, ?_, books.ordered, fun existing => Ledger.spares_existing books.ordered⟩
  have balance := books.balance
  rw [within closes, add_zero] at balance
  exact balance.symm

/-- Restores the dumps of a cluster into itself. -/
def restoration : NamedAction Recipe where
  name := "restore"
  action := .clusterRestore ⟨"prod", "main", none, "dr", .issuer "ca", [], false, .default, none⟩

theorem restoration_isNew : ∀ a ∈ [restoration], a.action.IsNew :=
  List.forall_mem_singleton.mpr rfl

def restorationOptions : StageOptions := ⟨.new "prod" "worker:1", [], 120000⟩

/-- A pod whose deletion hangs keeps nothing else from being deleted. -/
theorem run_deletes_what_it_makes_clinging_pod :
    ∃ r w', (run .unbounded Worker.provisioner restorationOptions [restoration]).run
        (Cloud.grudging .pod ⟨false, true, 0, .ok ()⟩) [] .initial = .done r w' ∧
      (Ledger.made w'.marks).card = 3 ∧
      ∃ ms, w'.marks = [] ++ ms ∧ Ledger.asked ms = Ledger.made ms ∧
        (∀ past, past <+: ms → Ledger.asked past ≤ Ledger.made past) ∧
        ∀ existing, Ledger.Refuses existing ms → ∀ key ∈ existing, key ∉ Ledger.asked ms := by
  have ends : ∃ r w', (run .unbounded Worker.provisioner restorationOptions [restoration]).run
      (Cloud.grudging .pod ⟨false, true, 0, .ok ()⟩) [] .initial = .done r w' ∧
      (Ledger.made w'.marks).card = 3 := ⟨_, _, rfl, rfl⟩
  obtain ⟨r, w', ended, made⟩ := ends
  exact ⟨r, w', ended, made, run_deletes_what_it_makes Nat.zero_lt_one restoration_isNew ended
    fun _ _ _ _ => ⟨rfl, Nat.zero_le _⟩⟩

/-- A run that succeeds has deleted every object that it made and closed the client of its worker;
every failure of a deletion, of closing a client or of a phase shows in the result. -/
theorem run_tells_all (rooted : script.root < w.clock.fresh)
    (new : ∀ a ∈ actions, a.action.IsNew)
    (ended : (run scope Worker.provisioner o actions).run script guards w = .done r w') :
    ∃ ms, w'.marks = w.marks ++ ms ∧
      (r = .ok () → Ledger.removed ms = Ledger.made ms ∧
        ∃ instant, (.ended instant .closeClient (.ok ()) : Mark (Cloud Other)) ∈ ms) ∧
      ∀ e, (∃ instant kind ns name,
            (.ended instant (.delete kind ns name) (.error e) : Mark (Cloud Other)) ∈ ms) ∨
          (∃ instant, (.ended instant .closeClient (.error e) : Mark (Cloud Other)) ∈ ms) ∨
          Fails scope Worker.provisioner o actions script guards w e →
        ∃ f, r = .error f ∧ f.Shows e := by
  obtain ⟨leaked, a, -, ok⟩ := account_run rooted new ended
  obtain ⟨ms, marks, books⟩ := a.books
  refine ⟨ms, marks, fun same => ?_, fun e failed => ?_⟩
  · subst same
    obtain ⟨none, ms', marks', shut⟩ := ok rfl
    obtain rfl := List.append_cancel_left (marks.symm.trans marks')
    have balance := books.balance
    rw [none, add_zero] at balance
    exact ⟨(books.clean rfl).symm.trans balance.symm, shut⟩
  · have cited : ∃ f ∈ Fault.told r, f.Cites e := by
      rcases failed with ⟨_, _, _, _, deletion⟩ | ⟨_, closing⟩ | failed
      · exact books.cited e (List.mem_filterMap.mpr ⟨_, deletion, rfl⟩)
      · exact books.cited e (List.mem_filterMap.mpr ⟨_, closing, rfl⟩)
      · exact run_cites failed ended
    obtain ⟨f, hf, cites⟩ := cited
    cases r with
    | ok _ => cases hf
    | error fault =>
      obtain rfl := List.mem_singleton.mp hf
      exact ⟨f, rfl, cites.shows⟩

/-- A pod that the API refuses to delete. -/
theorem run_tells_all_of_refused_pod :
    ∃ r w', (run .unbounded Worker.provisioner restorationOptions [restoration]).run
        (Cloud.grudging .pod (.immediate (.error (.plain "forbidden")))) [] .initial =
          .done r w' ∧
      ∃ ms, w'.marks = [] ++ ms ∧
        (r = .ok () → Ledger.removed ms = Ledger.made ms ∧
          ∃ instant, (.ended instant .closeClient (.ok ()) : Mark (Cloud .silent)) ∈ ms) ∧
        ∀ e, (∃ instant kind ns name,
              (.ended instant (.delete kind ns name) (.error e) : Mark (Cloud .silent)) ∈ ms) ∨
            (∃ instant, (.ended instant .closeClient (.error e) : Mark (Cloud .silent)) ∈ ms) ∨
            Fails .unbounded Worker.provisioner restorationOptions [restoration]
              (Cloud.grudging .pod (.immediate (.error (.plain "forbidden")))) [] .initial e →
          ∃ f, r = .error f ∧ f.Shows e := by
  have ends : ∃ r w', (run .unbounded Worker.provisioner restorationOptions [restoration]).run
      (Cloud.grudging .pod (.immediate (.error (.plain "forbidden")))) [] .initial =
        .done r w' := ⟨_, _, rfl⟩
  obtain ⟨r, w', ended⟩ := ends
  exact ⟨r, w', ended, run_tells_all Nat.zero_lt_one restoration_isNew ended⟩

end Run

end Stage

end Recovery
