import Recovery.Proofs.Timed.Cleanup
import Recovery.Timed.Recorded
/-!
# Attempts

What a run leaves on record, read call by call: each call with its result, if it was seen through.
A list of calls is followed if they are made in order, up to the first one that does not let the
next one come.
-/
set_option autoImplicit false

namespace Recovery

variable {I : Interface} {α β σ : Type}

structure Attempt (I : Interface) where
  call : I.Call
  /-- There is none if the call was cut short. -/
  result : Option (Except Fault (I.Reply call))

namespace Attempt

def succeeded (a : Attempt I) : Bool :=
  match a.result with
  | some r => r.isOk
  | none => false

/-- What attempts put on record, one after the other. -/
inductive Leave : List (Attempt I) → List (Mark I) → Prop where
  | nil : Leave [] []
  | through (instant instant' : Nat) (c : I.Call) (r : Except Fault (I.Reply c))
      {attempts : List (Attempt I)} {marks : List (Mark I)} :
    Leave attempts marks →
    Leave (⟨c, some r⟩ :: attempts) (.began ⟨instant, c⟩ :: .ended instant' c r :: marks)
  | cut (instant : Nat) (c : I.Call) {attempts : List (Attempt I)} {marks : List (Mark I)} :
    Leave attempts marks → Leave (⟨c, none⟩ :: attempts) (.began ⟨instant, c⟩ :: marks)

theorem Leave.append {attempts later : List (Attempt I)} {marks marks' : List (Mark I)}
    (h : Leave attempts marks) (h' : Leave later marks') :
    Leave (attempts ++ later) (marks ++ marks') := by
  induction h with
  | nil => exact h'
  | through instant instant' c r _ ih => exact .through instant instant' c r ih
  | cut instant c _ ih => exact .cut instant c ih

theorem Leave.ended_mem {attempts : List (Attempt I)} {marks : List (Mark I)}
    (h : Leave attempts marks) {a : Attempt I} (mem : a ∈ attempts)
    {r : Except Fault (I.Reply a.call)} (given : a.result = some r) :
    ∃ instant, .ended instant a.call r ∈ marks := by
  induction h with
  | nil => cases mem
  | through instant instant' c r' _ ih =>
    rcases List.mem_cons.mp mem with rfl | mem
    · cases given
      exact ⟨instant', by simp⟩
    · obtain ⟨late, marked⟩ := ih mem
      exact ⟨late, List.mem_cons_of_mem _ (List.mem_cons_of_mem _ marked)⟩
  | cut instant c _ ih =>
    rcases List.mem_cons.mp mem with rfl | mem
    · cases given
    · obtain ⟨late, marked⟩ := ih mem
      exact ⟨late, List.mem_cons_of_mem _ marked⟩

/-- What is on record tells which attempts have left it. -/
theorem Leave.unique {attempts others : List (Attempt I)} {marks : List (Mark I)}
    (h : Leave attempts marks) (h' : Leave others marks) : attempts = others := by
  induction h generalizing others with
  | nil =>
    cases h'
    rfl
  | through instant instant' c r _ ih =>
    cases h' with
    | through _ _ _ _ rest => rw [ih rest]
    | cut _ _ rest => cases rest
  | cut instant c rest ih =>
    cases h' with
    | through _ _ _ _ _ => cases rest
    | cut _ _ rest' => rw [ih rest']

end Attempt

/-- The calls are made in order up to the first that lets nothing follow; the last argument says
whether all of them let the next one follow. -/
inductive Follows (advances : Attempt I → Prop) :
    List I.Call → List (Attempt I) → Bool → Prop where
  | finished : Follows advances [] [] true
  | stopped (a : Attempt I) (calls : List I.Call) : ¬ advances a →
    Follows advances (a.call :: calls) [a] false
  | advanced (a : Attempt I) {calls : List I.Call} {attempts : List (Attempt I)} {all : Bool} :
    advances a → Follows advances calls attempts all →
    Follows advances (a.call :: calls) (a :: attempts) all

namespace Follows

variable {advances : Attempt I → Prop} {calls later : List I.Call}
  {attempts attempts' : List (Attempt I)} {all : Bool}

theorem append (h : Follows advances calls attempts true)
    (h' : Follows advances later attempts' all) :
    Follows advances (calls ++ later) (attempts ++ attempts') all := by
  generalize complete : true = b at h
  induction h with
  | finished => exact h'
  | stopped => cases complete
  | advanced a good _ ih => exact .advanced a good (ih complete)

theorem stop (h : Follows advances calls attempts false) (later : List I.Call) :
    Follows advances (calls ++ later) attempts false := by
  generalize incomplete : false = b at h
  induction h with
  | finished => cases incomplete
  | stopped a calls bad => exact .stopped a (calls ++ later) bad
  | advanced a good _ ih => exact .advanced a good (ih incomplete)

/-- Of a single call it is known whether it lets anything follow. -/
theorem single (a : Attempt I) {b : Bool} (h : b = true ↔ advances a) :
    Follows advances [a.call] [a] b := by
  cases b with
  | true => exact .advanced a (h.mp rfl) .finished
  | false => exact .stopped a [] fun good => by cases h.mpr good

theorem call_mem (h : Follows advances calls attempts all) {a : Attempt I} (made : a ∈ attempts) :
    a.call ∈ calls := by
  induction h with
  | finished => cases made
  | stopped b calls _ =>
    rw [List.mem_singleton.mp made]
    exact List.mem_cons_self
  | advanced b _ _ ih =>
    rcases List.mem_cons.mp made with rfl | made
    · exact List.mem_cons_self
    · exact List.mem_cons_of_mem _ (ih made)

theorem foldl_eq (h : Follows advances calls attempts all) {note : σ → Attempt I → σ}
    (unnoted : ∀ record a, a.call ∈ calls → note record a = record) (record : σ) :
    attempts.foldl note record = record := by
  induction h with
  | finished => rfl
  | stopped a calls _ => exact unnoted record a List.mem_cons_self
  | advanced a _ _ ih =>
    rw [List.foldl_cons, unnoted record a List.mem_cons_self]
    exact ih fun record b hb => unnoted record b (List.mem_cons_of_mem _ hb)

end Follows

/-! ## Between two worlds -/

/-- From one world to the other just these attempts are made. -/
def World.Makes (script : Script I) (w : World I) (attempts : List (Attempt I)) (w' : World I) :
    Prop :=
  ∃ added, w.Adds script added w' ∧ Attempt.Leave attempts added

namespace World.Makes

variable {script : Script I} {w w' w'' : World I} {attempts later : List (Attempt I)}

theorem of_adds (h : w.Adds script [] w') : w.Makes script [] w' := ⟨[], h, .nil⟩

theorem refl (w : World I) : w.Makes script [] w := of_adds (.refl w)

theorem trans (h : w.Makes script attempts w') (h' : w'.Makes script later w'') :
    w.Makes script (attempts ++ later) w'' := by
  obtain ⟨added, adds, leave⟩ := h
  obtain ⟨added', adds', leave'⟩ := h'
  exact ⟨added ++ added', adds.trans adds', leave.append leave'⟩

theorem unique {others : List (Attempt I)} (h : w.Makes script attempts w')
    (h' : w.Makes script others w') : attempts = others := by
  obtain ⟨added, adds, leave⟩ := h
  obtain ⟨added', adds', leave'⟩ := h'
  obtain rfl := List.append_cancel_left (adds.marks.symm.trans adds'.marks)
  exact leave.unique leave'

theorem fresh_le (h : w.Makes script attempts w') : w.clock.fresh ≤ w'.clock.fresh := by
  obtain ⟨added, adds, -⟩ := h
  exact adds.fresh_le

theorem shelters (h : w.Makes script attempts w') {s : Scope} (sheltered : w.Shelters script s) :
    w'.Shelters script s := by
  obtain ⟨added, adds, -⟩ := h
  exact adds.shelters s sheltered

end World.Makes

section Call

variable {c : I.Call} {script : Script I} {guards : List Guard} {w w' : World I}

theorem Task.call_makes {r : Except Fault (I.Reply c)}
    (h : call c script guards w = .done r w') : w.Makes script [⟨c, some r⟩] w' :=
  ⟨_, call_done h, .through _ _ c r .nil⟩

theorem Task.call_makes_cut {outside : Nat} {why : Interrupt}
    (h : call c script guards w = .interrupted outside why w') :
    w.Makes script [⟨c, none⟩] w' :=
  ⟨_, call_interrupted h, .cut _ c .nil⟩

theorem Task.call_makes_endless (h : call c script guards w = .endless w') :
    w.Makes script [⟨c, none⟩] w' :=
  ⟨_, call_endless h, .cut _ c .nil⟩

theorem Scope.call_makes {s : Scope} {what : String} {r : Except Fault (I.Reply c)}
    (h : (s.call what c).run script guards w = .done r w') :
    w.Makes script [⟨c, some r⟩] w' :=
  ⟨_, call_done h, .through _ _ c r .nil⟩

end Call

/-! ## Sagas that follow a list of calls -/

/-- The saga follows the calls and succeeds if all of them let the next one follow. -/
structure Saga.Takes (advances : Attempt I → Prop) (saga : Saga I α) (calls : List I.Call) :
    Prop where
  attempts : ∀ {script : Script I} {guards : List Guard} {r : Except Fault α} {w w' : World I},
    saga.run script guards w = .done r w' →
    ∃ attempts, w.Makes script attempts w' ∧ Follows advances calls attempts r.isOk

/-- The same of a recorded saga, which notes the attempts in its record. -/
structure Recorded.Takes (advances : Attempt I → Prop) (note : σ → Attempt I → σ)
    (saga : Recorded σ I α) (calls : List I.Call) : Prop where
  attempts : ∀ {script : Script I} {guards : List Guard} {r : Except Fault α} {record record' : σ}
    {w w' : World I},
    saga.runFrom record script guards w = .done (r, record') w' →
    ∃ attempts, w.Makes script attempts w' ∧ Follows advances calls attempts r.isOk ∧
      record' = attempts.foldl note record

namespace Saga

variable {advances : Attempt I → Prop} {calls : List I.Call}

/-- What is reported of a failure makes no difference. -/
theorem Takes.mapFault {saga : Saga I α} (h : saga.Takes advances calls) (change : Fault → Fault) :
    (saga.mapFault change).Takes advances calls := by
  constructor
  intro script guards r w w' ended
  obtain ⟨r, ran, rfl⟩ := Task.map_done.mp ended
  obtain ⟨attempts, makes, follows⟩ := h.attempts ran
  cases r <;> exact ⟨attempts, makes, follows⟩

theorem Takes.during {saga : Saga I α} (h : saga.Takes advances calls) (context : String) :
    (saga.during context).Takes advances calls := h.mapFault _

end Saga

namespace Recorded

variable {advances : Attempt I → Prop} {note : σ → Attempt I → σ} {calls later : List I.Call}

theorem Takes.bind {saga : Recorded σ I α} {next : α → Recorded σ I β}
    (h : saga.Takes advances note calls) (h' : ∀ a, (next a).Takes advances note later) :
    (saga >>= next).Takes advances note (calls ++ later) := by
  constructor
  intro script guards r record record' w w' ended
  rcases bind_done.mp ended with ⟨a, middle, v, first, second⟩ | ⟨fault, first, rfl⟩
  · obtain ⟨done, makes, follows, rfl⟩ := h.attempts first
    obtain ⟨more, makes', follows', rfl⟩ := (h' a).attempts second
    exact ⟨done ++ more, makes.trans makes', follows.append follows', by rw [List.foldl_append]⟩
  · obtain ⟨done, makes, follows, noted⟩ := h.attempts first
    exact ⟨done, makes, follows.stop later, noted⟩

theorem takes_ofSaga {saga : Saga I α} (h : saga.Takes advances calls)
    (unnoted : ∀ record a, a.call ∈ calls → note record a = record) :
    (ofSaga saga : Recorded σ I α).Takes advances note calls := by
  constructor
  intro script guards r record record' w w' ended
  obtain ⟨ran, rfl⟩ := ofSaga_done.mp ended
  obtain ⟨attempts, makes, follows⟩ := h.attempts ran
  exact ⟨attempts, makes, follows, (follows.foldl_eq unnoted _).symm⟩

end Recorded

end Recovery
