import Recovery.Proofs.Timed.Shelter
import Recovery.Timed.Recorded
/-!
# What a task leaves on record

`Task.Only p` bounds what a task may put on record, however it is left: marks of calls that satisfy
`p` and no others. A single call is described exactly. Whether it is cut short by a given guard
depends on the guards within: a guard with the same deadline that stands further in is noticed
first.
-/
set_option autoImplicit false

namespace Recovery

variable {I : Interface} {α β : Type}

/-- The call that a mark is about. -/
def Mark.call : Mark I → I.Call
  | .began entry => entry.call
  | .ended _ call _ => call

namespace Task

/-- However the task is left, it has put nothing on record but calls of this sort. -/
def Only (p : I.Call → Prop) (task : Task I α) : Prop :=
  ∀ (script : Script I) (guards : List Guard) (w : World I),
    ∃ added, w.Adds script added (task script guards w).world ∧ ∀ m ∈ added, p m.call

/-- Leaves nothing on record and cancels nothing but the root. -/
abbrev Idle (task : Task I α) : Prop := Only (fun _ => False) task

namespace Only

variable {p q : I.Call → Prop} {task : Task I α}

theorem mono (h : Only p task) (weaker : ∀ c, p c → q c) : Only q task := by
  intro script guards w
  obtain ⟨added, adds, only⟩ := h script guards w
  exact ⟨added, adds, fun m hm => weaker _ (only m hm)⟩

theorem of_adds (h : ∀ (script : Script I) (guards : List Guard) (w : World I),
    w.Adds script [] (task script guards w).world) : Only p task :=
  fun script guards w => ⟨[], h script guards w, by simp⟩

theorem done (h : Only p task) {script : Script I} {guards : List Guard} {w w' : World I} {a : α}
    (ended : task script guards w = .done a w') :
    ∃ added, w.Adds script added w' ∧ ∀ m ∈ added, p m.call := by
  have := h script guards w
  rwa [ended] at this

theorem bind {next : α → Task I β} (h : Only p task) (h' : ∀ a, Only p (next a)) :
    Only p (task >>= next) := by
  intro script guards w
  obtain ⟨added, adds, only⟩ := h script guards w
  rw [bind_run]
  cases ended : task script guards w with
  | done a v =>
    rw [ended] at adds
    obtain ⟨later, adds', only'⟩ := h' a script guards v
    refine ⟨added ++ later, adds.trans adds', fun m hm => ?_⟩
    exact (List.mem_append.mp hm).elim (only m) (only' m)
  | interrupted outside why v =>
    rw [ended] at adds
    exact ⟨added, adds, only⟩
  | endless v =>
    rw [ended] at adds
    exact ⟨added, adds, only⟩

theorem pure (a : α) : Only p (Pure.pure a : Task I α) := of_adds fun _ _ w => .refl w

theorem map (f : α → β) (h : Only p task) : Only p (f <$> task) := by
  rw [map_eq_pure_bind]
  exact h.bind fun _ => .pure _

theorem within (g : Guard) (h : Only p task) : Only p (Task.within g task) := by
  intro script guards w
  rw [within_world]
  exact h script (g :: guards) w

end Only

theorem only_clock {p : I.Call → Prop} : Only p (clock : Task I Clock) :=
  .of_adds fun _ _ w => .refl w

theorem only_onClock {p : I.Call → Prop} {step : Clock → α × Clock}
    (spares : ∀ c t, c.Spares t → (step c).2.Spares t) : Only p (onClock step : Task I α) := by
  refine .of_adds fun script guards w =>
    .of_spares (w.clock.precedes_step _).fresh_le fun t _ h => ?_
  unfold Clock.step
  split
  · exact spares _ t h
  · exact h

theorem idle_pause (milliseconds : Nat) : Idle (pause milliseconds : Task I Unit) := by
  refine .of_adds fun script guards w => ?_
  have h : w.Adds script [] _ := .rest w guards (some (w.clock.now + milliseconds))
  simp only [pause]
  cases ended : w.clock.rest guards (some (w.clock.now + milliseconds)) <;> rwa [ended] at h

theorem idle_hang : Idle (hang : Task I α) := by
  refine .of_adds fun script guards w => ?_
  have h : w.Adds script [] _ := .rest w guards none
  simp only [hang]
  cases ended : w.clock.rest guards none <;> rwa [ended] at h

theorem idle_sleep (milliseconds : Nat) : Idle (sleep milliseconds : Task I Unit) := by
  unfold sleep
  split
  · exact .pure ()
  · exact idle_pause _

theorem idle_cancelRoot : Idle (cancelRoot : Task I Unit) := .of_adds fun _ _ w => .cancelRoot w

theorem idle_ripen (outcome : Outcome α) : Idle (ripen outcome : Task I (Except Fault α)) := by
  unfold ripen
  split
  · exact idle_hang
  · exact (idle_sleep _).bind fun _ => .pure _

theorem idle_play (outcome : Outcome α) : Idle (play outcome : Task I (Except Fault α)) := by
  unfold play
  dsimp only
  split
  · exact idle_cancelRoot.bind fun _ => idle_ripen outcome
  · exact idle_ripen outcome

/-! ## A single call -/

section Call

variable {c : I.Call} {script : Script I} {guards : List Guard} {w w' : World I}
  {outside : Nat} {why : Interrupt}

theorem idle_adds {task : Task I α} (h : Idle task) (script : Script I) (guards : List Guard)
    (w : World I) : w.Adds script [] (task script guards w).world := by
  obtain ⟨added, adds, none⟩ := h script guards w
  rwa [List.eq_nil_iff_forall_not_mem.mpr none] at adds

theorem idle_done {task : Task I α} (h : Idle task) {a : α}
    (ended : task script guards w = .done a w') : w.Adds script [] w' := by
  have adds := idle_adds h script guards w
  rwa [ended] at adds

theorem idle_interrupted {task : Task I α} (h : Idle task)
    (ended : task script guards w = .interrupted outside why w') : w.Adds script [] w' := by
  have adds := idle_adds h script guards w
  rwa [ended] at adds

theorem idle_endless {task : Task I α} (h : Idle task)
    (ended : task script guards w = .endless w') : w.Adds script [] w' := by
  have adds := idle_adds h script guards w
  rwa [ended] at adds

/-- A call that is seen through has begun and has ended. -/
theorem call_done {r : Except Fault (I.Reply c)} (h : call c script guards w = .done r w') :
    w.Adds script [.began ⟨w.clock.now, c⟩, .ended w'.clock.now c r] w' := by
  obtain ⟨outcome, v, started, h⟩ := bind_done.mp h
  obtain ⟨r', v', played, h⟩ := bind_done.mp h
  obtain ⟨_, v'', finished, h⟩ := bind_done.mp h
  obtain ⟨rfl, rfl⟩ := pure_done.mp h
  obtain ⟨rfl, rfl⟩ := Step.done.inj started
  obtain ⟨-, rfl⟩ := Step.done.inj finished
  exact ((World.Adds.mark w _).trans (idle_done (idle_play _) played)).trans (.mark v' _)

/-- A call that is cut short has begun. -/
theorem call_interrupted (h : call c script guards w = .interrupted outside why w') :
    w.Adds script [.began ⟨w.clock.now, c⟩] w' := by
  rcases bind_interrupted.mp h with started | ⟨outcome, v, started, h⟩
  · cases started
  cases started
  rcases bind_interrupted.mp h with played | ⟨r, v, played, h⟩
  · exact (World.Adds.mark w _).trans (idle_interrupted (idle_play _) played)
  · rcases bind_interrupted.mp h with finished | ⟨_, v', _, h⟩
    · cases finished
    · cases h

/-- So has one that never ends. -/
theorem call_endless (h : call c script guards w = .endless w') :
    w.Adds script [.began ⟨w.clock.now, c⟩] w' := by
  rcases bind_endless.mp h with started | ⟨outcome, v, started, h⟩
  · cases started
  cases started
  rcases bind_endless.mp h with played | ⟨r, v, played, h⟩
  · exact (World.Adds.mark w _).trans (idle_endless (idle_play _) played)
  · rcases bind_endless.mp h with finished | ⟨_, v', _, h⟩
    · cases finished
    · cases h

theorem only_call (c : I.Call) : Only (· = c) (call c) := by
  have start : Only (· = c) (start c) := fun _ _ w => ⟨_, .mark w _, by simp [Mark.call]⟩
  have finish (r : Except Fault (I.Reply c)) : Only (· = c) (finish c r) :=
    fun _ _ w => ⟨_, .mark w _, by simp [Mark.call]⟩
  exact start.bind fun _ => ((idle_play _).mono fun _ => False.elim).bind fun r =>
    (finish r).bind fun _ => .pure _

/-! Which guard cuts a call short. -/

section Cut

variable {front back : List Guard} {g : Guard}

theorem ripen_ne {outcome : Outcome α} (spared : ∀ t ∈ g.tokens, w.clock.Spares t)
    (sooner : ∀ instant, (outcome.hangs = false → instant < w.clock.now + outcome.delay) →
      g.isExpired instant = true → ∃ f ∈ front, f.isExpired instant = true) :
    ripen outcome script (front ++ g :: back) w ≠ .interrupted back.length why w' := by
  intro h
  unfold ripen at h
  split at h
  · rename_i hangs
    cases rested : w.clock.rest (front ++ g :: back) none <;> simp only [hang, rested] at h <;>
      cases h
    exact Clock.rest_ne spared (by simp) (fun instant _ => sooner instant (by simp [hangs])) rested
  · rcases bind_interrupted.mp h with h | ⟨_, _, _, h⟩
    · unfold sleep at h
      split at h
      · cases h
      · cases rested : w.clock.rest (front ++ g :: back) (some (w.clock.now + outcome.delay)) <;>
          simp only [pause, rested] at h <;> cases h
        refine Clock.rest_ne spared ?_ (fun instant before => sooner instant fun _ => ?_) rested
        · rintro t ⟨⟩
          omega
        · exact before _ rfl
    · cases h

theorem play_ne {outcome : Outcome α} {s : Scope} (sheltered : w.Shelters script s)
    (guard : g.tokens = s.tokens)
    (sooner : ∀ instant, (outcome.hangs = false → instant < w.clock.now + outcome.delay) →
      g.isExpired instant = true → ∃ f ∈ front, f.isExpired instant = true) :
    play outcome script (front ++ g :: back) w ≠ .interrupted back.length why w' := by
  intro h
  unfold play at h
  dsimp only at h
  split at h
  · rcases bind_interrupted.mp h with h | ⟨_, v, cancelled, h⟩
    · cases h
    · cases cancelled
      refine ripen_ne (w := { w with clock := w.clock.cancel script.root }) (fun t ht => ?_)
        sooner h
      have := sheltered t (guard ▸ ht)
      exact this.2.cancel this.1
  · exact ripen_ne (fun t ht => (sheltered t (guard ▸ ht)).2) sooner h

end Cut

theorem call_ne (front : List Guard) {back : List Guard} {g : Guard} {s : Scope}
    (sheltered : w.Shelters script s) (guard : g.tokens = s.tokens)
    (sooner : ∀ instant, (let outcome := script.answer (w.log.map Entry.call) c
        outcome.hangs = false → instant < w.clock.now + outcome.delay) →
      g.isExpired instant = true → ∃ f ∈ front, f.isExpired instant = true) :
    call c script (front ++ g :: back) w ≠ .interrupted back.length why w' := by
  intro h
  rcases bind_interrupted.mp h with started | ⟨outcome, v, started, h⟩
  · cases started
  cases started
  rcases bind_interrupted.mp h with played | ⟨r, v, played, h⟩
  · exact play_ne (w := w.mark _) sheltered guard sooner played
  · rcases bind_interrupted.mp h with finished | ⟨_, v', _, h⟩
    · cases finished
    · cases h

end Call

end Task

/-! ## Sagas -/

namespace Saga

variable {p : I.Call → Prop} {saga : Saga I α}

theorem only_bind {next : α → Saga I β} (h : Task.Only p saga.run)
    (h' : ∀ a, Task.Only p (next a).run) : Task.Only p (saga >>= next).run := by
  rw [ExceptT.run_bind]
  refine h.bind fun r => ?_
  cases r with
  | ok a => exact h' a
  | error fault => exact .pure _

theorem only_pure (a : α) : Task.Only p (pure a : Saga I α).run := .pure _

theorem only_map (f : α → β) (h : Task.Only p saga.run) : Task.Only p (f <$> saga).run := by
  rw [map_eq_pure_bind]
  exact only_bind h fun _ => only_pure _

theorem only_ofTask {task : Task I α} (h : Task.Only p task) : Task.Only p (ofTask task).run :=
  h.map _

theorem only_fail (fault : Fault) : Task.Only p (fail fault : Saga I α).run := .pure _

theorem only_during (context : String) (h : Task.Only p saga.run) :
    Task.Only p (saga.during context).run := h.map _

theorem only_mapFault (change : Fault → Fault) (h : Task.Only p saga.run) :
    Task.Only p (saga.mapFault change).run := h.map _

end Saga

namespace Recorded

variable {σ τ : Type} {p : I.Call → Prop} {saga : Recorded σ I α}

/-- The same of a recorded saga, whatever is on its record. -/
def Only (p : I.Call → Prop) (saga : Recorded σ I α) : Prop :=
  ∀ record, Task.Only p (saga.runFrom record)

theorem only_bind {next : α → Recorded σ I β} (h : Only p saga) (h' : ∀ a, Only p (next a)) :
    Only p (saga >>= next) := by
  intro record
  rw [runFrom_bind]
  refine (h record).bind fun (r, record) => ?_
  cases r with
  | ok a => exact h' a record
  | error fault => exact .pure _

theorem only_pure (a : α) : Only p (pure a : Recorded σ I α) := fun _ => .pure _

theorem only_get : Only p (get : Recorded σ I σ) := fun _ => .pure _

theorem only_set (record : σ) : Only p (set record : Recorded σ I PUnit) := fun _ => .pure _

theorem only_modify (change : σ → σ) : Only p (modify change : Recorded σ I PUnit) :=
  fun _ => .pure _

theorem only_ofSaga {saga : Saga I α} (h : Task.Only p saga.run) :
    Only p (ofSaga saga : Recorded σ I α) := fun _ => h.bind fun _ => .pure _

theorem only_ofResult (r : Except Fault α) : Only p (ofResult r : Recorded σ I α) :=
  only_ofSaga (.pure r)

theorem only_zoom {get : τ → σ} {set : σ → τ → τ} (h : Only p saga) : Only p (zoom get set saga) :=
  fun record => (h (get record)).bind fun _ => .pure _

theorem only_evalFrom (h : Only p saga) (record : σ) : Task.Only p (saga.evalFrom record).run :=
  (h record).map _

end Recorded

end Recovery
