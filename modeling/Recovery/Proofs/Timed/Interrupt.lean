import Recovery.Proofs.Timed.Record
/-!
# What interrupts an operation

An operation is only interrupted by a guard around it that has expired or was cancelled. A rest
never goes on beyond the instant at which it was to end, and ends then if nothing interrupts it.
-/
set_option autoImplicit false

namespace Recovery

namespace Guard

/-- The guard ends what it is around, for this reason. -/
def Trips (g : Guard) (c : Clock) : Interrupt → Prop
  | .cancelled => c.anyCancelled g.tokens = true
  | .expired => g.isExpired c.now = true

/-- One of the guards trips, with so many others around it. -/
inductive Interrupts (c : Clock) (why : Interrupt) : List Guard → Nat → Prop where
  | inner {g : Guard} {outer : List Guard} :
    g.Trips c why → Interrupts c why (g :: outer) outer.length
  | outer {g : Guard} {outer : List Guard} {outside : Nat} :
    Interrupts c why outer outside → Interrupts c why (g :: outer) outside

namespace Interrupts

variable {c : Clock} {why : Interrupt} {g : Guard} {guards : List Guard} {outside : Nat}

theorem lt_length (h : Interrupts c why guards outside) : outside < guards.length := by
  induction h with
  | inner _ => exact Nat.lt_succ_self _
  | outer _ ih => exact Nat.lt_succ_of_lt ih

theorem trips (h : Interrupts c why (g :: guards) guards.length) : g.Trips c why := by
  generalize count : guards.length = outside at h
  cases h with
  | inner trips => exact trips
  | outer h => exact absurd (count ▸ h.lt_length) (Nat.lt_irrefl _)

theorem outer_of_ne (h : Interrupts c why (g :: guards) outside)
    (other : outside ≠ guards.length) : Interrupts c why guards outside := by
  cases h with
  | inner _ => exact absurd rfl other
  | outer h => exact h

end Interrupts

variable {c : Clock} {guards : List Guard} {outside : Nat}

theorem interrupts_of_innermostExpired?
    (h : innermostExpired? c.now guards = some outside) :
    Interrupts c .expired guards outside := by
  induction guards with
  | nil => cases h
  | cons g outer ih =>
    rw [innermostExpired?] at h
    split at h
    · rename_i expired
      cases h
      exact .inner expired
    · exact .outer (ih h)

theorem interrupts_of_outermostCancelled?
    (h : outermostCancelled? c guards = some outside) :
    Interrupts c .cancelled guards outside := by
  induction guards with
  | nil => cases h
  | cons g outer ih =>
    rcases Option.or_eq_some_iff.mp h with h | ⟨_, h⟩
    · exact .outer (ih h)
    · split at h
      · rename_i cancelled
        cases h
        exact .inner cancelled
      · cases h

theorem innermostExpired?_ne_none {instant : Nat} {guards : List Guard} {g : Guard}
    (mem : g ∈ guards) (expired : g.isExpired instant = true) :
    innermostExpired? instant guards ≠ none := by
  induction guards with
  | nil => cases mem
  | cons f outer ih =>
    rw [innermostExpired?]
    split
    · exact Option.some_ne_none _
    · rename_i running
      rcases List.mem_cons.mp mem with rfl | mem
      · exact absurd expired running
      · exact ih mem

theorem outermostCancelled?_ne_none {c : Clock} {guards : List Guard} {g : Guard}
    (mem : g ∈ guards) (cancelled : c.anyCancelled g.tokens = true) :
    outermostCancelled? c guards ≠ none := by
  induction guards with
  | nil => cases mem
  | cons f outer ih =>
    rw [outermostCancelled?]
    intro none
    obtain ⟨inner, here⟩ := Option.or_eq_none_iff.mp none
    rcases List.mem_cons.mp mem with rfl | mem
    · rw [if_pos cancelled] at here
      cases here
    · exact ih mem inner

end Guard

theorem earlier_eq {a b : Option Nat} {t : Nat} (h : earlier a b = some t) :
    a = some t ∨ b = some t := by
  cases a with
  | none => exact .inr h
  | some a =>
    cases b with
    | none => exact .inl h
    | some b =>
      have same : min a b = t := Option.some.inj h
      rcases Nat.le_total a b with le | le
      · exact .inl (by rw [← same, Nat.min_eq_left le])
      · exact .inr (by rw [← same, Nat.min_eq_right le])

theorem mem_of_earliest {instants : List (Option Nat)} {t : Nat}
    (h : earliest instants = some t) : some t ∈ instants := by
  induction instants with
  | nil => cases h
  | cons a rest ih =>
    rcases earlier_eq h with rfl | later
    · exact List.mem_cons_self
    · exact List.mem_cons_of_mem _ (ih later)

namespace Clock

variable {c d : Clock} {guards : List Guard} {outside : Nat} {why : Interrupt}

theorem interrupts_of_interruption?
    (h : c.interruption? guards = some (.interrupted outside why d)) :
    Guard.Interrupts d why guards outside := by
  unfold interruption? at h
  split at h
  · rename_i expired
    cases h
    exact Guard.interrupts_of_innermostExpired? expired
  · obtain ⟨_, cancelled, same⟩ := Option.map_eq_some_iff.mp h
    cases same
    exact Guard.interrupts_of_outermostCancelled? cancelled

theorem interrupts_of_rest {wake : Option Nat}
    (h : c.rest guards wake = .interrupted outside why d) :
    Guard.Interrupts d why guards outside := by
  unfold rest at h
  split at h
  · rename_i found
    exact interrupts_of_interruption? (found.trans (congrArg some h))
  · split at h
    · cases h
    · rename_i instant _
      dsimp only at h
      split at h
      · cases h
      · cases found : (c.ring.advance instant).interruption? guards with
        | none =>
          rw [found] at h
          cases h
        | some r =>
          rw [found, Option.getD_some] at h
          exact interrupts_of_interruption? (found.trans (congrArg some h))

theorem interruption?_now {r : Rest} (h : c.interruption? guards = some r) :
    r.clock.now = c.now := by
  unfold interruption? at h
  split at h
  · cases h
    rfl
  · obtain ⟨_, _, same⟩ := Option.map_eq_some_iff.mp h
    cases same
    rfl

theorem rest_now_le (guards : List Guard) {wake : Nat} (h : c.now ≤ wake) :
    (c.rest guards (some wake)).clock.now ≤ wake := by
  unfold rest
  split
  · rename_i found
    rw [interruption?_now found]
    exact h
  · split
    · exact h
    · rename_i instant first
      have advanced : (c.ring.advance instant).now ≤ wake :=
        Nat.max_le.mpr ⟨h, earlier_le first rfl⟩
      dsimp only
      split
      · exact advanced
      · cases found : (c.ring.advance instant).interruption? guards with
        | none => exact advanced
        | some r =>
          rw [Option.getD_some, interruption?_now found]
          exact advanced

theorem interruption?_ne_endless : c.interruption? guards ≠ some (.endless d) := by
  unfold interruption?
  split
  · simp
  · intro h
    obtain ⟨_, -, same⟩ := Option.map_eq_some_iff.mp h
    cases same

theorem interruption?_ne_wakes : c.interruption? guards ≠ some (.wakes d) := by
  unfold interruption?
  split
  · simp
  · intro h
    obtain ⟨_, -, same⟩ := Option.map_eq_some_iff.mp h
    cases same

theorem interruption?_of_expired {g : Guard} (mem : g ∈ guards)
    (expired : g.isExpired c.now = true) : c.interruption? guards ≠ none := by
  unfold interruption?
  split
  · exact Option.some_ne_none _
  · rename_i running
    exact absurd running (Guard.innermostExpired?_ne_none mem expired)

theorem interruption?_of_cancelled {g : Guard} (mem : g ∈ guards)
    (cancelled : c.ring.anyCancelled g.tokens = true) : c.interruption? guards ≠ none := by
  unfold interruption?
  split
  · exact Option.some_ne_none _
  · rw [ne_eq, Option.map_eq_none_iff]
    exact Guard.outermostCancelled?_ne_none mem cancelled

/-- At the instant of the next interruption there is one. -/
theorem interruption?_advance {instant : Nat} (next : c.nextInterruption? guards = some instant) :
    (c.advance instant).interruption? guards ≠ none := by
  have come : instant ≤ (c.advance instant).now := Nat.le_max_right ..
  rcases earlier_eq next with deadline | alarm
  · obtain ⟨g, mem, deadline⟩ := List.mem_map.mp (mem_of_earliest deadline)
    refine interruption?_of_expired mem ?_
    rw [Guard.isExpired, deadline]
    exact decide_eq_true come
  · obtain ⟨a, set, same⟩ := List.mem_map.mp (mem_of_earliest alarm)
    split at same
    · rename_i guarded
      cases same
      obtain ⟨g, mem, token⟩ := List.any_eq_true.mp guarded
      refine interruption?_of_cancelled mem ?_
      rw [anyCancelled, List.any_eq_true]
      refine ⟨a.token, List.contains_iff_mem.mp token, List.contains_iff_mem.mpr ?_⟩
      have kept : a ∈ (c.advance a.instant).alarms :=
        List.mem_filter.mpr ⟨set, by simp⟩
      exact List.mem_append_left _
        (List.mem_map_of_mem (List.mem_filter.mpr ⟨kept, decide_eq_true come⟩))
    · cases same

/-- A rest that is to end does so, unless it is interrupted. -/
theorem rest_ne_endless {wake : Nat} : c.rest guards (some wake) ≠ .endless d := by
  unfold rest
  intro h
  split at h
  · rename_i r found
    exact interruption?_ne_endless (found.trans (congrArg some h))
  · split at h
    · rename_i never
      cases next : c.ring.nextInterruption? guards <;> rw [next] at never <;> cases never
    · rename_i instant first
      dsimp only at h
      split at h
      · cases h
      · rename_i waking
        have next : c.ring.nextInterruption? guards = some instant :=
          (earlier_eq first).resolve_left waking
        obtain ⟨r, found⟩ := Option.ne_none_iff_exists'.mp (interruption?_advance next)
        rw [found, Option.getD_some] at h
        exact interruption?_ne_endless (found.trans (congrArg some h))

theorem rest_ne_wakes : c.rest guards none ≠ .wakes d := by
  unfold rest
  intro h
  split at h
  · rename_i found
    exact interruption?_ne_wakes (found.trans (congrArg some h))
  · split at h
    · cases h
    · rename_i instant _
      simp only [reduceCtorEq, if_false] at h
      cases found : (c.ring.advance instant).interruption? guards with
      | none =>
        rw [found] at h
        cases h
      | some r =>
        rw [found, Option.getD_some] at h
        exact interruption?_ne_wakes (found.trans (congrArg some h))

end Clock

namespace Task

variable {I : Interface} {α : Type} {script : Script I} {guards : List Guard} {w w' : World I}
  {outside : Nat} {why : Interrupt}

theorem pause_guarded {milliseconds : Nat}
    (h : pause milliseconds script guards w = .interrupted outside why w') :
    Guard.Interrupts w'.clock why guards outside := by
  simp only [pause] at h
  cases rested : w.clock.rest guards (some (w.clock.now + milliseconds)) <;>
    rw [rested] at h <;> cases h
  exact Clock.interrupts_of_rest rested

theorem pause_ne_endless {milliseconds : Nat} :
    pause milliseconds script guards w ≠ .endless w' := by
  intro h
  simp only [pause] at h
  cases rested : w.clock.rest guards (some (w.clock.now + milliseconds)) <;>
    rw [rested] at h <;> cases h
  exact Clock.rest_ne_endless rested

theorem pause_on_time (milliseconds : Nat) (script : Script I) (guards : List Guard)
    (w : World I) :
    (pause milliseconds script guards w).world.clock.now ≤ w.clock.now + milliseconds := by
  have on_time := w.clock.rest_now_le guards (Nat.le_add_right _ milliseconds)
  simp only [pause]
  cases rested : w.clock.rest guards (some (w.clock.now + milliseconds)) <;>
    rwa [rested] at on_time

theorem hang_guarded (h : (hang : Task I α) script guards w = .interrupted outside why w') :
    Guard.Interrupts w'.clock why guards outside := by
  simp only [hang] at h
  cases rested : w.clock.rest guards none <;> rw [rested] at h <;> cases h
  exact Clock.interrupts_of_rest rested

theorem hang_ne_done {a : α} : (hang : Task I α) script guards w ≠ .done a w' := by
  intro h
  simp only [hang] at h
  cases rested : w.clock.rest guards none <;> rw [rested] at h <;> cases h

theorem ripen_guarded {outcome : Outcome α}
    (h : (ripen outcome : Task I (Except Fault α)) script guards w =
      .interrupted outside why w') :
    Guard.Interrupts w'.clock why guards outside := by
  unfold ripen at h
  split at h
  · exact hang_guarded h
  · rcases bind_interrupted.mp h with slept | ⟨_, _, _, given⟩
    · unfold sleep at slept
      split at slept
      · cases slept
      · exact pause_guarded slept
    · cases given

theorem call_guarded {c : I.Call} (h : call c script guards w = .interrupted outside why w') :
    Guard.Interrupts w'.clock why guards outside := by
  rcases bind_interrupted.mp h with started | ⟨outcome, v, started, h⟩
  · cases started
  rcases bind_interrupted.mp h with played | ⟨r, v, _, h⟩
  · unfold play at played
    dsimp only at played
    split at played
    · rcases bind_interrupted.mp played with cancelled | ⟨_, _, _, ripened⟩
      · cases cancelled
      · exact ripen_guarded ripened
    · exact ripen_guarded played
  · rcases bind_interrupted.mp h with finished | ⟨_, v', _, given⟩
    · cases finished
    · cases given

end Task

end Recovery
