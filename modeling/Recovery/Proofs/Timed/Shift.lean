import Recovery.Proofs.Timed.Cleanup
/-!
# Clocks that are shifted

A clock is shifted against another if time has gone by and tokens have been given away before it
begins. Those may have been cancelled and have alarms set, then and later: a rest ends as it does by
the other clock, as long as the guards have tokens of the clock's own.
-/
set_option autoImplicit false

namespace Recovery

/-- From where the tokens and the instants of one world are counted in another. -/
structure Shift where
  token : Token
  instant : Nat

namespace Shift

def deadline (σ : Shift) (d : Option Nat) : Option Nat := d.map (σ.instant + ·)

def guard (σ : Shift) (g : Guard) : Guard := ⟨g.tokens.map (σ.token + ·), σ.deadline g.deadline⟩

def scope (σ : Shift) (s : Scope) : Scope := ⟨s.tokens.map (σ.token + ·), σ.deadline s.deadline⟩

@[simp] theorem guard_scope (σ : Shift) (s : Scope) : (σ.scope s).guard = σ.guard s.guard := rfl

end Shift

/-! ## Clocks -/

theorem earlier_shift (σ : Shift) (a b : Option Nat) :
    earlier (σ.deadline a) (σ.deadline b) = σ.deadline (earlier a b) := by
  cases a with
  | none => rfl
  | some a =>
    cases b with
    | none => rfl
    | some b => exact congrArg some (Nat.add_min_add_left ..)

theorem earliest_shift (σ : Shift) (instants : List (Option Nat)) :
    earliest (instants.map σ.deadline) = σ.deadline (earliest instants) := by
  induction instants with
  | nil => rfl
  | cons a rest ih =>
    show earlier (σ.deadline a) (earliest (rest.map σ.deadline)) = _
    rw [ih, earlier_shift]
    rfl

theorem earliest_none {instants : List (Option Nat)} (h : ∀ a ∈ instants, a = none) :
    earliest instants = none := by
  induction instants with
  | nil => rfl
  | cons a rest ih =>
    obtain ⟨rfl, rest_none⟩ := List.forall_mem_cons.mp h
    exact ih rest_none

namespace Clock

/-- The second clock shows what the first one does, shifted. It may know more, but no alarm of it is
for a token of the first, which has none set. -/
structure Shifted (σ : Shift) (c d : Clock) : Prop where
  now : d.now = σ.instant + c.now
  fresh : d.fresh = σ.token + c.fresh
  cancelled : ∀ t, σ.token + t ∈ d.cancelled ↔ t ∈ c.cancelled
  unset : c.alarms = []
  foreign : ∀ a ∈ d.alarms, a.token < σ.token

namespace Shifted

variable {σ : Shift} {c d : Clock} {guards : List Guard}

/-- Whatever has gone on, a world begins where it is set in. -/
theorem start (d : Clock) : Clock.start.Shifted ⟨d.fresh, d.now⟩ d where
  now := rfl
  fresh := rfl
  cancelled t := by
    refine iff_of_false (fun cancelled => ?_) List.not_mem_nil
    exact Nat.not_lt_of_le (Nat.le_add_right ..) (d.cancelled_lt _ cancelled)
  unset := rfl
  foreign := d.alarms_lt

theorem anyCancelled (h : c.Shifted σ d) (tokens : List Token) :
    d.anyCancelled (tokens.map (σ.token + ·)) = c.anyCancelled tokens := by
  simp only [Clock.anyCancelled, List.any_map]
  congr
  funext t
  simp [h.cancelled]

theorem ringWhere (h : c.Shifted σ d) (due due' : Alarm → Bool) :
    (c.ringWhere due).Shifted σ (d.ringWhere due') where
  now := h.now
  fresh := h.fresh
  cancelled t := by
    simp only [Clock.ringWhere, h.unset, List.filter_nil, List.map_nil, List.nil_append,
      List.mem_append, h.cancelled, or_iff_right_iff_imp]
    intro rung
    obtain ⟨a, due, token⟩ := List.mem_map.mp rung
    have before := h.foreign a (List.mem_filter.mp due).1
    exact absurd (token ▸ before) (Nat.not_lt_of_le (Nat.le_add_right ..))
  unset := by simp only [Clock.ringWhere, h.unset, List.filter_nil]
  foreign a set := h.foreign a (List.mem_filter.mp set).1

theorem ring (h : c.Shifted σ d) : c.ring.Shifted σ d.ring := h.ringWhere _ _

theorem advance (h : c.Shifted σ d) (instant : Nat) :
    (c.advance instant).Shifted σ (d.advance (σ.instant + instant)) where
  now := by
    have := h.now
    simp only [Clock.advance]
    omega
  fresh := h.fresh
  cancelled := (h.ringWhere _ _).cancelled
  unset := (h.ringWhere _ (fun _ => false)).unset
  foreign := (h.ringWhere (fun _ => false) _).foreign

/-- A token that was given away before makes no difference. -/
theorem cancel_before (h : c.Shifted σ d) {token : Token} (before : token < σ.token) :
    c.Shifted σ (d.cancel token) where
  now := h.now
  fresh := by
    have known : token + 1 ≤ d.fresh := h.fresh ▸ Nat.le_trans before (Nat.le_add_right ..)
    exact (Nat.max_eq_left known).trans h.fresh
  cancelled t := by
    rw [← h.cancelled t]
    refine ⟨fun cancelled => ?_, List.mem_cons_of_mem _⟩
    rcases List.mem_cons.mp cancelled with rfl | cancelled
    · exact absurd before (Nat.not_lt_of_le (Nat.le_add_right ..))
    · exact cancelled
  unset := h.unset
  foreign := h.foreign

theorem cancel (h : c.Shifted σ d) (token : Token) :
    (c.cancel token).Shifted σ (d.cancel (σ.token + token)) where
  now := h.now
  fresh := by
    simp only [Clock.cancel, Clock.claim, h.fresh, Nat.add_assoc]
    exact Nat.add_max_add_left ..
  cancelled t := by
    simp only [Clock.cancel, List.mem_cons, Nat.add_left_cancel_iff, h.cancelled]
  unset := h.unset
  foreign := h.foreign

theorem issue (h : c.Shifted σ d) : c.issue.2.Shifted σ d.issue.2 where
  now := h.now
  fresh := congrArg (· + 1) h.fresh
  cancelled := h.cancelled
  unset := h.unset
  foreign := h.foreign

/-! Which guard interrupts -/

theorem isExpired (h : c.Shifted σ d) (g : Guard) :
    (σ.guard g).isExpired d.now = g.isExpired c.now := by
  simp only [Guard.isExpired, Shift.guard, Shift.deadline, h.now]
  cases g.deadline <;> simp

theorem innermostExpired? (h : c.Shifted σ d) (guards : List Guard) :
    Guard.innermostExpired? d.now (guards.map σ.guard) =
      Guard.innermostExpired? c.now guards := by
  induction guards with
  | nil => rfl
  | cons g outer ih =>
    simp only [List.map_cons, Guard.innermostExpired?, h.isExpired, List.length_map, ih]

theorem outermostCancelled? (h : c.Shifted σ d) (guards : List Guard) :
    Guard.outermostCancelled? d (guards.map σ.guard) = Guard.outermostCancelled? c guards := by
  induction guards with
  | nil => rfl
  | cons g outer ih =>
    have same : d.anyCancelled (σ.guard g).tokens = c.anyCancelled g.tokens :=
      h.anyCancelled g.tokens
    simp only [List.map_cons, Guard.outermostCancelled?, same, List.length_map, ih]

/-- The alarms of the outer world are for none of the guards. -/
theorem nextInterruption? (h : c.Shifted σ d) (guards : List Guard) :
    d.nextInterruption? (guards.map σ.guard) = σ.deadline (c.nextInterruption? guards) := by
  have deadlines : (guards.map σ.guard).map Guard.deadline =
      (guards.map Guard.deadline).map σ.deadline := by
    simp [Shift.guard]
  have foreign : earliest (d.alarms.map fun a =>
      if (guards.map σ.guard).any (·.tokens.contains a.token) then some a.instant else none) =
        none := by
    refine earliest_none fun instant mem => ?_
    obtain ⟨a, set, rfl⟩ := List.mem_map.mp mem
    refine if_neg fun guarded => ?_
    obtain ⟨_, among, token⟩ := List.any_eq_true.mp guarded
    obtain ⟨g, -, rfl⟩ := List.mem_map.mp among
    obtain ⟨t, -, same⟩ := List.mem_map.mp (List.contains_iff_mem.mp token)
    exact absurd (same ▸ h.foreign a set) (Nat.not_lt_of_le (Nat.le_add_right ..))
  simp only [Clock.nextInterruption?, deadlines, foreign, earliest_shift, h.unset, List.map_nil]
  exact earlier_shift σ _ none

end Shifted

end Clock

/-! ## Rests -/

/-- The two rests end alike, with clocks that are shifted. -/
inductive Rest.Shifted (σ : Shift) : Rest → Rest → Prop where
  | wakes {c d : Clock} : c.Shifted σ d → Shifted σ (.wakes c) (.wakes d)
  | interrupted {c d : Clock} (outside : Nat) (why : Interrupt) : c.Shifted σ d →
    Shifted σ (.interrupted outside why c) (.interrupted outside why d)
  | endless {c d : Clock} : c.Shifted σ d → Shifted σ (.endless c) (.endless d)

namespace Clock.Shifted

variable {σ : Shift} {c d : Clock}

theorem interruption? (h : c.Shifted σ d) (guards : List Guard) :
    Option.Rel (Rest.Shifted σ) (c.interruption? guards)
      (d.interruption? (guards.map σ.guard)) := by
  unfold Clock.interruption?
  rw [h.innermostExpired?, h.ring.outermostCancelled?]
  cases Guard.innermostExpired? c.now guards with
  | some outside => exact .some (.interrupted outside .expired h)
  | none =>
    cases Guard.outermostCancelled? c.ring guards with
    | some outside => exact .some (.interrupted outside .cancelled h.ring)
    | none => exact .none

/-- What becomes of a rest is the same in both worlds. -/
theorem rest (h : c.Shifted σ d) (guards : List Guard) (wake : Option Nat) :
    (c.rest guards wake).Shifted σ (d.rest (guards.map σ.guard) (σ.deadline wake)) := by
  have begun := h.interruption? guards
  unfold Clock.rest
  generalize c.interruption? guards = found at begun
  generalize d.interruption? (guards.map σ.guard) = found' at begun
  cases begun with
  | some interrupted => exact interrupted
  | none =>
    dsimp only
    rw [h.ring.nextInterruption?, earlier_shift]
    cases earlier wake (c.ring.nextInterruption? guards) with
    | none => exact .endless h.ring
    | some instant =>
      have advanced := h.ring.advance instant
      have waking : σ.deadline wake = some (σ.instant + instant) ↔ wake = some instant := by
        cases wake <;> simp [Shift.deadline]
      have shifted : σ.deadline (some instant) = some (σ.instant + instant) := rfl
      rw [shifted]
      dsimp only
      by_cases wakes : wake = some instant
      · rw [if_pos wakes, if_pos (waking.mpr wakes)]
        exact .wakes advanced
      · rw [if_neg wakes, if_neg (mt waking.mp wakes)]
        have ended := advanced.interruption? guards
        generalize (c.ring.advance instant).interruption? guards = found at ended
        generalize (d.ring.advance (σ.instant + instant)).interruption? (guards.map σ.guard) =
          found' at ended
        cases ended with
        | some interrupted => exact interrupted
        | none => exact .endless advanced

end Clock.Shifted

/-! ## Scopes -/

namespace Scope

variable {σ : Shift} {c d : Clock}

theorem isCancelled_shift (h : c.Shifted σ d) (s : Scope) :
    (σ.scope s).isCancelled d = s.isCancelled c := h.anyCancelled s.tokens

theorem remaining_shift (h : c.Shifted σ d) (s : Scope) :
    (σ.scope s).remaining d = s.remaining c := by
  simp only [remaining, Shift.scope, Shift.deadline, h.now, Option.map_map]
  congr
  funext deadline
  exact Nat.add_sub_add_left ..

theorem derive_shift (h : c.Shifted σ d) (ancestors : List Token)
    (deadline : Option Nat) :
    (derive (ancestors.map (σ.token + ·)) (σ.deadline deadline) d).1 =
        σ.scope (derive ancestors deadline c).1 ∧
      (derive ancestors deadline c).2.Shifted σ
        (derive (ancestors.map (σ.token + ·)) (σ.deadline deadline) d).2 :=
  ⟨by simp only [derive, Clock.issue, h.fresh, Shift.scope, List.map_cons], h.issue⟩

theorem background_shift (h : c.Shifted σ d) :
    (background d).1 = σ.scope (background c).1 ∧
      (background c).2.Shifted σ (background d).2 := derive_shift h [] none

theorem child_shift (h : c.Shifted σ d) (s : Scope) :
    ((σ.scope s).child d).1 = σ.scope (s.child c).1 ∧
      (s.child c).2.Shifted σ ((σ.scope s).child d).2 := derive_shift h s.tokens s.deadline

theorem withTimeout_shift (h : c.Shifted σ d) (s : Scope)
    (milliseconds : Nat) :
    ((σ.scope s).withTimeout milliseconds d).1 = σ.scope (s.withTimeout milliseconds c).1 ∧
      (s.withTimeout milliseconds c).2.Shifted σ ((σ.scope s).withTimeout milliseconds d).2 := by
  have sooner : earlier (σ.scope s).deadline (some (d.now + milliseconds)) =
      σ.deadline (earlier s.deadline (some (c.now + milliseconds))) := by
    rw [← earlier_shift, h.now, Nat.add_assoc]
    rfl
  unfold withTimeout
  rw [sooner]
  exact derive_shift h s.tokens _

theorem detached_shift (h : c.Shifted σ d) (milliseconds : Nat) :
    (detached milliseconds d).1 = σ.scope (detached milliseconds c).1 ∧
      (detached milliseconds c).2.Shifted σ (detached milliseconds d).2 := by
  obtain ⟨root, shifted⟩ := background_shift h
  have timed := withTimeout_shift shifted (background c).1 milliseconds
  rw [← root] at timed
  exact timed

theorem cancel_shift (h : c.Shifted σ d) (s : Scope) :
    (s.cancel c).Shifted σ ((σ.scope s).cancel d) := by
  unfold cancel Shift.scope
  cases s.tokens with
  | nil => exact h
  | cons token _ => exact h.cancel token

end Scope

end Recovery
