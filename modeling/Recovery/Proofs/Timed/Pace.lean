import Recovery.Proofs.Timed.Forecast
/-!
# Beats under guards

Under guards, what becomes of a row of beats is settled by the instant at which the beats are over
and those at which the guards expire or are cancelled. The earliest of them decides; at one and the
same instant the end of the beats comes before all deadlines, the innermost first, and these before
all cancellations, the outermost first.
-/
set_option autoImplicit false

namespace Recovery

/-! ## Instants that may never come -/

/-- It does not come before this instant. -/
def NotBefore (t : Nat) (o : Option Nat) : Prop := ∀ x, o = some x → t ≤ x

theorem notBefore_none (t : Nat) : NotBefore t none := nofun

theorem notBefore_some {t x : Nat} : NotBefore t (some x) ↔ t ≤ x := by
  simp [NotBefore]

theorem NotBefore.mono {t u : Nat} {o : Option Nat} (h : NotBefore u o) (le : t ≤ u) :
    NotBefore t o := fun x same => Nat.le_trans le (h x same)

theorem notBefore_earlier {t : Nat} {a b : Option Nat} :
    NotBefore t (earlier a b) ↔ NotBefore t a ∧ NotBefore t b := by
  cases a with
  | none => simp [earlier, NotBefore]
  | some x =>
    cases b with
    | none => simp [earlier, NotBefore]
    | some y =>
      rw [earlier, notBefore_some, notBefore_some, notBefore_some]
      exact Nat.le_min

theorem notBefore_earliest {t : Nat} {instants : List (Option Nat)} :
    NotBefore t (earliest instants) ↔ ∀ a ∈ instants, NotBefore t a := by
  induction instants with
  | nil => simp [earliest, NotBefore]
  | cons a rest ih =>
    rw [List.forall_mem_cons, ← ih]
    exact notBefore_earlier

theorem notBefore_map_add {t now : Nat} (le : t ≤ now) (o : Option Nat) :
    NotBefore t (o.map (now + ·)) := by
  intro x same
  obtain ⟨y, -, rfl⟩ := Option.map_eq_some_iff.mp same
  exact Nat.le_trans le (Nat.le_add_right ..)

theorem map_add_map_add (now ms : Nat) (o : Option Nat) :
    (o.map (ms + ·)).map (now + ·) = o.map (now + ms + ·) := by
  cases o with
  | none => rfl
  | some x => exact congrArg some (Nat.add_assoc now ms x).symm

/-- What comes before the end of a rest comes before what follows it. -/
theorem notBefore_rests {t now ms : Nat} (le : t ≤ now + ms) (o : Option Nat) :
    NotBefore t ((o.map (ms + ·)).map (now + ·)) := by
  rw [map_add_map_add]
  exact notBefore_map_add le o

/-- Two instants are the same if they do not come before the same instants. -/
theorem eq_of_notBefore {a b : Option Nat} (h : ∀ t, NotBefore t a ↔ NotBefore t b) : a = b := by
  cases a with
  | none =>
    cases b with
    | none => rfl
    | some y => exact absurd (notBefore_some.mp ((h (y + 1)).mp (notBefore_none _))) (by omega)
  | some x =>
    cases b with
    | none => exact absurd (notBefore_some.mp ((h (x + 1)).mpr (notBefore_none _))) (by omega)
    | some y =>
      have le := notBefore_some.mp ((h x).mp (notBefore_some.mpr (Nat.le_refl x)))
      have ge := notBefore_some.mp ((h y).mpr (notBefore_some.mpr (Nat.le_refl y)))
      rw [Nat.le_antisymm le ge]

/-- What does not come before an instant nor then comes later. -/
theorem NotBefore.succ_iff {t : Nat} {o : Option Nat} (h : NotBefore t o) :
    NotBefore (t + 1) o ↔ o ≠ some t := by
  cases o with
  | none => simp [NotBefore]
  | some x =>
    rw [notBefore_some] at h ⊢
    rw [Ne, Option.some.injEq]
    omega

theorem earlier_eq_left {x : Nat} {o : Option Nat} (h : NotBefore x o) :
    earlier (some x) o = some x := by
  cases o with
  | none => rfl
  | some y => exact congrArg some (Nat.min_eq_left (notBefore_some.mp h))

theorem earlier_eq_right {x : Nat} {o : Option Nat} (h : NotBefore x o) :
    earlier o (some x) = some x := by
  cases o with
  | none => rfl
  | some y => exact congrArg some (Nat.min_eq_right (notBefore_some.mp h))

theorem earlier_none (o : Option Nat) : earlier o none = o := by
  cases o <;> rfl

/-! ## Cancellations -/

namespace Clock

variable {c d : Clock} {tokens : List Token} {t : Nat}

/-- None of the tokens is cancelled, and no alarm is set for one of them before this instant. -/
def Clear (c : Clock) (tokens : List Token) (t : Nat) : Prop :=
  (∀ token ∈ tokens, token ∉ c.cancelled) ∧
    ∀ a ∈ c.alarms, a.token ∈ tokens → t ≤ a.instant

theorem Clear.mono {u : Nat} (h : c.Clear tokens u) (le : t ≤ u) : c.Clear tokens t :=
  ⟨h.1, fun a set mem => Nat.le_trans le (h.2 a set mem)⟩

theorem anyCancelled_eq_false : c.anyCancelled tokens = false ↔ c.Clear tokens 0 := by
  simp [anyCancelled, Clear]

/-- Alarms before an instant ring. -/
theorem clear_ringWhere {due : Alarm → Bool} {u : Nat} (h : ∀ a, due a = true ↔ a.instant < u) :
    (c.ringWhere due).Clear tokens t ↔ c.Clear tokens (max t u) := by
  constructor
  · rintro ⟨spared, later⟩
    refine ⟨fun token mem cancelled =>
      spared token mem (List.mem_append_right _ cancelled), fun a set mem => ?_⟩
    have silent : due a = false := by
      refine eq_false_of_ne_true fun rings => spared a.token mem (List.mem_append_left _ ?_)
      exact List.mem_map_of_mem (List.mem_filter.mpr ⟨set, rings⟩)
    have kept : a ∈ (c.ringWhere due).alarms := List.mem_filter.mpr ⟨set, by simp [silent]⟩
    have after := later a kept mem
    have := mt (h a).mpr (Bool.not_eq_true _ ▸ silent)
    omega
  · rintro ⟨spared, later⟩
    refine ⟨fun token mem cancelled => ?_, fun a set mem => ?_⟩
    · rcases List.mem_append.mp cancelled with rung | cancelled
      · obtain ⟨a, rings, rfl⟩ := List.mem_map.mp rung
        have := later a (List.mem_filter.mp rings).1 mem
        have := (h a).mp (List.mem_filter.mp rings).2
        omega
      · exact spared token mem cancelled
    · have := later a (List.mem_filter.mp set).1 mem
      omega

theorem clear_ring : c.ring.Clear tokens t ↔ c.Clear tokens (max t (c.now + 1)) :=
  clear_ringWhere fun _ => decide_eq_true_iff.trans Nat.lt_succ_iff.symm

theorem clear_advance (instant : Nat) :
    (c.advance instant).Clear tokens t ↔ c.Clear tokens (max t instant) := by
  have rung : (c.ringWhere (·.instant < instant)).Clear tokens t ↔ c.Clear tokens (max t instant) :=
    clear_ringWhere fun a => by simp
  exact rung

theorem clear_cancel (token : Token) :
    (c.cancel token).Clear tokens t ↔ token ∉ tokens ∧ c.Clear tokens t := by
  constructor
  · rintro ⟨spared, later⟩
    exact ⟨fun mem => spared token mem List.mem_cons_self,
      fun t mem cancelled => spared t mem (List.mem_cons_of_mem _ cancelled), later⟩
  · rintro ⟨other, spared, later⟩
    refine ⟨fun t mem cancelled => ?_, later⟩
    rcases List.mem_cons.mp cancelled with rfl | cancelled
    · exact other mem
    · exact spared t mem cancelled

/-- The instant at which one of the tokens is cancelled first, as far as alarms are set for it. -/
def cancellation? (c : Clock) (tokens : List Token) : Option Nat :=
  if c.anyCancelled tokens then some c.now
  else earliest (c.alarms.map fun a =>
    if tokens.contains a.token then some (max c.now a.instant) else none)

theorem notBefore_cancellation? :
    NotBefore t (c.cancellation? tokens) ↔ t ≤ c.now ∨ c.Clear tokens t := by
  unfold cancellation?
  cases cancelled : c.anyCancelled tokens with
  | true =>
    have struck : ¬ c.Clear tokens t := fun clear => by
      simp [anyCancelled_eq_false.mpr (clear.mono (Nat.zero_le t))] at cancelled
    simp [struck, notBefore_some]
  | false =>
    have spared := (anyCancelled_eq_false.mp cancelled).1
    simp only [Bool.false_eq_true, if_false, notBefore_earliest, List.forall_mem_map]
    constructor
    · intro later
      by_cases past : t ≤ c.now
      · exact .inl past
      · refine .inr ⟨spared, fun a set mem => ?_⟩
        have := later a set
        rw [if_pos (List.contains_iff_mem.mpr mem), notBefore_some] at this
        omega
    · intro clear a set
      split
      · rename_i mem
        rw [notBefore_some]
        rcases clear with past | clear
        · omega
        · have := clear.2 a set (List.contains_iff_mem.mp mem)
          omega
      · exact notBefore_none t

theorem notBefore_now (c : Clock) (tokens : List Token) :
    NotBefore c.now (c.cancellation? tokens) := notBefore_cancellation?.mpr (.inl (Nat.le_refl _))

/-- A cancellation that is due now is noticed at the next rest. -/
theorem anyCancelled_ring_eq_false :
    c.ring.anyCancelled tokens = false ↔ NotBefore (c.now + 1) (c.cancellation? tokens) := by
  rw [notBefore_cancellation?, or_iff_right (Nat.not_succ_le_self _), anyCancelled_eq_false,
    clear_ring, Nat.zero_max]

theorem anyCancelled_ring :
    c.ring.anyCancelled tokens = true ↔ c.cancellation? tokens = some c.now := by
  rw [← Bool.not_eq_false, anyCancelled_ring_eq_false, (c.notBefore_now tokens).succ_iff, Ne,
    Classical.not_not]

/-- What is not cancelled yet is cancelled by the alarms that are still to ring. -/
theorem notBefore_cancellation?_of_clear (clear : c.Clear tokens (c.now + 1)) :
    NotBefore t (c.cancellation? tokens) ↔
      ∀ a ∈ c.ring.alarms, a.token ∈ tokens → t ≤ a.instant := by
  have rung := (clear_ring (c := c)).mpr (Nat.max_self (c.now + 1) ▸ clear)
  rw [notBefore_cancellation?, or_iff_right_of_imp fun le => clear.mono (Nat.le_succ_of_le le)]
  constructor
  · intro clear'
    refine (clear_ring.mpr ?_).2
    rcases Nat.le_total t (c.now + 1) with le | le
    · rwa [Nat.max_eq_right le]
    · rwa [Nat.max_eq_left le]
  · intro later
    exact (clear_ring.mp ⟨rung.1, later⟩).mono (Nat.le_max_left ..)

theorem cancellation?_cancel (token : Token) :
    (c.cancel token).cancellation? tokens =
      if token ∈ tokens then some c.now else c.cancellation? tokens := by
  refine eq_of_notBefore fun t => ?_
  have now : (c.cancel token).now = c.now := rfl
  rw [notBefore_cancellation?, clear_cancel, now]
  split
  · rename_i mem
    simp [mem, notBefore_some]
  · rename_i other
    simp [other, notBefore_cancellation?]

/-- Up to the first cancellation time makes no difference to it. -/
theorem cancellation?_advance {instant : Nat} (later : c.now < instant)
    (first : NotBefore instant (c.cancellation? tokens)) :
    (c.ring.advance instant).cancellation? tokens = c.cancellation? tokens := by
  have clear : c.Clear tokens instant :=
    (notBefore_cancellation?.mp first).resolve_left (by omega)
  have now : (c.ring.advance instant).now = instant := Nat.max_eq_right (Nat.le_of_lt later)
  refine eq_of_notBefore fun t => ?_
  rw [notBefore_cancellation?, notBefore_cancellation?, clear_advance, clear_ring, now]
  by_cases past : t ≤ instant
  · exact iff_of_true (.inl past) (.inr (clear.mono past))
  · rw [Nat.max_eq_left (Nat.le_of_not_le past), Nat.max_eq_left (by omega)]
    have : ¬ t ≤ c.now := by omega
    simp [past, this]

end Clock

/-! ## One rest -/

namespace Guard

variable {c : Clock} {guards : List Guard} {instant outside : Nat}

theorem isExpired_eq_false {g : Guard} :
    g.isExpired instant = false ↔ NotBefore (instant + 1) g.deadline := by
  rw [isExpired]
  cases g.deadline with
  | none => simp [NotBefore]
  | some deadline =>
    rw [notBefore_some]
    exact decide_eq_false_iff_not.trans Nat.not_le

theorem isExpired_eq_true {g : Guard} :
    g.isExpired instant = true ↔ ∃ deadline, g.deadline = some deadline ∧ deadline ≤ instant := by
  rw [isExpired]
  cases g.deadline <;> simp

theorem innermostExpired?_eq_none :
    innermostExpired? instant guards = none ↔
      ∀ g ∈ guards, NotBefore (instant + 1) g.deadline := by
  induction guards with
  | nil => simp [innermostExpired?]
  | cons g outer ih =>
    rw [innermostExpired?, List.forall_mem_cons, ← isExpired_eq_false]
    cases g.isExpired instant <;> simp [ih]

theorem outermostCancelled?_eq_none :
    outermostCancelled? c guards = none ↔ ∀ g ∈ guards, c.anyCancelled g.tokens = false := by
  induction guards with
  | nil => simp [outermostCancelled?]
  | cons g outer ih =>
    rw [outermostCancelled?, Option.or_eq_none_iff, ih, List.forall_mem_cons]
    cases c.anyCancelled g.tokens <;> simp

theorem innermostExpired?_eq_some (h : innermostExpired? instant guards = some outside) :
    ∃ inner g outer, guards = inner ++ g :: outer ∧ outside = outer.length ∧
      g.isExpired instant = true ∧ ∀ f ∈ inner, NotBefore (instant + 1) f.deadline := by
  induction guards with
  | nil => cases h
  | cons f others ih =>
    rw [innermostExpired?] at h
    split at h
    · rename_i expired
      exact ⟨[], f, others, rfl, (Option.some.inj h).symm, expired, List.forall_mem_nil _⟩
    · rename_i running
      obtain ⟨inner, g, outer, rfl, rfl, expired, later⟩ := ih h
      exact ⟨f :: inner, g, outer, rfl, rfl, expired, List.forall_mem_cons.mpr
        ⟨isExpired_eq_false.mp (eq_false_of_ne_true running), later⟩⟩

theorem outermostCancelled?_eq_some (h : outermostCancelled? c guards = some outside) :
    ∃ inner g outer, guards = inner ++ g :: outer ∧ outside = outer.length ∧
      c.anyCancelled g.tokens = true ∧ ∀ f ∈ outer, c.anyCancelled f.tokens = false := by
  induction guards with
  | nil => cases h
  | cons f others ih =>
    rcases Option.or_eq_some_iff.mp h with h | ⟨none, h⟩
    · obtain ⟨inner, g, outer, rfl, rfl, cancelled, spared⟩ := ih h
      exact ⟨f :: inner, g, outer, rfl, rfl, cancelled, spared⟩
    · split at h
      · rename_i cancelled
        exact ⟨[], f, others, rfl, (Option.some.inj h).symm, cancelled,
          outermostCancelled?_eq_none.mp none⟩
      · cases h

end Guard

/-- What settles a row of beats that begins now and is over when it wakes, if it ever does. It is
interrupted by the outermost of the guards that are cancelled first, or by the innermost of those
that expire first. -/
inductive Rest.Settles (guards : List Guard) (now : Nat) (cancellation : List Token → Option Nat)
    (wake : Option Nat) : Rest → Prop where
  | wakes {d : Clock} : wake = some d.now →
    d.now = now ∨ (∀ g ∈ guards, NotBefore d.now g.deadline) →
    (∀ g ∈ guards, NotBefore d.now (cancellation g.tokens)) →
    Settles guards now cancellation wake (.wakes d)
  | cancelled {d : Clock} {g : Guard} {inner outer : List Guard} : guards = inner ++ g :: outer →
    cancellation g.tokens = some d.now → NotBefore (d.now + 1) wake →
    (∀ f ∈ guards, NotBefore (d.now + 1) f.deadline) →
    (∀ f ∈ outer, NotBefore (d.now + 1) (cancellation f.tokens)) →
    (∀ f ∈ guards, NotBefore d.now (cancellation f.tokens)) →
    Settles guards now cancellation wake (.interrupted outer.length .cancelled d)
  | expired {d : Clock} {g : Guard} {inner outer : List Guard} {deadline : Nat} :
    guards = inner ++ g :: outer → g.deadline = some deadline → d.now = max now deadline →
    NotBefore (d.now + 1) wake → (∀ f ∈ inner, NotBefore (d.now + 1) f.deadline) →
    d.now = now ∨ (∀ f ∈ guards, NotBefore d.now f.deadline) →
    (∀ f ∈ guards, NotBefore d.now (cancellation f.tokens)) →
    Settles guards now cancellation wake (.interrupted outer.length .expired d)
  | endless {d : Clock} : wake = none → (∀ g ∈ guards, g.deadline = none) →
    (∀ g ∈ guards, cancellation g.tokens = none) →
    Settles guards now cancellation wake (.endless d)

/-- What is settled from an instant within the deadlines is settled from before it, if the guards
are cancelled at the same instants. -/
theorem Rest.Settles.sooner {r : Rest} {guards : List Guard} {now now' : Nat}
    {cancellation cancellation' : List Token → Option Nat} {wake : Option Nat}
    (h : r.Settles guards now' cancellation' wake) (le : now ≤ now')
    (in_time : now' = now ∨ ∀ g ∈ guards, NotBefore now' g.deadline)
    (same : ∀ g ∈ guards, cancellation' g.tokens = cancellation g.tokens) :
    r.Settles guards now cancellation wake := by
  have keeps {d : Clock} (h : d.now = now' ∨ ∀ g ∈ guards, NotBefore d.now g.deadline) :
      d.now = now ∨ ∀ g ∈ guards, NotBefore d.now g.deadline :=
    h.elim (fun now => now ▸ in_time) .inr
  cases h with
  | wakes waking kept spared =>
    exact .wakes waking (keeps kept) fun g mem => same g mem ▸ spared g mem
  | @cancelled d g inner outer split struck asleep ahead around spared =>
    have among {f : Guard} (mem : f ∈ g :: outer) : f ∈ guards :=
      split ▸ List.mem_append_right inner mem
    exact .cancelled split ((same g (among List.mem_cons_self)).symm.trans struck) asleep ahead
      (fun f mem => same f (among (List.mem_cons_of_mem g mem)) ▸ around f mem)
      (fun f mem => same f mem ▸ spared f mem)
  | @expired d g inner outer deadline split timed due asleep later kept spared =>
    have due' : d.now = max now deadline := by
      rcases in_time with rfl | in_time
      · exact due
      · have := in_time g (split ▸ List.mem_append_right inner List.mem_cons_self) deadline timed
        omega
    exact .expired split timed due' asleep later (keeps kept) fun f mem => same f mem ▸ spared f mem
  | endless asleep untimed spared =>
    exact .endless asleep untimed fun g mem => same g mem ▸ spared g mem

namespace Clock

variable {c : Clock} {guards : List Guard} {wake : Option Nat}

theorem interruption?_eq_none :
    c.interruption? guards = none ↔ (∀ g ∈ guards, NotBefore (c.now + 1) g.deadline) ∧
      ∀ g ∈ guards, NotBefore (c.now + 1) (c.cancellation? g.tokens) := by
  simp only [← anyCancelled_ring_eq_false, ← Guard.innermostExpired?_eq_none,
    ← Guard.outermostCancelled?_eq_none]
  unfold interruption?
  cases Guard.innermostExpired? c.now guards <;> simp

/-- What interrupts a rest at once settles it. -/
theorem settles_of_interruption? {r : Rest} (found : c.interruption? guards = some r)
    (asleep : NotBefore (c.now + 1) wake) : r.Settles guards c.now c.cancellation? wake := by
  unfold interruption? at found
  split at found
  · rename_i innermost
    obtain ⟨inner, g, outer, split, rfl, expired, later⟩ :=
      Guard.innermostExpired?_eq_some innermost
    obtain ⟨deadline, timed, passed⟩ := Guard.isExpired_eq_true.mp expired
    cases found
    exact .expired split timed (Nat.max_eq_left passed).symm asleep later (.inl rfl)
      fun f _ => c.notBefore_now f.tokens
  · rename_i running
    obtain ⟨outside, outermost, rfl⟩ := Option.map_eq_some_iff.mp found
    obtain ⟨inner, g, outer, split, rfl, cancelled, spared⟩ :=
      Guard.outermostCancelled?_eq_some outermost
    exact .cancelled (d := c.ring) split (anyCancelled_ring.mp cancelled) asleep
      (Guard.innermostExpired?_eq_none.mp running)
      (fun f mem => anyCancelled_ring_eq_false.mp (spared f mem))
      fun f _ => c.notBefore_now f.tokens

/-- What interrupts a rest next, if nothing does at once. -/
theorem notBefore_nextInterruption?_ring {t : Nat}
    (clear : ∀ g ∈ guards, c.Clear g.tokens (c.now + 1)) :
    NotBefore t (c.ring.nextInterruption? guards) ↔ (∀ g ∈ guards, NotBefore t g.deadline) ∧
      ∀ g ∈ guards, NotBefore t (c.cancellation? g.tokens) := by
  rw [nextInterruption?, notBefore_earlier, notBefore_earliest, notBefore_earliest,
    List.forall_mem_map, List.forall_mem_map]
  refine and_congr_right fun _ => ?_
  constructor
  · intro later g mem
    rw [notBefore_cancellation?_of_clear (clear g mem)]
    intro a set guarded
    have any : guards.any (·.tokens.contains a.token) = true :=
      List.any_eq_true.mpr ⟨g, mem, List.contains_iff_mem.mpr guarded⟩
    have := later a set
    rwa [if_pos any, notBefore_some] at this
  · intro spared a set
    split
    · rename_i guarded
      obtain ⟨g, mem, guarded⟩ := List.any_eq_true.mp guarded
      exact notBefore_some.mpr ((notBefore_cancellation?_of_clear (clear g mem)).mp (spared g mem) a
        set (List.contains_iff_mem.mp guarded))
    · exact notBefore_none t

/-- A rest that nothing cuts short at once goes on to the first of the instants at which it wakes or
a guard ends it. -/
theorem rest_settles_of_open (begun : c.interruption? guards = none)
    (later : NotBefore (c.now + 1) wake) :
    (c.rest guards wake).Settles guards c.now c.cancellation? wake ∧
      ∀ d, c.rest guards wake = .wakes d →
        ∀ g ∈ guards, d.cancellation? g.tokens = c.cancellation? g.tokens := by
  obtain ⟨ahead, open_⟩ := interruption?_eq_none.mp begun
  have clear (g : Guard) (mem : g ∈ guards) : c.Clear g.tokens (c.now + 1) :=
    (notBefore_cancellation?.mp (open_ g mem)).resolve_left (Nat.not_succ_le_self _)
  unfold rest
  rw [begun]
  dsimp only
  -- the rest lasts to the first of all these instants, none of which comes before it
  generalize first : earlier wake (c.ring.nextInterruption? guards) = next
  have bounds (t : Nat) : NotBefore t next ↔ NotBefore t wake ∧
      (∀ g ∈ guards, NotBefore t g.deadline) ∧
      ∀ g ∈ guards, NotBefore t (c.cancellation? g.tokens) := by
    rw [← first, notBefore_earlier, notBefore_nextInterruption?_ring clear]
  cases next with
  | none =>
    have never {o : Option Nat} (h : ∀ t, NotBefore t o) : o = none :=
      eq_of_notBefore fun t => iff_of_true (h t) (notBefore_none t)
    have all (t : Nat) := (bounds t).mp (notBefore_none t)
    exact ⟨.endless (never fun t => (all t).1) (fun g mem => never fun t => (all t).2.1 g mem)
      (fun g mem => never fun t => (all t).2.2 g mem), nofun⟩
  | some instant =>
    obtain ⟨waking, in_time, spared⟩ := (bounds instant).mp (notBefore_some.mpr (Nat.le_refl _))
    have goes_on : c.now < instant := notBefore_some.mp ((bounds _).mpr ⟨later, ahead, open_⟩)
    have now : (c.ring.advance instant).now = instant := Nat.max_eq_right (Nat.le_of_lt goes_on)
    have same (g : Guard) (mem : g ∈ guards) :=
      cancellation?_advance goes_on (spared g mem)
    dsimp only
    by_cases wakes : wake = some instant
    · rw [if_pos wakes]
      refine ⟨.wakes (now.symm ▸ wakes) (.inr (now.symm ▸ in_time)) (now.symm ▸ spared), ?_⟩
      rintro _ ⟨⟩
      exact same
    have asleep : NotBefore ((c.ring.advance instant).now + 1) wake :=
      now.symm ▸ waking.succ_iff.mpr wakes
    obtain ⟨r, found⟩ := Option.ne_none_iff_exists'.mp
      (interruption?_advance ((earlier_eq first).resolve_left wakes))
    rw [if_neg wakes, found, Option.getD_some]
    have settled := settles_of_interruption? found asleep
    rw [now] at settled
    refine ⟨settled.sooner (Nat.le_of_lt goes_on) (.inr in_time) same, ?_⟩
    rintro d rfl
    exact absurd found interruption?_ne_wakes

/-- A rest that is to take some time is settled, and time makes no difference to what cancels the
guards later. -/
theorem rest_settles (guards : List Guard) (later : NotBefore (c.now + 1) wake) :
    (c.rest guards wake).Settles guards c.now c.cancellation? wake ∧
      ∀ d, c.rest guards wake = .wakes d →
        ∀ g ∈ guards, d.cancellation? g.tokens = c.cancellation? g.tokens := by
  cases begun : c.interruption? guards with
  | none => exact rest_settles_of_open begun later
  | some r =>
    unfold rest
    rw [begun]
    refine ⟨settles_of_interruption? begun later, ?_⟩
    rintro d rfl
    exact absurd begun interruption?_ne_wakes

end Clock

/-! ## A row of beats -/

namespace Beat

/-- How long the beats last, none if for ever. -/
def length : List Beat → Option Nat
  | [] => some 0
  | .rests milliseconds :: later => (length later).map (milliseconds + ·)
  | .cancels :: later => length later
  | .hangs :: _ => none

theorem length_append (beats later : List Beat) :
    length (beats ++ later) = (length beats).bind fun ms => (length later).map (ms + ·) := by
  induction beats with
  | nil => simp [length]
  | cons b beats ih =>
    cases b with
    | rests milliseconds =>
      rw [List.cons_append, length, length, ih]
      cases length beats with
      | none => rfl
      | some ms => exact map_add_map_add ..
    | cancels => exact ih
    | hangs => rfl

/-- How long it takes to the first of the beats that cancels the root. -/
def cancelsAfter : List Beat → Option Nat
  | [] => none
  | .rests milliseconds :: later => (cancelsAfter later).map (milliseconds + ·)
  | .cancels :: _ => some 0
  | .hangs :: _ => none

end Beat

/-- The instant at which one of the tokens is cancelled first, if the beats are played from now. -/
def Clock.cancellationIn (c : Clock) (root : Token) (tokens : List Token) (beats : List Beat) :
    Option Nat :=
  earlier (c.cancellation? tokens)
    (if root ∈ tokens then (Beat.cancelsAfter beats).map (c.now + ·) else none)

section Play

variable {root : Token} {tokens : List Token} {later : List Beat} {c d : Clock}

theorem Clock.notBefore_now_cancellationIn :
    NotBefore c.now (c.cancellationIn root tokens later) := by
  refine notBefore_earlier.mpr ⟨c.notBefore_now tokens, ?_⟩
  split
  · exact notBefore_map_add (Nat.le_refl _) _
  · exact notBefore_none _

theorem Clock.cancellationIn_cancels :
    (c.cancel root).cancellationIn root tokens later =
      c.cancellationIn root tokens (.cancels :: later) := by
  have now : (c.cancel root).now = c.now := rfl
  rw [cancellationIn, cancellationIn, cancellation?_cancel, now]
  by_cases mem : root ∈ tokens
  · simp only [mem, if_true]
    rw [earlier_eq_left (notBefore_map_add (Nat.le_refl _) _)]
    exact (earlier_eq_right (c.notBefore_now tokens)).symm
  · simp only [mem, if_false]

theorem Clock.cancellationIn_hangs :
    c.cancellationIn root tokens (.hangs :: later) = c.cancellation? tokens := by
  rw [cancellationIn]
  split <;> exact earlier_none _

theorem Clock.cancellationIn_rests {milliseconds : Nat} (now : d.now = c.now + milliseconds)
    (same : d.cancellation? tokens = c.cancellation? tokens) :
    d.cancellationIn root tokens later =
      c.cancellationIn root tokens (.rests milliseconds :: later) := by
  rw [cancellationIn, cancellationIn, same, now, Beat.cancelsAfter, map_add_map_add]

/-- A cancellation that comes before the end of a rest comes before those of the later beats. -/
theorem Clock.notBefore_cancellationIn {milliseconds t : Nat}
    (first : NotBefore t (c.cancellation? tokens)) (le : t ≤ c.now + milliseconds) :
    NotBefore t (c.cancellationIn root tokens (.rests milliseconds :: later)) := by
  refine notBefore_earlier.mpr ⟨first, ?_⟩
  split
  · exact notBefore_rests le _
  · exact notBefore_none t

theorem Clock.cancellationIn_eq {milliseconds x : Nat} (first : c.cancellation? tokens = some x)
    (le : x ≤ c.now + milliseconds) :
    c.cancellationIn root tokens (.rests milliseconds :: later) = some x := by
  rw [cancellationIn, first]
  refine earlier_eq_left ?_
  split
  · exact notBefore_rests le _
  · exact notBefore_none x

end Play

/-- What becomes of a row of beats under guards is settled by its own end and by the instants at
which the guards expire and are cancelled. -/
theorem Beat.play_settles (root : Token) (guards : List Guard) (beats : List Beat) (c : Clock) :
    (play root guards beats c).Settles guards c.now (c.cancellationIn root · beats)
      ((length beats).map (c.now + ·)) := by
  -- a rest that is not cut short leaves the later beats the same instants
  induction beats generalizing c with
  | nil => exact .wakes rfl (.inl rfl) fun _ _ => Clock.notBefore_now_cancellationIn
  | cons b later ih =>
    cases b with
    | cancels =>
      exact (ih (c.cancel root)).sooner (Nat.le_refl _) (.inl rfl) fun _ _ =>
        Clock.cancellationIn_cancels
    | hangs =>
      have settled : (c.rest guards none).Settles guards c.now
          (c.cancellationIn root · (.hangs :: later)) none :=
        (Clock.rest_settles guards (notBefore_none _)).1.sooner (Nat.le_refl _) (.inl rfl)
          fun _ _ => Clock.cancellationIn_hangs.symm
      show ((c.rest guards none).andThen _).Settles guards _ _ none
      cases rested : c.rest guards none with
      | wakes d => exact absurd rested Clock.rest_ne_wakes
      | interrupted outside why d =>
        rw [rested] at settled
        exact settled
      | endless d =>
        rw [rested] at settled
        exact settled
    | rests milliseconds =>
      show ((if milliseconds = 0 then .wakes c else c.rest guards _).andThen _).Settles guards _ _ _
      -- a rest of no time is not even noticed by the guards
      by_cases none : milliseconds = 0
      · subst none
        rw [if_pos rfl, length, map_add_map_add]
        exact (ih c).sooner (Nat.le_refl _) (.inl rfl) fun _ _ => Clock.cancellationIn_rests rfl rfl
      rw [if_neg none]
      have goes_on : NotBefore (c.now + 1) (some (c.now + milliseconds)) :=
        notBefore_some.mpr (by omega)
      obtain ⟨settled, keeps⟩ := Clock.rest_settles (c := c) guards goes_on
      generalize c.rest guards (some (c.now + milliseconds)) = r at settled keeps
      cases settled with
      | @wakes d waking kept spared =>
        have now : d.now = c.now + milliseconds := (Option.some.inj waking).symm
        have rest := ih d
        rw [now] at rest
        rw [length, map_add_map_add]
        exact rest.sooner (Nat.le_add_right ..) (now ▸ kept) fun g mem =>
          Clock.cancellationIn_rests now (keeps d rfl g mem)
      -- cut short, the rest ends before anything that the later beats could bring
      | cancelled split struck asleep ahead around spared =>
        have le := notBefore_some.mp asleep
        exact .cancelled split (Clock.cancellationIn_eq struck (by omega)) (notBefore_rests le _)
          ahead (fun f mem => Clock.notBefore_cancellationIn (around f mem) le)
          fun f mem => Clock.notBefore_cancellationIn (spared f mem) (by omega)
      | expired split timed due asleep later kept spared =>
        have le := notBefore_some.mp asleep
        exact .expired split timed due (notBefore_rests le _) later kept fun f mem =>
          Clock.notBefore_cancellationIn (spared f mem) (by omega)
      | endless asleep _ _ => cases asleep

/-! ## A saga in a scope -/

/-- The step has ended as the beats have and at their instant, with this ending if they have not cut
it short; none if there is none. -/
inductive Step.Follows {I : Interface} {α : Type} (ending : Option α) : Rest → Step I α → Prop where
  | done {c : Clock} {a : α} {v : World I} : ending = some a → v.clock.now = c.now →
    Follows ending (.wakes c) (.done a v)
  | interrupted {c : Clock} {outside : Nat} {why : Interrupt} {v : World I} :
    v.clock.now = c.now → Follows ending (.interrupted outside why c) (.interrupted outside why v)
  | endless {c : Clock} {v : World I} : ending = none → Follows ending (.endless c) (.endless v)

namespace Saga

variable {I : Interface} {α κ : Type} {saga : Saga I α} {script : Script I} {w : World I}
  {beats : List Beat} {ending : Option (Except Fault α)}

/-- Begun in this world, the saga spends its time in these beats and comes to this ending, whatever
guards are around it; these decide how far it comes. -/
def Spends (saga : Saga I α) (script : Script I) (w : World I) (beats : List Beat)
    (ending : Option (Except Fault α)) : Prop :=
  ∀ guards, (saga.run script guards w).Follows ending
    (Beat.play script.root guards beats w.clock)

theorem Foretold.spends {note : I.Call → κ} {past asked : List κ}
    (h : saga.Foretold note script past beats asked ending) (same : w.asked note = past) :
    saga.Spends script w beats ending := by
  intro guards
  have keeps := h.keeps guards w same
  generalize Beat.play script.root guards beats w.clock = played at keeps
  generalize saga.run script guards w = step at keeps
  cases keeps with
  | done comes _ => exact .done comes rfl
  | endless never _ => exact .endless never
  | interrupted _ => exact .interrupted rfl

/-- A saga in a scope comes to its ending when its beats are over, or is cut short by the scope. -/
inductive Ends (what : String) (ending : Option (Except Fault α)) :
    Rest → Step I (Except Fault α) → Prop where
  | through {c : Clock} {r : Except Fault α} {v : World I} : ending = some r →
    v.clock.now = c.now → Ends what ending (.wakes c) (.done r v)
  | cut {c : Clock} {v : World I} {outside : Nat} (why : Interrupt) : v.clock.now = c.now →
    Ends what ending (.interrupted outside why c) (.done (.error (why.fault what)) v)
  | endless {c : Clock} {v : World I} : ending = none →
    Ends what ending (.endless c) (.endless v)

/-- The beats say which end it is, and the ending matters only if it is come to. -/
theorem Ends.unique {what : String} {ending' : Option (Except Fault α)} {played : Rest}
    {r r' : Except Fault α} {v v' : World I} (h : Ends what ending played (.done r v))
    (same : ∀ c, played = .wakes c → ending' = ending)
    (h' : Ends what ending' played (.done r' v')) : r' = r ∧ v'.clock.now = v.clock.now := by
  cases h with
  | through comes now =>
    cases h' with
    | through comes' now' =>
      rw [same _ rfl] at comes'
      exact ⟨Option.some.inj (comes'.symm.trans comes), now'.trans now.symm⟩
  | cut why now =>
    cases h' with
    | cut _ now' => exact ⟨rfl, now'.trans now.symm⟩

/-- With no guards around it but the scope, the saga ends by itself or with the scope. -/
theorem Spends.run_ends (h : saga.Spends script w beats ending) {s : Scope} (what : String)
    (going : s.isCancelled w.clock = false) :
    Ends what ending (Beat.play script.root [s.guard] beats w.clock)
      ((s.run what saga).run script [] w) := by
  have follows := h [s.guard]
  generalize played : Beat.play script.root [s.guard] beats w.clock = rest at follows
  generalize inside : saga.run script [s.guard] w = step at follows
  cases follows with
  | done comes now =>
    rw [(Scope.run_done going).mpr (.inl inside)]
    exact .through comes now
  | @interrupted c outside why v now =>
    have outermost : outside = 0 := Nat.lt_one_iff.mp (Beat.interrupts_of_play played).lt_length
    subst outermost
    rw [(Scope.run_done going).mpr (.inr ⟨why, inside, rfl⟩)]
    exact .cut why now
  | endless never =>
    rw [(Scope.run_endless going).mpr inside]
    exact .endless never

/-- With a deadline it does end. -/
theorem Spends.run_done (h : saga.Spends script w beats ending) {s : Scope} (what : String)
    (going : s.isCancelled w.clock = false) {deadline : Nat} (timed : s.deadline = some deadline) :
    ∃ r v, (s.run what saga).run script [] w = .done r v ∧
      Ends what ending (Beat.play script.root [s.guard] beats w.clock) (.done r v) := by
  have ends := h.run_ends what going
  have settled := Beat.play_settles script.root [s.guard] beats w.clock
  generalize (s.run what saga).run script [] w = step at ends ⊢
  generalize Beat.play script.root [s.guard] beats w.clock = played at ends settled ⊢
  cases ends with
  | through comes now => exact ⟨_, _, rfl, .through comes now⟩
  | cut why now => exact ⟨_, _, rfl, .cut why now⟩
  | endless never =>
    obtain _ | _ | _ | ⟨-, untimed, -⟩ := settled
    have := untimed s.guard List.mem_cons_self
    exact absurd (timed.symm.trans this) (Option.some_ne_none deadline)

end Saga

end Recovery
