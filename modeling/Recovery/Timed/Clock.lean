/-!
# The clock

Time is counted in milliseconds and moves only while nothing can run, straight to the next instant
at which something happens. The clock also knows which cancellation tokens have been cancelled and
which alarms will cancel one later.

A guard is what a running operation can be interrupted by: its tokens and its deadline. When an
operation rests, the guards around it are asked in the order in which they would notice: at one
instant a deadline that has passed comes before a cancellation that happens while resting, the
innermost deadline before the outer ones and the outermost cancellation before the inner ones.
-/
set_option autoImplicit false

namespace Recovery

abbrev Token := Nat

structure Alarm where
  instant : Nat
  token : Token
deriving Repr, DecidableEq

structure Clock where
  now : Nat
  /-- The next token that has not been given away. -/
  fresh : Token
  cancelled : List Token
  alarms : List Alarm
  cancelled_lt : ∀ t ∈ cancelled, t < fresh
  alarms_lt : ∀ a ∈ alarms, a.token < fresh
deriving Repr, DecidableEq

structure Guard where
  tokens : List Token
  deadline : Option Nat
deriving Repr, DecidableEq

inductive Interrupt where
  | cancelled
  | expired
deriving Repr, DecidableEq

namespace Clock

def start : Clock where
  now := 0
  fresh := 0
  cancelled := []
  alarms := []
  cancelled_lt := by simp
  alarms_lt := by simp

def issue (c : Clock) : Token × Clock :=
  (c.fresh, { c with
    fresh := c.fresh + 1
    cancelled_lt := fun t h => Nat.lt_succ_of_lt (c.cancelled_lt t h)
    alarms_lt := fun a h => Nat.lt_succ_of_lt (c.alarms_lt a h) })

/-- A token that is used counts as given away. -/
def claim (c : Clock) (token : Token) : Clock :=
  { c with
    fresh := max c.fresh (token + 1)
    cancelled_lt := fun t h => Nat.lt_of_lt_of_le (c.cancelled_lt t h) (Nat.le_max_left ..)
    alarms_lt := fun a h => Nat.lt_of_lt_of_le (c.alarms_lt a h) (Nat.le_max_left ..) }

theorem lt_claim (c : Clock) (token : Token) : token < (c.claim token).fresh :=
  Nat.lt_of_lt_of_le (Nat.lt_succ_self token) (Nat.le_max_right ..)

def cancel (c : Clock) (token : Token) : Clock :=
  { c.claim token with
    cancelled := token :: c.cancelled
    cancelled_lt := by
      intro t h
      rcases List.mem_cons.mp h with rfl | h
      · exact c.lt_claim t
      · exact (c.claim token).cancelled_lt t h }

def setAlarm (c : Clock) (instant : Nat) (token : Token) : Clock :=
  { c.claim token with
    alarms := c.alarms ++ [⟨instant, token⟩]
    alarms_lt := by
      intro a h
      rcases List.mem_append.mp h with h | h
      · exact (c.claim token).alarms_lt a h
      · rw [List.mem_singleton.mp h]
        exact c.lt_claim token }

/-- How the clock may go on: time does not run back, no token is given away twice and what is
cancelled stays cancelled. -/
structure Precedes (c d : Clock) : Prop where
  now_le : c.now ≤ d.now
  fresh_le : c.fresh ≤ d.fresh
  cancelled_subset : c.cancelled ⊆ d.cancelled

namespace Precedes

theorem refl (c : Clock) : c.Precedes c := ⟨Nat.le_refl _, Nat.le_refl _, fun _ h => h⟩

theorem trans {c d e : Clock} (h : c.Precedes d) (h' : d.Precedes e) : c.Precedes e :=
  ⟨Nat.le_trans h.now_le h'.now_le, Nat.le_trans h.fresh_le h'.fresh_le,
    fun _ ht => h'.cancelled_subset (h.cancelled_subset ht)⟩

end Precedes

instance (c d : Clock) : Decidable (c.Precedes d) :=
  decidable_of_iff (c.now ≤ d.now ∧ c.fresh ≤ d.fresh ∧ ∀ t ∈ c.cancelled, t ∈ d.cancelled)
    ⟨fun h => ⟨h.1, h.2.1, fun _ ht => h.2.2 _ ht⟩,
      fun h => ⟨h.now_le, h.fresh_le, fun _ ht => h.cancelled_subset ht⟩⟩

theorem precedes_issue (c : Clock) : c.Precedes c.issue.2 :=
  ⟨Nat.le_refl _, Nat.le_succ _, fun _ h => h⟩

theorem precedes_cancel (c : Clock) (token : Token) : c.Precedes (c.cancel token) :=
  ⟨Nat.le_refl _, Nat.le_max_left .., fun _ h => List.mem_cons_of_mem _ h⟩

theorem precedes_setAlarm (c : Clock) (instant : Nat) (token : Token) :
    c.Precedes (c.setAlarm instant token) :=
  ⟨Nat.le_refl _, Nat.le_max_left .., fun _ h => h⟩

/-- The clock after a step that takes no time; a step that would turn it back is not taken. -/
def step (c d : Clock) : Clock := if d.now = c.now ∧ c.Precedes d then d else c

theorem precedes_step (c d : Clock) : c.Precedes (c.step d) := by
  unfold step
  split
  · rename_i h
    exact h.2
  · exact .refl c

theorem step_eq {c d : Clock} (now : d.now = c.now) (h : c.Precedes d) : c.step d = d :=
  if_pos ⟨now, h⟩

def anyCancelled (c : Clock) (tokens : List Token) : Bool := tokens.any c.cancelled.contains

/-- The clock after the alarms that satisfy `due` have rung. -/
def ringWhere (c : Clock) (due : Alarm → Bool) : Clock :=
  { c with
    cancelled := (c.alarms.filter due).map Alarm.token ++ c.cancelled
    alarms := c.alarms.filter (!due ·)
    cancelled_lt := by
      intro t h
      rcases List.mem_append.mp h with h | h
      · obtain ⟨a, ha, rfl⟩ := List.mem_map.mp h
        exact c.alarms_lt a (List.mem_filter.mp ha).1
      · exact c.cancelled_lt t h
    alarms_lt := fun a h => c.alarms_lt a (List.mem_filter.mp h).1 }

theorem precedes_ringWhere (c : Clock) (due : Alarm → Bool) : c.Precedes (c.ringWhere due) :=
  ⟨Nat.le_refl _, Nat.le_refl _, fun _ h => List.mem_append_right _ h⟩

/-- Alarms ring when the operation that runs at their instant comes to rest. -/
def ring (c : Clock) : Clock := c.ringWhere (·.instant ≤ c.now)

/-- The clock moved on to an instant; the alarms of earlier instants have rung. -/
def advance (c : Clock) (instant : Nat) : Clock :=
  { c.ringWhere (·.instant < instant) with now := max c.now instant }

theorem precedes_ring (c : Clock) : c.Precedes c.ring := precedes_ringWhere ..

theorem precedes_advance (c : Clock) (instant : Nat) : c.Precedes (c.advance instant) :=
  ⟨Nat.le_max_left .., Nat.le_refl _, fun _ h => List.mem_append_right _ h⟩

end Clock

namespace Guard

def isExpired (g : Guard) (instant : Nat) : Bool :=
  match g.deadline with
  | some deadline => deadline ≤ instant
  | none => false

def innermostExpired? (instant : Nat) : List Guard → Option Nat
  | [] => none
  | g :: outer => if g.isExpired instant then some outer.length else innermostExpired? instant outer

def outermostCancelled? (c : Clock) : List Guard → Option Nat
  | [] => none
  | g :: outer =>
    (outermostCancelled? c outer).or
      (if c.anyCancelled g.tokens then some outer.length else none)

end Guard

inductive Rest where
  | wakes (clock : Clock)
  /-- The guard with `outside` guards around it ends the operation. -/
  | interrupted (outside : Nat) (why : Interrupt) (clock : Clock)
  | endless (clock : Clock)
deriving Repr

def Rest.clock : Rest → Clock
  | .wakes c => c
  | .interrupted _ _ c => c
  | .endless c => c

/-- The earlier of two instants that may never come. -/
def earlier : Option Nat → Option Nat → Option Nat
  | none, b => b
  | a, none => a
  | some a, some b => some (min a b)

def earliest (instants : List (Option Nat)) : Option Nat := instants.foldr earlier none

namespace Clock

def interruption? (c : Clock) (guards : List Guard) : Option Rest :=
  match Guard.innermostExpired? c.now guards with
  | some outside => some (.interrupted outside .expired c)
  | none =>
    (Guard.outermostCancelled? c.ring guards).map fun outside =>
      .interrupted outside .cancelled c.ring

theorem precedes_interruption {c : Clock} {guards : List Guard} {r : Rest}
    (h : c.interruption? guards = some r) : c.Precedes r.clock := by
  unfold interruption? at h
  split at h
  · cases h
    exact .refl c
  · obtain ⟨outside, _, rfl⟩ := Option.map_eq_some_iff.mp h
    exact c.precedes_ring

def nextInterruption? (c : Clock) (guards : List Guard) : Option Nat :=
  earlier (earliest (guards.map Guard.deadline))
    (earliest (c.alarms.map fun a =>
      if guards.any (·.tokens.contains a.token) then some a.instant else none))

/-- Rests under guards, innermost first, until the instant `wake` or for ever. An operation that
wakes at the instant of an interruption goes on. -/
def rest (c : Clock) (guards : List Guard) (wake : Option Nat) : Rest :=
  match c.interruption? guards with
  | some interrupted => interrupted
  | none =>
    match earlier wake (c.ring.nextInterruption? guards) with
    | none => .endless c.ring
    | some instant =>
      let c := c.ring.advance instant
      if wake = some instant then .wakes c
      else (c.interruption? guards).getD (.endless c)

theorem precedes_rest (c : Clock) (guards : List Guard) (wake : Option Nat) :
    c.Precedes (c.rest guards wake).clock := by
  unfold rest
  split
  · rename_i r h
    exact precedes_interruption h
  · split
    · exact c.precedes_ring
    · rename_i instant _
      have advanced := c.precedes_ring.trans (c.ring.precedes_advance instant)
      dsimp only
      split
      · exact advanced
      · cases h : (c.ring.advance instant).interruption? guards with
        | none => exact advanced
        | some r => exact advanced.trans (precedes_interruption h)

end Clock

end Recovery
