import Recovery.Proofs.Timed.Shift
/-!
# A world within a world

What a task does with tokens of its own does not depend on what was there before it. Its world is
set into another one in which time has gone by, tokens have been given away and perhaps cancelled,
alarms are set and calls are on record: the task mirrors itself there, step by step, later by the
instant and further by the tokens at which it was set in.
-/
set_option autoImplicit false

namespace Recovery

variable {I : Interface} {α β γ δ : Type}

/-! ## Worlds -/

def Mark.shift (instants : Nat) : Mark I → Mark I
  | .began entry => .began { entry with instant := instants + entry.instant }
  | .ended instant c r => .ended (instants + instant) c r

@[simp] theorem Mark.shift_calls (instants : Nat) (marks : List (Mark I)) :
    ((marks.map (shift instants)).filterMap Mark.entry?).map Entry.call =
      (marks.filterMap Mark.entry?).map Entry.call := by
  induction marks with
  | nil => rfl
  | cons m marks ih =>
    cases m with
    | began entry => exact congrArg (entry.call :: ·) ih
    | ended instant c r => exact ih

/-- What the world says to each call after those made before. -/
abbrev Answers (I : Interface) := (history : List I.Call) → (call : I.Call) → Outcome (I.Reply call)

/-- After these calls the script gives these answers, whatever else the calls may cancel. -/
def Script.Continues (script : Script I) (past : List I.Call) (answers : Answers I) : Prop :=
  ∀ history c, script.answer (past ++ history) c =
    { answers history c with cancels := (script.answer (past ++ history) c).cancels }

/-- The script with these answers, in which no call cancels anything. -/
def Script.calm (answers : Answers I) : Script I where
  root := 0
  answer history c := { answers history c with cancels := false }

/-- One world set into another, after what is on record there. -/
structure Inset (I : Interface) extends Shift where
  past : List (Mark I)
  answers : Answers I
  outer : Script I
  rooted : outer.root < token
  continues : outer.Continues ((past.filterMap Mark.entry?).map Entry.call) answers

namespace Inset

def inner (v : Inset I) : Script I := .calm v.answers

/-- The outer world with the other one set into it. -/
structure Shows (v : Inset I) (w u : World I) : Prop where
  clock : w.clock.Shifted v.toShift u.clock
  marks : u.marks = v.past ++ w.marks.map (Mark.shift v.instant)

namespace Shows

variable {v : Inset I} {w u : World I}

theorem withClock (h : v.Shows w u) {c d : Clock} (clock : c.Shifted v.toShift d) :
    v.Shows { w with clock := c } { u with clock := d } := ⟨clock, h.marks⟩

theorem mark (h : v.Shows w u) {m n : Mark I} (same : n = m.shift v.instant) :
    v.Shows (w.mark m) (u.mark n) := by
  refine ⟨h.clock, ?_⟩
  simp only [World.mark, h.marks, same, List.map_append, List.map_cons, List.map_nil,
    List.append_assoc]

/-- A call is answered alike in both worlds, but for what it may cancel. -/
theorem answer (h : v.Shows w u) (c : I.Call) :
    v.outer.answer (u.log.map Entry.call) c =
      { v.inner.answer (w.log.map Entry.call) c with
        cancels := (v.outer.answer (u.log.map Entry.call) c).cancels } := by
  have calls : u.log.map Entry.call =
      (v.past.filterMap Mark.entry?).map Entry.call ++ w.log.map Entry.call := by
    simp only [World.log, h.marks, List.filterMap_append, List.map_append, Mark.shift_calls]
  rw [calls]
  exact v.continues _ c

end Shows

end Inset

/-! ## Tasks -/

/-- The two steps end alike, with values that are related and in worlds set into one another. -/
inductive Step.Mirrors (v : Inset I) (R : α → β → Prop) : Step I α → Step I β → Prop where
  | done {a : α} {b : β} {w u : World I} : R a b → v.Shows w u →
    Mirrors v R (.done a w) (.done b u)
  | interrupted {outside : Nat} {why : Interrupt} {w u : World I} : v.Shows w u →
    Mirrors v R (.interrupted outside why w) (.interrupted outside why u)
  | endless {w u : World I} : v.Shows w u → Mirrors v R (.endless w) (.endless u)

theorem Step.Mirrors.of_done {v : Inset I} {R : α → β → Prop} {a : α} {w : World I}
    {step : Step I β} (h : (Step.done a w).Mirrors v R step) :
    ∃ b u, step = .done b u ∧ R a b ∧ v.Shows w u := by
  cases h with
  | done related shows => exact ⟨_, _, rfl, related, shows⟩

namespace Task

/-- The one task goes in the inner world as the other one does in the outer. -/
def Mirrors (v : Inset I) (R : α → β → Prop) (task : Task I α) (task' : Task I β) : Prop :=
  ∀ (guards : List Guard) (w u : World I), v.Shows w u →
    (task v.inner guards w).Mirrors v R (task' v.outer (guards.map v.guard) u)

variable {v : Inset I} {R : α → β → Prop} {S : γ → δ → Prop} {task : Task I α} {task' : Task I β}

theorem mirrors_pure {a : α} {b : β} (h : R a b) :
    Mirrors v R (pure a : Task I α) (pure b : Task I β) :=
  fun _ _ _ shows => .done h shows

namespace Mirrors

theorem bind {next : α → Task I γ} {next' : β → Task I δ} (h : Mirrors v R task task')
    (h' : ∀ a b, R a b → Mirrors v S (next a) (next' b)) :
    Mirrors v S (task >>= next) (task' >>= next') := by
  intro guards w u shows
  have first := h guards w u shows
  rw [bind_run, bind_run]
  generalize task v.inner guards w = step at first
  generalize task' v.outer (guards.map v.guard) u = step' at first
  cases first with
  | done related shows' => exact h' _ _ related guards _ _ shows'
  | interrupted shows' => exact .interrupted shows'
  | endless shows' => exact .endless shows'

/-- A guard around the task interrupts it in the one world when it does in the other. -/
theorem within {task task' : Task I α} (h : Mirrors v Eq task task') (g : Guard) :
    Mirrors v Eq (Task.within g task) (Task.within (v.guard g) task') := by
  intro guards w u shows
  have inside := h (g :: guards) w u shows
  simp only [Task.within, ← List.map_cons, List.length_map]
  generalize task v.inner (g :: guards) w = step at inside
  generalize task' v.outer ((g :: guards).map v.guard) u = step' at inside
  cases inside with
  | done same shows' => exact .done (congrArg Except.ok same) shows'
  | @interrupted outside why _ _ shows' =>
    by_cases here : outside = guards.length
    · simp only [here, if_true]
      exact .done rfl shows'
    · simp only [here, if_false]
      exact .interrupted shows'
  | endless shows' => exact .endless shows'

end Mirrors

/-! What a task is made of -/

theorem mirrors_clock : Mirrors v (Clock.Shifted v.toShift) (clock : Task I Clock) clock :=
  fun _ _ _ shows => .done shows.clock shows

theorem mirrors_onClock {step : Clock → α × Clock} {step' : Clock → β × Clock}
    (instant : ∀ c, (step c).2.now = c.now ∧ c.Precedes (step c).2)
    (instant' : ∀ d, (step' d).2.now = d.now ∧ d.Precedes (step' d).2)
    (h : ∀ c d, c.Shifted v.toShift d →
      R (step c).1 (step' d).1 ∧ (step c).2.Shifted v.toShift (step' d).2) :
    Mirrors v R (onClock step : Task I α) (onClock step') := by
  intro guards w u shows
  rw [onClock_done _ _ _ w (instant _).1 (instant _).2,
    onClock_done _ _ _ u (instant' _).1 (instant' _).2]
  obtain ⟨related, shifted⟩ := h _ _ shows.clock
  exact .done related (shows.withClock shifted)

theorem mirrors_afterRest {onWake onWake' : World I → Step I α}
    (h : ∀ w u, v.Shows w u → (onWake w).Mirrors v Eq (onWake' u)) {w u : World I}
    (shows : v.Shows w u) {r r' : Rest} (rested : r.Shifted v.toShift r') :
    (afterRest onWake w r).Mirrors v Eq (afterRest onWake' u r') := by
  cases rested with
  | wakes clock => exact h _ _ (shows.withClock clock)
  | interrupted outside why clock => exact .interrupted (shows.withClock clock)
  | endless clock => exact .endless (shows.withClock clock)

theorem mirrors_pause (milliseconds : Nat) :
    Mirrors v Eq (pause milliseconds : Task I Unit) (pause milliseconds) := by
  intro guards w u shows
  have rested := shows.clock.rest guards (some (w.clock.now + milliseconds))
  have wake : v.deadline (some (w.clock.now + milliseconds)) =
      some (u.clock.now + milliseconds) := by
    rw [shows.clock.now, Nat.add_assoc]
    rfl
  rw [wake] at rested
  exact mirrors_afterRest (fun _ _ shows' => .done rfl shows') shows rested

theorem mirrors_sleep (milliseconds : Nat) :
    Mirrors v Eq (sleep milliseconds : Task I Unit) (sleep milliseconds) := by
  unfold sleep
  split
  · exact mirrors_pure rfl
  · exact mirrors_pause milliseconds

theorem mirrors_hang : Mirrors v Eq (hang : Task I α) hang := fun guards _ _ shows =>
  mirrors_afterRest (fun _ _ shows' => .endless shows') shows (shows.clock.rest guards none)

theorem mirrors_ripen (outcome : Outcome α) :
    Mirrors v Eq (ripen outcome : Task I (Except Fault α)) (ripen outcome) := by
  unfold ripen
  split
  · exact mirrors_hang
  · exact (mirrors_sleep _).bind fun _ _ _ => mirrors_pure rfl

/-- It makes no difference whether the root of the outer world is cancelled on the way. -/
theorem mirrors_play {outcome outcome' : Outcome α} (calm : outcome.cancels = false)
    (same : outcome' = { outcome with cancels := outcome'.cancels }) :
    Mirrors v Eq (play outcome : Task I (Except Fault α)) (play outcome') := by
  have ripe : (ripen outcome' : Task I (Except Fault α)) = ripen outcome := by
    rw [same]
    rfl
  unfold play
  rw [calm, ripe]
  dsimp only
  cases outcome'.cancels with
  | false => exact mirrors_ripen outcome
  | true =>
    exact fun guards w u shows => mirrors_ripen outcome guards w _
      (shows.withClock (shows.clock.cancel_before v.rooted))

/-- What a call turns out to be is the same, but for what it cancels. -/
theorem mirrors_start (c : I.Call) :
    Mirrors v (fun outcome outcome' => outcome.cancels = false ∧
      outcome' = { outcome with cancels := outcome'.cancels }) (start c) (start c) := by
  intro guards w u shows
  refine .done ⟨rfl, shows.answer c⟩ (shows.mark ?_)
  rw [shows.clock.now]
  rfl

theorem mirrors_finish (c : I.Call) (r : Except Fault (I.Reply c)) :
    Mirrors v Eq (finish c r) (finish c r) := by
  intro guards w u shows
  refine .done rfl (shows.mark ?_)
  rw [shows.clock.now]
  rfl

theorem mirrors_call (c : I.Call) : Mirrors v Eq (call c) (call c) := by
  refine (mirrors_start c).bind fun outcome outcome' ⟨calm, same⟩ => ?_
  refine (mirrors_play calm same).bind ?_
  rintro r _ rfl
  exact (mirrors_finish c r).bind fun _ _ _ => mirrors_pure rfl

end Task

/-! ## Scopes -/

namespace Scope

variable {v : Inset I} {s : Scope}

theorem mirrors_run {operation operation' : Saga I α} (what : String)
    (h : Task.Mirrors v Eq operation.run operation'.run) :
    Task.Mirrors v Eq (s.run what operation).run ((v.scope s).run what operation').run := by
  refine Task.mirrors_clock.bind fun c d shifted => ?_
  rw [isCancelled_shift shifted]
  split
  · exact Task.mirrors_pure rfl
  · refine (h.within s.guard).bind ?_
    rintro ended _ rfl
    cases ended <;> exact Task.mirrors_pure rfl

theorem mirrors_call (what : String) (c : I.Call) :
    Task.Mirrors v Eq (s.call what c).run ((v.scope s).call what c).run := by
  refine (Task.mirrors_start c).bind fun outcome outcome' ⟨calm, same⟩ => ?_
  refine (mirrors_run what (Task.mirrors_play calm same)).bind ?_
  rintro r _ rfl
  exact (Task.mirrors_finish c r).bind fun _ _ _ => Task.mirrors_pure rfl

end Scope

end Recovery
