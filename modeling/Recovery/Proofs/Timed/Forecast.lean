import Recovery.Proofs.Timed.Cleanup
import Recovery.Proofs.Timed.Interrupt
/-!
# Forecasts

What a task asks, how it spends its time and how it ends can be told from what was asked before it,
if that is all that the answers depend on. Its time is spent in beats, whatever the guards; these
decide how far it comes. Questions are told apart only as far as `note` does.
-/
set_option autoImplicit false

namespace Recovery

variable {I : Interface} {α β κ : Type}

def World.asked (note : I.Call → κ) (w : World I) : List κ := w.log.map fun e => note e.call

theorem World.Adds.asked {script : Script I} {w w' : World I} {added : List (Mark I)}
    (h : w.Adds script added w') (note : I.Call → κ) :
    w'.asked note = w.asked note ++ (added.filterMap Mark.entry?).map fun e => note e.call := by
  rw [World.asked, World.log, h.marks, List.filterMap_append, List.map_append]
  rfl

@[simp] theorem World.asked_began (w : World I) (e : Entry I) (note : I.Call → κ) :
    (w.mark (.began e)).asked note = w.asked note ++ [note e.call] := by
  simp [World.asked, World.log, World.mark, Mark.entry?]

@[simp] theorem World.asked_ended (w : World I) (instant : Nat) (c : I.Call)
    (r : Except Fault (I.Reply c)) (note : I.Call → κ) :
    (w.mark (.ended instant c r)).asked note = w.asked note := by
  simp [World.asked, World.log, World.mark, Mark.entry?]

/-- What a call comes to, none if it hangs. -/
def Outcome.ending (outcome : Outcome α) : Option (Except Fault α) :=
  if outcome.hangs then none else some outcome.result

/-- The step has come to this end, none if it comes to none, when just these questions had been
asked; or a guard has cut it short of that. -/
inductive Step.Meets (note : I.Call → κ) (guards : List Guard) (asked : List κ)
    (ending : Option α) : Step I α → Prop where
  | done {a : α} {v : World I} : ending = some a → v.asked note = asked →
    Meets note guards asked ending (.done a v)
  | endless {v : World I} : ending = none → v.asked note = asked →
    Meets note guards asked ending (.endless v)
  | interrupted {outside : Nat} {why : Interrupt} {v : World I} :
    Guard.Interrupts v.clock why guards outside → v.asked note <+: asked →
    Meets note guards asked ending (.interrupted outside why v)

theorem Step.Meets.asked {note : I.Call → κ} {guards : List Guard} {asked : List κ}
    {ending : Option α} {step : Step I α} (h : step.Meets note guards asked ending) :
    step.world.asked note <+: asked := by
  cases h with
  | done _ all => exact all ▸ List.prefix_refl _
  | endless _ all => exact all ▸ List.prefix_refl _
  | interrupted _ before => exact before

/-! ## Beats -/

/-- What a task does about its time and that of the root scope. A rest of no length is none. -/
inductive Beat where
  | rests (milliseconds : Nat)
  | cancels
  | hangs
deriving Repr, DecidableEq

/-- What comes after a rest, if anything does. -/
def Rest.andThen (r : Rest) (next : Clock → Rest) : Rest :=
  match r with
  | .wakes c => next c
  | .interrupted outside why c => .interrupted outside why c
  | .endless c => .endless c

namespace Beat

def rest (root : Token) (guards : List Guard) (c : Clock) : Beat → Rest
  | .rests milliseconds =>
    if milliseconds = 0 then .wakes c else c.rest guards (some (c.now + milliseconds))
  | .cancels => .wakes (c.cancel root)
  | .hangs => c.rest guards none

/-- What becomes of a clock after all the beats, or of the beat that is the last. -/
def play (root : Token) (guards : List Guard) : List Beat → Clock → Rest
  | [], c => .wakes c
  | b :: later, c => (b.rest root guards c).andThen (play root guards later)

variable {root : Token} {guards : List Guard} {c d : Clock}

theorem play_append (beats later : List Beat) (c : Clock) :
    play root guards (beats ++ later) c =
      (play root guards beats c).andThen (play root guards later) := by
  induction beats generalizing c with
  | nil => rfl
  | cons b beats ih =>
    rw [List.cons_append, play, play]
    cases b.rest root guards c with
    | wakes d => exact ih d
    | interrupted outside why d => rfl
    | endless d => rfl

theorem play_singleton (b : Beat) (c : Clock) : play root guards [b] c = b.rest root guards c := by
  rw [play]
  cases b.rest root guards c <;> rfl

theorem interrupts_of_play {beats : List Beat} {outside : Nat} {why : Interrupt}
    (h : play root guards beats c = .interrupted outside why d) :
    Guard.Interrupts d why guards outside := by
  induction beats generalizing c with
  | nil => cases h
  | cons b beats ih =>
    rw [play] at h
    cases ended : b.rest root guards c with
    | wakes c' =>
      rw [ended] at h
      exact ih h
    | interrupted outside' why' c' =>
      rw [ended] at h
      cases h
      cases b with
      | rests milliseconds =>
        rw [rest] at ended
        split at ended
        · cases ended
        · exact Clock.interrupts_of_rest ended
      | cancels => cases ended
      | hangs => exact Clock.interrupts_of_rest ended
    | endless c' =>
      rw [ended] at h
      cases h

end Beat

/-- The step has ended as the beats have, at their instant: with just these questions asked and this
ending, none if there is none, or short of that. -/
inductive Step.Keeps (note : I.Call → κ) (asked : List κ) (ending : Option α) :
    Rest → Step I α → Prop where
  | done {a : α} {v : World I} : ending = some a → v.asked note = asked →
    Keeps note asked ending (.wakes v.clock) (.done a v)
  | endless {v : World I} : ending = none → v.asked note = asked →
    Keeps note asked ending (.endless v.clock) (.endless v)
  | interrupted {outside : Nat} {why : Interrupt} {v : World I} : v.asked note <+: asked →
    Keeps note asked ending (.interrupted outside why v.clock) (.interrupted outside why v)

theorem Step.Keeps.meets {note : I.Call → κ} {asked : List κ} {ending : Option α}
    {root : Token} {guards : List Guard} {beats : List Beat} {c : Clock} {step : Step I α}
    (h : step.Keeps note asked ending (Beat.play root guards beats c)) :
    step.Meets note guards asked ending := by
  generalize played : Beat.play root guards beats c = rest at h
  cases h with
  | done comes all => exact .done comes all
  | endless never all => exact .endless never all
  | interrupted before => exact .interrupted (Beat.interrupts_of_play played) before

/-- How a call spends its time. -/
def Outcome.beats (outcome : Outcome α) : List Beat :=
  (if outcome.cancels then [.cancels] else []) ++
    [if outcome.hangs then .hangs else .rests outcome.delay]

namespace Task

/-- Begun when just the past has been asked, the task asks these questions, spends its time in these
beats and comes to this end. -/
structure Foretold (note : I.Call → κ) (script : Script I) (past : List κ) (beats : List Beat)
    (asked : List κ) (ending : Option α) (task : Task I α) : Prop where
  keeps : ∀ (guards : List Guard) (w : World I), w.asked note = past →
    (task script guards w).Keeps note (past ++ asked) ending
      (Beat.play script.root guards beats w.clock)

variable {note : I.Call → κ} {script : Script I} {past asked later : List κ}
  {beats beats' : List Beat} {ending : Option β}

theorem foretold_pure (a : α) : (pure a : Task I α).Foretold note script past [] [] (some a) := by
  constructor
  intro guards w same
  exact .done rfl (by rw [same, List.append_nil])

theorem Foretold.bind {task : Task I α} {next : α → Task I β} {a : α}
    (h : task.Foretold note script past beats asked (some a))
    (h' : (next a).Foretold note script (past ++ asked) beats' later ending) :
    (task >>= next).Foretold note script past (beats ++ beats') (asked ++ later) ending := by
  constructor
  intro guards w same
  have first := h.keeps guards w same
  rw [bind_run, ← List.append_assoc, Beat.play_append]
  generalize task script guards w = step at first
  generalize Beat.play script.root guards beats w.clock = rest at first
  cases first with
  | done comes all =>
    cases comes
    exact h'.keeps guards _ all
  | endless never _ => cases never
  | interrupted before => exact .interrupted (before.trans (List.prefix_append ..))

/-- What comes after a task that never ends makes no difference. -/
theorem Foretold.bind_endless {task : Task I α} {next : α → Task I β}
    (h : task.Foretold note script past beats asked none) (beats' : List Beat) :
    (task >>= next).Foretold note script past (beats ++ beats') asked (none : Option β) := by
  constructor
  intro guards w same
  have first := h.keeps guards w same
  rw [bind_run, Beat.play_append]
  generalize task script guards w = step at first
  generalize Beat.play script.root guards beats w.clock = rest at first
  cases first with
  | done comes _ => cases comes
  | endless _ all => exact .endless rfl all
  | interrupted before => exact .interrupted before

/-! ## Rests and calls -/

theorem foretold_pause {milliseconds : Nat} (some_time : milliseconds ≠ 0) :
    (pause milliseconds : Task I Unit).Foretold note script past [.rests milliseconds] []
      (some ()) := by
  constructor
  intro guards w same
  rw [Beat.play_singleton, Beat.rest, if_neg some_time, List.append_nil, ← same]
  simp only [pause]
  cases rested : w.clock.rest guards (some (w.clock.now + milliseconds)) with
  | wakes c => exact .done (v := { w with clock := c }) rfl rfl
  | interrupted outside why c =>
    exact .interrupted (v := { w with clock := c }) (List.prefix_refl _)
  | endless c => exact absurd rested Clock.rest_ne_endless

theorem foretold_sleep (milliseconds : Nat) :
    (sleep milliseconds : Task I Unit).Foretold note script past [.rests milliseconds] []
      (some ()) := by
  by_cases none : milliseconds = 0
  · subst none
    exact ⟨fun guards w same => (foretold_pure ()).keeps guards w same⟩
  · unfold sleep
    rw [if_neg none]
    exact foretold_pause none

theorem foretold_hang : (hang : Task I α).Foretold note script past [.hangs] [] none := by
  constructor
  intro guards w same
  rw [Beat.play_singleton, Beat.rest, List.append_nil, ← same]
  simp only [hang]
  cases rested : w.clock.rest guards none with
  | wakes c => exact absurd rested Clock.rest_ne_wakes
  | interrupted outside why c =>
    exact .interrupted (v := { w with clock := c }) (List.prefix_refl _)
  | endless c => exact .endless (v := { w with clock := c }) rfl rfl

theorem foretold_ripen (outcome : Outcome α) :
    (ripen outcome : Task I (Except Fault α)).Foretold note script past
      [if outcome.hangs then .hangs else .rests outcome.delay] [] outcome.ending := by
  unfold ripen Outcome.ending
  cases outcome.hangs with
  | true => exact foretold_hang
  | false => exact (foretold_sleep outcome.delay).bind (foretold_pure outcome.result)

theorem foretold_play (outcome : Outcome α) :
    (play outcome : Task I (Except Fault α)).Foretold note script past outcome.beats []
      outcome.ending := by
  have ripened : (ripen outcome : Task I (Except Fault α)).Foretold note script past _ []
      outcome.ending := foretold_ripen outcome
  unfold play Outcome.beats
  cases outcome.cancels with
  | true =>
    exact ⟨fun guards w same =>
      ripened.keeps guards { w with clock := w.clock.cancel script.root } same⟩
  | false => exact ripened

/-- A call ends as its outcome says, which has to be known from what has been asked. -/
theorem foretold_call {c : I.Call} {outcome : Outcome (I.Reply c)}
    (answers : ∀ history, history.map note = past → script.answer history c = outcome) :
    (call c).Foretold note script past outcome.beats [note c] outcome.ending := by
  constructor
  intro guards w same
  have begun : (w.mark (.began ⟨w.clock.now, c⟩)).asked note = past ++ [note c] := by
    rw [World.asked_began, same]
  have outcome_eq : script.answer (w.log.map Entry.call) c = outcome := by
    refine answers _ ?_
    rw [← same, World.asked, List.map_map]
    rfl
  have finished (r : Except Fault (I.Reply c)) :
      (finish c r >>= fun _ => pure r : Task I _).Foretold note script (past ++ [note c]) [] []
        (some r) := by
    constructor
    intro guards v same
    refine .done (v := v.mark (.ended v.clock.now c r)) rfl ?_
    rw [World.asked_ended, same, List.append_nil]
  have played : (play outcome >>= fun r => finish c r >>= fun _ => pure r).Foretold note script
      (past ++ [note c]) (outcome.beats ++ []) [] outcome.ending := by
    have outcome_played : (play outcome : Task I _).Foretold note script (past ++ [note c])
        outcome.beats [] outcome.ending := foretold_play outcome
    cases ending : outcome.ending with
    | none =>
      rw [ending] at outcome_played
      exact outcome_played.bind_endless []
    | some r =>
      rw [ending] at outcome_played
      have then_finished := finished r
      rw [← List.append_nil (past ++ [note c])] at then_finished
      exact outcome_played.bind then_finished
  have := played.keeps guards _ begun
  rw [List.append_nil, List.append_nil] at this
  subst outcome_eq
  exact this

theorem foretold_immediate {c : I.Call} {r : Except Fault (I.Reply c)}
    (answers : ∀ history, history.map note = past → script.answer history c = .immediate r) :
    (call c).Foretold note script past [] [note c] (some r) :=
  ⟨fun guards w same => (foretold_call answers).keeps guards w same⟩

end Task

/-! ## Sagas -/

namespace Saga

variable {note : I.Call → κ} {script : Script I} {past asked later : List κ}
  {beats beats' : List Beat} {ending : Option (Except Fault β)}

abbrev Foretold (note : I.Call → κ) (script : Script I) (past : List κ) (beats : List Beat)
    (asked : List κ) (ending : Option (Except Fault α)) (saga : Saga I α) : Prop :=
  Task.Foretold note script past beats asked ending saga.run

theorem Foretold.bind {saga : Saga I α} {next : α → Saga I β} {a : α}
    (h : saga.Foretold note script past beats asked (some (.ok a)))
    (h' : (next a).Foretold note script (past ++ asked) beats' later ending) :
    (saga >>= next).Foretold note script past (beats ++ beats') (asked ++ later) ending := by
  show Task.Foretold note script past _ _ _ (saga >>= next).run
  rw [ExceptT.run_bind]
  exact Task.Foretold.bind h h'

theorem Foretold.exists_bind {saga : Saga I α} {next : α → Saga I β} {a : α}
    (h : saga.Foretold note script past beats asked (some (.ok a)))
    (h' : ∃ later ending, (next a).Foretold note script (past ++ asked) beats' later ending) :
    ∃ asked ending, (saga >>= next).Foretold note script past (beats ++ beats') asked ending := by
  obtain ⟨later, ending, foretold⟩ := h'
  exact ⟨_, ending, h.bind foretold⟩

theorem Foretold.bind_error {saga : Saga I α} {next : α → Saga I β} {fault : Fault}
    (h : saga.Foretold note script past beats asked (some (.error fault))) :
    (saga >>= next).Foretold note script past beats asked (some (.error fault)) := by
  show Task.Foretold note script past _ _ _ (saga >>= next).run
  rw [ExceptT.run_bind, ← List.append_nil asked, ← List.append_nil beats]
  exact Task.Foretold.bind h (Task.foretold_pure _)

theorem Foretold.bind_endless {saga : Saga I α} {next : α → Saga I β}
    (h : saga.Foretold note script past beats asked none) (beats' : List Beat) :
    (saga >>= next).Foretold note script past (beats ++ beats') asked none := by
  show Task.Foretold note script past _ _ _ (saga >>= next).run
  rw [ExceptT.run_bind]
  exact Task.Foretold.bind_endless h beats'

theorem foretold_pure (a : α) :
    (pure a : Saga I α).Foretold note script past [] [] (some (.ok a)) := Task.foretold_pure _

theorem foretold_fail (fault : Fault) :
    (fail fault : Saga I α).Foretold note script past [] [] (some (.error fault)) :=
  Task.foretold_pure _

/-- What is made of a result takes no time. -/
theorem Foretold.bind_pure {saga : Saga I α} {ending : Option (Except Fault α)}
    (h : saga.Foretold note script past beats asked ending) (f : α → β) :
    (saga >>= fun a => pure (f a)).Foretold note script past beats asked
      (ending.map (Except.map f)) := by
  rcases ending with _ | fault | a
  · rw [← List.append_nil beats]
    exact h.bind_endless []
  · exact h.bind_error
  · rw [← List.append_nil beats, ← List.append_nil asked]
    exact h.bind (foretold_pure (f a))

/-- A call comes to what is answered to it after all that has been asked. -/
theorem foretold_call (c : I.Call) {past : List I.Call} :
    (call c).Foretold id script past (script.answer past c).beats [c]
      (script.answer past c).ending := by
  refine Task.foretold_call ?_
  rintro history rfl
  rw [List.map_id]

theorem foretold_ofTask {task : Task I α} {a : α}
    (h : task.Foretold note script past beats asked (some a)) :
    (ofTask task).Foretold note script past beats asked (some (.ok a)) := by
  rw [← List.append_nil asked, ← List.append_nil beats]
  exact Task.Foretold.bind h (Task.foretold_pure _)

theorem foretold_ofTask_endless {task : Task I α}
    (h : task.Foretold note script past beats asked none) :
    (ofTask task).Foretold note script past beats asked none := by
  rw [← List.append_nil beats]
  exact Task.Foretold.bind_endless h []

/-- The clock may stand anywhere. -/
theorem foretold_clock_bind {next : Clock → Saga I β}
    (h : ∀ c, (next c).Foretold note script past beats asked ending) :
    (ofTask Task.clock >>= next).Foretold note script past beats asked ending :=
  ⟨fun guards w same => (h w.clock).keeps guards w same⟩

/-- Run in a scope, the saga either comes to its end or is ended by the scope. -/
theorem Foretold.run {saga : Saga I β} (h : saga.Foretold note script past beats asked ending)
    (s : Scope) (what : String) (guards : List Guard) {w : World I} (same : w.asked note = past) :
    ((s.run what saga).run script guards w).Meets note guards (past ++ asked) ending ∨
    ∃ why v, (s.run what saga).run script guards w = .done (.error (Interrupt.fault what why)) v ∧
      s.guard.Trips v.clock why ∧ v.asked note <+: past ++ asked := by
  cases stopped : s.isCancelled w.clock with
  | true =>
    exact .inr ⟨.cancelled, w, Scope.run_of_cancelled stopped, stopped,
      same ▸ List.prefix_append ..⟩
  | false =>
    have inside := (h.keeps (s.guard :: guards) w same).meets
    cases ended : saga.run script (s.guard :: guards) w with
    | done r v =>
      rw [ended] at inside
      obtain ⟨comes, all⟩ := inside
      rw [(Scope.run_done stopped).mpr (.inl ended)]
      exact .inl (.done comes all)
    | interrupted outside why v =>
      rw [ended] at inside
      obtain _ | _ | ⟨guarded, before⟩ := inside
      by_cases here : outside = guards.length
      · subst here
        exact .inr ⟨why, v, (Scope.run_done stopped).mpr (.inr ⟨why, ended, rfl⟩), guarded.trips,
          before⟩
      · rw [(Scope.run_interrupted stopped).mpr ⟨ended, here⟩]
        exact .inl (.interrupted (guarded.outer_of_ne here) before)
    | endless v =>
      rw [ended] at inside
      obtain _ | ⟨never, all⟩ := inside
      rw [(Scope.run_endless stopped).mpr ended]
      exact .inl (.endless never all)

theorem foretold_hang :
    (ofTask Task.hang : Saga I α).Foretold note script past [.hangs] [] none :=
  foretold_ofTask_endless Task.foretold_hang

end Saga

/-! ## What a task comes to -/

namespace Task

variable {script : Script I} {past asked later : List I.Call}

/-- Begun after just these calls, the task makes those and comes to that value, in whatever time. -/
def ComesTo (script : Script I) (past asked : List I.Call) (a : α) (task : Task I α) : Prop :=
  ∃ beats, task.Foretold id script past beats asked (some a)

theorem comesTo_pure (a : α) : (pure a : Task I α).ComesTo script past [] a := ⟨[], foretold_pure a⟩

theorem comesTo_call {c : I.Call} (answered : (script.answer past c).hangs = false) :
    (call c).ComesTo script past [c] (script.answer past c).result := by
  have called : (call c).Foretold id script past (script.answer past c).beats [c]
      (script.answer past c).ending := Saga.foretold_call c
  rw [Outcome.ending, answered, if_neg Bool.false_ne_true] at called
  exact ⟨_, called⟩

theorem ComesTo.bind {task : Task I α} {next : α → Task I β} {a : α} {b : β}
    (h : task.ComesTo script past asked a) (h' : (next a).ComesTo script (past ++ asked) later b) :
    (task >>= next).ComesTo script past (asked ++ later) b := by
  obtain ⟨beats, foretold⟩ := h
  obtain ⟨beats', foretold'⟩ := h'
  exact ⟨beats ++ beats', foretold.bind foretold'⟩

theorem ComesTo.meets {task : Task I α} {a : α} (h : task.ComesTo script past asked a)
    (guards : List Guard) {w : World I} (same : w.asked id = past) :
    (task script guards w).Meets id guards (past ++ asked) (some a) := by
  obtain ⟨beats, foretold⟩ := h
  exact (foretold.keeps guards w same).meets

/-- Without a guard around it the task is not kept from its end. -/
theorem ComesTo.done {task : Task I α} {a : α} (h : task.ComesTo script past asked a)
    {w : World I} (same : w.asked id = past) : ∃ w', task script [] w = .done a w' := by
  have meets := h.meets [] same
  cases ran : task script [] w with
  | done b w' =>
    rw [ran] at meets
    obtain ⟨comes, -⟩ := meets
    obtain rfl := Option.some.inj comes
    exact ⟨w', rfl⟩
  | interrupted outside why w' =>
    rw [ran] at meets
    obtain _ | _ | ⟨guarded, -⟩ := meets
    cases guarded
  | endless w' =>
    rw [ran] at meets
    obtain _ | ⟨never, -⟩ := meets
    cases never

end Task

end Recovery
