import Recovery.Proofs.Timed.Detachment
import Recovery.Proofs.Timed.Pace
/-!
# What decides a run

A run in a scope is decided by whatever comes first: the work is over, the deadline of the scope is
there or the scope is cancelled. So are runs in scopes one within the other, by the first of the
events of them all. A deadline that they share ends the innermost of them, and what that makes of it
without a rest still comes in time for the others.
-/
set_option autoImplicit false

namespace Recovery

variable {I : Interface} {α : Type}

/-! ## The first of some events -/

/-- The event that comes first, with its instant, if one comes at all; of events that come at one
and the same instant it is that which is listed first. -/
def soonest {β : Type} : List (Option (Nat × β)) → Option (Nat × β)
  | [] => none
  | none :: others => soonest others
  | some event :: others =>
    match soonest others with
    | none => some event
    | some other => if event.1 ≤ other.1 then some event else some other

section Soonest

variable {β : Type} {event : Nat × β} {after : List (Option (Nat × β))}

theorem notBefore_soonest {t : Nat} {events : List (Option (Nat × β))}
    (h : ∀ o ∈ events, NotBefore t (o.map Prod.fst)) :
    NotBefore t ((soonest events).map Prod.fst) := by
  induction events with
  | nil => exact notBefore_none t
  | cons o others ih =>
    obtain ⟨first, rest⟩ := List.forall_mem_cons.mp h
    have later := ih rest
    cases o with
    | none => exact later
    | some e =>
      rw [soonest]
      cases found : soonest others with
      | none => exact first
      | some other =>
        rw [found] at later
        dsimp only
        split
        · exact first
        · exact later

/-- An event comes first if those that are listed before it come later and those that are listed
after it come no sooner. -/
theorem soonest_append (before : List (Option (Nat × β)))
    (later : ∀ o ∈ before, NotBefore (event.1 + 1) (o.map Prod.fst))
    (no_sooner : ∀ o ∈ after, NotBefore event.1 (o.map Prod.fst)) :
    soonest (before ++ some event :: after) = some event := by
  induction before with
  | nil =>
    have rest := notBefore_soonest no_sooner
    rw [List.nil_append, soonest]
    cases found : soonest after with
    | none => rfl
    | some other =>
      rw [found] at rest
      exact if_pos (notBefore_some.mp rest)
  | cons o before ih =>
    obtain ⟨first, rest⟩ := List.forall_mem_cons.mp later
    have found := ih rest
    cases o with
    | none => exact found
    | some e =>
      have := notBefore_some.mp first
      rw [List.cons_append, soonest, found]
      exact if_neg (by omega)

theorem soonest_eq_none {events : List (Option (Nat × β))} (h : ∀ o ∈ events, o = none) :
    soonest events = none := by
  induction events with
  | nil => rfl
  | cons o others ih =>
    obtain ⟨rfl, rest⟩ := List.forall_mem_cons.mp h
    exact ih rest

end Soonest

/-- The step has come to its end with this event, or it never ends if there is none. -/
inductive Step.EndsWith : Option (Nat × α) → Step I α → Prop where
  | event {a : α} {v : World I} : EndsWith (some (v.clock.now, a)) (.done a v)
  | never {v : World I} : EndsWith none (.endless v)

/-! ## What may end a run -/

/-- When the saga is over and what it comes to if nothing cuts it short; none if it never ends. -/
def Saga.alone (saga : Saga I α) (script : Script I) (w : World I) :
    Option (Nat × Except Fault α) :=
  match saga.run script [] w with
  | .done r v => some (v.clock.now, r)
  | .interrupted _ _ _ => none
  | .endless _ => none

/-- Alone, the saga is over when its beats are and comes to its ending. -/
theorem Saga.Spends.alone {saga : Saga I α} {script : Script I} {w : World I} {beats : List Beat}
    {ending : Option (Except Fault α)} (work : saga.Spends script w beats ending) :
    (saga.alone script w).map Prod.fst = (Beat.length beats).map (w.clock.now + ·) ∧
      (saga.alone script w).map Prod.snd = ending := by
  have follows := work []
  have settled := Beat.play_settles script.root [] beats w.clock
  rw [Saga.alone]
  generalize saga.run script [] w = step at follows ⊢
  generalize played : Beat.play script.root [] beats w.clock = rest at follows settled
  cases follows with
  | done comes now =>
    obtain ⟨wakes, -, -⟩ := settled
    exact ⟨(congrArg some now).trans wakes.symm, comes.symm⟩
  | interrupted now =>
    exact absurd (Beat.interrupts_of_play played).lt_length (Nat.not_lt_zero _)
  | endless never =>
    obtain _ | _ | _ | ⟨asleep, -, -⟩ := settled
    exact ⟨asleep.symm, never.symm⟩

/-- A scope, with what is run in it. -/
structure Enclosure where
  scope : Scope
  what : String
deriving Repr, DecidableEq

namespace Enclosure

def guard (e : Enclosure) : Guard := e.scope.guard

theorem exists_of_map_guard {enclosures : List Enclosure} {g : Guard} {inner outer : List Guard}
    (h : enclosures.map guard = inner ++ g :: outer) :
    ∃ inner' e outer', enclosures = inner' ++ e :: outer' ∧ inner = inner'.map guard ∧
      g = e.guard ∧ outer = outer'.map guard := by
  obtain ⟨inner', rest, rfl, rfl, tail⟩ := List.map_eq_append_iff.mp h
  obtain ⟨e, outer', rfl, rfl, rfl⟩ := List.map_eq_cons_iff.mp tail
  exact ⟨inner', e, outer', rfl, rfl, rfl, rfl⟩

/-- The deadline is there, at once if it has passed. -/
def expiry (now : Nat) (e : Enclosure) : Option (Nat × Except Fault α) :=
  e.scope.deadline.map fun deadline => (max now deadline, .error (.deadlineExceeded e.what))

/-- The scope is cancelled. -/
def cancelling (cancellation : List Token → Option Nat) (e : Enclosure) :
    Option (Nat × Except Fault α) :=
  (cancellation e.scope.tokens).map fun instant => (instant, .error (.cancelled e.what))

/-- What may end a run that begins now in scopes one within the other, innermost first. At one and
the same instant the end of the work comes first, then the deadlines, the innermost first, and then
the cancellations, the outermost first. -/
def events (now : Nat) (finish : Option (Nat × Except Fault α))
    (cancellation : List Token → Option Nat) (enclosures : List Enclosure) :
    List (Option (Nat × Except Fault α)) :=
  finish :: (enclosures.map (expiry now) ++ enclosures.reverse.map (cancelling cancellation))

variable {now t : Nat} {e : Enclosure} {inner outer enclosures : List Enclosure}
  {finish : Option (Nat × Except Fault α)} {cancellation : List Token → Option Nat}

theorem notBefore_expiry (h : t ≤ now ∨ NotBefore t e.scope.deadline) :
    NotBefore t ((expiry now e : Option (Nat × Except Fault α)).map Prod.fst) := by
  rw [expiry]
  cases timed : e.scope.deadline with
  | none => exact notBefore_none t
  | some deadline =>
    rw [timed, notBefore_some] at h
    exact notBefore_some.mpr (show t ≤ max now deadline by omega)

theorem notBefore_cancelling (h : NotBefore t (cancellation e.scope.tokens)) :
    NotBefore t ((cancelling cancellation e : Option (Nat × Except Fault α)).map Prod.fst) := by
  rw [cancelling]
  cases struck : cancellation e.scope.tokens <;> rwa [struck] at h

theorem notBefore_expiries (h : t ≤ now ∨ ∀ e ∈ enclosures, NotBefore t e.scope.deadline) :
    ∀ o ∈ enclosures.map (expiry (α := α) now), NotBefore t (o.map Prod.fst) :=
  List.forall_mem_map.mpr fun e mem => notBefore_expiry (h.imp_right fun later => later e mem)

theorem notBefore_cancellings
    (h : ∀ e ∈ enclosures, NotBefore t (cancellation e.scope.tokens)) :
    ∀ o ∈ enclosures.map (cancelling (α := α) cancellation), NotBefore t (o.map Prod.fst) :=
  List.forall_mem_map.mpr fun e mem => notBefore_cancelling (h e mem)

theorem soonest_of_finish {instant : Nat} {r : Except Fault α}
    (kept : instant = now ∨ ∀ e ∈ enclosures, NotBefore instant e.scope.deadline)
    (spared : ∀ e ∈ enclosures, NotBefore instant (cancellation e.scope.tokens)) :
    soonest (events now (some (instant, r)) cancellation enclosures) = some (instant, r) := by
  refine soonest_append [] (List.forall_mem_nil _) (List.forall_mem_append.mpr ⟨?_, ?_⟩)
  · exact notBefore_expiries (kept.imp_left Nat.le_of_eq)
  · exact notBefore_cancellings fun e mem => spared e (List.mem_reverse.mp mem)

theorem soonest_of_deadline {deadline instant : Nat} (timed : e.scope.deadline = some deadline)
    (due : instant = max now deadline) (asleep : NotBefore (instant + 1) (finish.map Prod.fst))
    (later : ∀ f ∈ inner, NotBefore (instant + 1) f.scope.deadline)
    (kept : instant = now ∨ ∀ f ∈ outer, NotBefore instant f.scope.deadline)
    (spared : ∀ f ∈ inner ++ e :: outer, NotBefore instant (cancellation f.scope.tokens)) :
    soonest (events now finish cancellation (inner ++ e :: outer)) =
      some (instant, .error (.deadlineExceeded e.what)) := by
  have expires : expiry (α := α) now e = some (instant, .error (.deadlineExceeded e.what)) := by
    rw [expiry, timed, due]
    rfl
  have listed : events now finish cancellation (inner ++ e :: outer) =
      (finish :: inner.map (expiry now)) ++ some (instant, .error (.deadlineExceeded e.what)) ::
        (outer.map (expiry now) ++
          (inner ++ e :: outer).reverse.map (cancelling cancellation)) := by
    rw [← expires]
    simp [events]
  rw [listed]
  refine soonest_append _ (List.forall_mem_cons.mpr ⟨asleep, ?_⟩)
    (List.forall_mem_append.mpr ⟨?_, ?_⟩)
  · exact notBefore_expiries (.inr later)
  · exact notBefore_expiries (kept.imp_left Nat.le_of_eq)
  · exact notBefore_cancellings fun f mem => spared f (List.mem_reverse.mp mem)

theorem soonest_of_cancellation {instant : Nat}
    (struck : cancellation e.scope.tokens = some instant)
    (asleep : NotBefore (instant + 1) (finish.map Prod.fst))
    (ahead : ∀ f ∈ inner ++ e :: outer, NotBefore (instant + 1) f.scope.deadline)
    (around : ∀ f ∈ outer, NotBefore (instant + 1) (cancellation f.scope.tokens))
    (spared : ∀ f ∈ inner, NotBefore instant (cancellation f.scope.tokens)) :
    soonest (events now finish cancellation (inner ++ e :: outer)) =
      some (instant, .error (.cancelled e.what)) := by
  have cancels : cancelling (α := α) cancellation e =
      some (instant, .error (.cancelled e.what)) := by
    rw [cancelling, struck]
    rfl
  have listed : events now finish cancellation (inner ++ e :: outer) =
      (finish :: ((inner ++ e :: outer).map (expiry now) ++
        outer.reverse.map (cancelling cancellation))) ++
        some (instant, .error (.cancelled e.what)) ::
          inner.reverse.map (cancelling cancellation) := by
    rw [← cancels]
    simp [events]
  rw [listed]
  refine soonest_append _
    (List.forall_mem_cons.mpr ⟨asleep, List.forall_mem_append.mpr ⟨?_, ?_⟩⟩) ?_
  · exact notBefore_expiries (.inr ahead)
  · exact notBefore_cancellings fun f mem => around f (List.mem_reverse.mp mem)
  · exact notBefore_cancellings fun f mem => spared f (List.mem_reverse.mp mem)

theorem soonest_of_never (asleep : finish = none)
    (untimed : ∀ e ∈ enclosures, e.scope.deadline = none)
    (spared : ∀ e ∈ enclosures, cancellation e.scope.tokens = none) :
    soonest (events now finish cancellation enclosures) = none := by
  refine soonest_eq_none (List.forall_mem_cons.mpr ⟨asleep, List.forall_mem_append.mpr ⟨?_, ?_⟩⟩)
  · exact List.forall_mem_map.mpr fun e mem => by rw [expiry, untimed e mem, Option.map_none]
  · refine List.forall_mem_map.mpr fun e mem => ?_
    rw [cancelling, spared e (List.mem_reverse.mp mem), Option.map_none]

end Enclosure

/-! ## Runs within runs -/

namespace Saga

/-- The saga run in scopes one within the other, innermost first. -/
def nested (saga : Saga I α) : List Enclosure → Saga I α
  | [] => saga
  | e :: outer => (e.scope.run e.what saga).nested outer

variable {saga : Saga I α} {script : Script I} {w v : World I} {r : Except Fault α}
  {beats : List Beat} {ending : Option (Except Fault α)} {e : Enclosure}
  {inner outer enclosures : List Enclosure}

theorem nested_append (saga : Saga I α) (inner outer : List Enclosure) :
    saga.nested (inner ++ outer) = (saga.nested inner).nested outer := by
  induction inner generalizing saga with
  | nil => rfl
  | cons e inner ih => exact ih _

/-- What a saga comes to by itself is what the runs around it come to. -/
theorem nested_done (going : ∀ f ∈ outer, f.scope.isCancelled w.clock = false)
    (h : saga.run script (outer.map Enclosure.guard) w = .done r v) :
    (saga.nested outer).run script [] w = .done r v := by
  induction outer generalizing saga with
  | nil => exact h
  | cons e outer ih =>
    obtain ⟨here, around⟩ := List.forall_mem_cons.mp going
    exact ih around ((Scope.run_done here).mpr (.inl h))

theorem nested_endless (going : ∀ f ∈ outer, f.scope.isCancelled w.clock = false)
    (h : saga.run script (outer.map Enclosure.guard) w = .endless v) :
    (saga.nested outer).run script [] w = .endless v := by
  induction outer generalizing saga with
  | nil => exact h
  | cons e outer ih =>
    obtain ⟨here, around⟩ := List.forall_mem_cons.mp going
    exact ih around ((Scope.run_endless here).mpr h)

/-- The scope that ends the work is the one that reports it. -/
theorem nested_interrupted {why : Interrupt}
    (going : ∀ f ∈ inner ++ e :: outer, f.scope.isCancelled w.clock = false)
    (h : saga.run script ((inner ++ e :: outer).map Enclosure.guard) w =
      .interrupted outer.length why v) :
    (saga.nested (inner ++ e :: outer)).run script [] w = .done (.error (why.fault e.what)) v := by
  induction inner generalizing saga with
  | nil =>
    obtain ⟨here, around⟩ := List.forall_mem_cons.mp going
    rw [← List.length_map Enclosure.guard] at h
    show ((e.scope.run e.what saga).nested outer).run script [] w = _
    exact nested_done around ((Scope.run_done here).mpr (.inr ⟨why, h, rfl⟩))
  | cons f inner ih =>
    obtain ⟨here, around⟩ := List.forall_mem_cons.mp going
    refine ih around ((Scope.run_interrupted here).mpr ⟨h, ?_⟩)
    rw [List.length_map, List.length_append, List.length_cons]
    omega

/-- Of the scopes that are cancelled already it is the outermost that reports it, and what was to be
run in there is not started. -/
theorem nested_of_cancelled (cancelled : e.scope.isCancelled w.clock = true)
    (going : ∀ f ∈ outer, f.scope.isCancelled w.clock = false) :
    (saga.nested (inner ++ e :: outer)).run script [] w =
      .done (.error (.cancelled e.what)) w := by
  rw [nested_append]
  show ((e.scope.run e.what (saga.nested inner)).nested outer).run script [] w = _
  exact nested_done going (Scope.run_of_cancelled cancelled)

/-- Runs in scopes none of which is cancelled yet end with the first of their events. -/
theorem Spends.nested_endsWith (work : saga.Spends script w beats ending)
    (going : ∀ f ∈ enclosures, f.scope.isCancelled w.clock = false) :
    ((saga.nested enclosures).run script [] w).EndsWith (soonest (Enclosure.events w.clock.now
      (saga.alone script w) (w.clock.cancellationIn script.root · beats) enclosures)) := by
  have follows := work (enclosures.map Enclosure.guard)
  have settled := Beat.play_settles script.root (enclosures.map Enclosure.guard) beats w.clock
  obtain ⟨finished, comes⟩ := work.alone
  rw [← finished] at settled
  generalize inside : saga.run script (enclosures.map Enclosure.guard) w = step at follows
  generalize Beat.play script.root (enclosures.map Enclosure.guard) beats w.clock = played
    at follows settled
  generalize saga.alone script w = finish at settled comes ⊢
  -- what is said of the guards is said of the scopes
  have each {P : Guard → Prop} {some_ : List Enclosure} (h : ∀ g ∈ some_.map Enclosure.guard, P g)
      (e : Enclosure) (mem : e ∈ some_) : P e.guard := h e.guard (List.mem_map_of_mem mem)
  cases settled with
  | @wakes c wakes kept spared =>
    obtain ⟨ended, now⟩ := follows
    obtain ⟨⟨instant, r⟩, rfl, rfl⟩ := Option.map_eq_some_iff.mp (comes.trans ended)
    obtain rfl : instant = _ := (Option.some.inj wakes).trans now.symm
    rw [← now] at kept spared
    rw [nested_done going inside, Enclosure.soonest_of_finish (kept.imp_right each) (each spared)]
    exact .event
  | cancelled split struck asleep ahead around spared =>
    obtain ⟨inner, e, outer, rfl, rfl, rfl, rfl⟩ := Enclosure.exists_of_map_guard split
    rw [List.length_map] at follows
    obtain _ | now | _ := follows
    rw [← now] at struck asleep ahead around spared
    rw [nested_interrupted going inside, Enclosure.soonest_of_cancellation struck asleep
      (each ahead) (each around) fun f mem => each spared f (List.mem_append_left _ mem)]
    exact .event
  | expired split timed due asleep later kept spared =>
    obtain ⟨inner, e, outer, rfl, rfl, rfl, rfl⟩ := Enclosure.exists_of_map_guard split
    rw [List.length_map] at follows
    obtain _ | now | _ := follows
    rw [← now] at due asleep later kept spared
    have around := kept.imp_right fun h f mem =>
      each h f (List.mem_append_right inner (List.mem_cons_of_mem e mem))
    rw [nested_interrupted going inside, Enclosure.soonest_of_deadline timed due asleep
      (each later) around (each spared)]
    exact .event
  | endless asleep untimed spared =>
    obtain _ | _ | never := follows
    rw [nested_endless going inside, Enclosure.soonest_of_never (Option.map_eq_none_iff.mp asleep)
      (each untimed) (each spared)]
    exact .never

/-- A run in a scope that is not cancelled yet ends with the first of its events. -/
theorem Spends.run_first (work : saga.Spends script w beats ending) {s : Scope} {what : String}
    {instant : Nat} (going : s.isCancelled w.clock = false)
    (first : soonest (Enclosure.events w.clock.now (saga.alone script w)
      (w.clock.cancellationIn script.root · beats) ([] ++ ⟨s, what⟩ :: [])) = some (instant, r)) :
    ∃ v, (s.run what saga).run script [] w = .done r v ∧ v.clock.now = instant := by
  have ends : ((saga.nested ([] ++ ⟨s, what⟩ :: [])).run script [] w).EndsWith _ :=
    work.nested_endsWith (List.forall_mem_singleton.mpr going)
  rw [first] at ends
  show ∃ v, (saga.nested ([] ++ ⟨s, what⟩ :: [])).run script [] w = _ ∧ _
  generalize (saga.nested ([] ++ ⟨s, what⟩ :: [])).run script [] w = step at ends ⊢
  cases ends
  exact ⟨_, rfl, rfl⟩

/-- A run ends with the cancellation of its scope if that comes before its work is over and before
its deadline is there. -/
theorem Spends.run_cancelled (work : saga.Spends script w beats ending) {s : Scope} (what : String)
    {instant : Nat} (going : s.isCancelled w.clock = false)
    (struck : w.clock.cancellationIn script.root s.tokens beats = some instant)
    (asleep : NotBefore (instant + 1) ((Beat.length beats).map (w.clock.now + ·)))
    (ahead : NotBefore (instant + 1) s.deadline) :
    ∃ v, (s.run what saga).run script [] w = .done (.error (.cancelled what)) v ∧
      v.clock.now = instant := by
  apply work.run_first going
  rw [← work.alone.1] at asleep
  exact Enclosure.soonest_of_cancellation struck asleep (List.forall_mem_singleton.mpr ahead)
    (List.forall_mem_nil _) (List.forall_mem_nil _)

/-- A run ends at the deadline of its scope, or at once if that has passed, if its work would go on
for longer and its scope is not cancelled before. -/
theorem Spends.run_expired (work : saga.Spends script w beats ending) {s : Scope} (what : String)
    {deadline : Nat} (going : s.isCancelled w.clock = false) (timed : s.deadline = some deadline)
    (asleep : NotBefore (max w.clock.now deadline + 1)
      ((Beat.length beats).map (w.clock.now + ·)))
    (spared : NotBefore (max w.clock.now deadline)
      (w.clock.cancellationIn script.root s.tokens beats)) :
    ∃ v, (s.run what saga).run script [] w = .done (.error (.deadlineExceeded what)) v ∧
      v.clock.now = max w.clock.now deadline := by
  apply work.run_first going
  rw [← work.alone.1] at asleep
  exact Enclosure.soonest_of_deadline timed rfl asleep (List.forall_mem_nil _)
    (.inr (List.forall_mem_nil _)) (List.forall_mem_singleton.mpr spared)

/-- The deadline of a scope comes before anything else that could end the run in it or one of those
around it: the scopes of these have none that is earlier, none of them all is cancelled by then, and
the work would go on for longer. -/
structure Expires (saga : Saga I α) (script : Script I) (w : World I) (beats : List Beat)
    (e : Enclosure) (outer : List Enclosure) (deadline : Nat) : Prop where
  timed : e.scope.deadline = some deadline
  first : ∀ f ∈ outer, NotBefore deadline f.scope.deadline
  going : ∀ f ∈ e :: outer, f.scope.isCancelled w.clock = false
  spared : ∀ f ∈ e :: outer,
    NotBefore deadline (w.clock.cancellationIn script.root f.scope.tokens beats)
  late : ∀ instant r, saga.alone script w = some (instant, r) → max w.clock.now deadline < instant

/-- It is that scope which ends the work. -/
theorem Expires.interrupted {deadline : Nat}
    (h : saga.Expires script w beats e outer deadline)
    (work : saga.Spends script w beats ending) :
    ∃ v, saga.run script ((e :: outer).map Enclosure.guard) w =
        .interrupted outer.length .expired v ∧
      v.clock.now = max w.clock.now deadline := by
  have follows := work ((e :: outer).map Enclosure.guard)
  have settled := Beat.play_settles script.root ((e :: outer).map Enclosure.guard) beats w.clock
  have late : NotBefore (max w.clock.now deadline + 1)
      ((Beat.length beats).map (w.clock.now + ·)) := by
    rw [← work.alone.1]
    intro x finished
    obtain ⟨⟨instant, r⟩, alone, rfl⟩ := Option.map_eq_some_iff.mp finished
    exact h.late instant r alone
  have here : e.guard ∈ (e :: outer).map Enclosure.guard := List.mem_cons_self
  generalize saga.run script ((e :: outer).map Enclosure.guard) w = step at follows ⊢
  generalize Beat.play script.root ((e :: outer).map Enclosure.guard) beats w.clock = played
    at follows settled
  cases settled with
  | wakes wakes kept _ =>
    have := late _ wakes
    have := kept.imp_right fun h' => h' e.guard here deadline h.timed
    omega
  | cancelled split struck _ ahead _ _ =>
    obtain ⟨inner, f, around, parts, rfl, rfl, rfl⟩ := Enclosure.exists_of_map_guard split
    have := h.spared f (parts ▸ List.mem_append_right inner List.mem_cons_self) _ struck
    have := ahead e.guard here deadline h.timed
    omega
  | expired split timed due _ later _ _ =>
    obtain ⟨inner, f, around, parts, rfl, rfl, rfl⟩ := Enclosure.exists_of_map_guard split
    cases inner with
    | nil =>
      obtain ⟨rfl, rfl⟩ := List.cons_eq_cons.mp parts
      cases h.timed.symm.trans timed
      rw [List.length_map] at follows
      obtain _ | now | _ := follows
      exact ⟨_, rfl, now.trans due⟩
    | cons g inner =>
      -- no scope around it is past its deadline before it is itself
      obtain ⟨rfl, rfl⟩ := List.cons_eq_cons.mp parts
      have := h.first f (List.mem_append_right inner List.mem_cons_self) _ timed
      have := later e.guard List.mem_cons_self deadline h.timed
      omega
  | endless _ untimed _ =>
    exact absurd (h.timed.symm.trans (untimed e.guard here)) (Option.some_ne_none deadline)

end Saga

/-- A run is decided by whatever comes first. In a scope that is cancelled already its work is not
even started. Otherwise it ends when its work is over, when its deadline is there or when its scope
is cancelled, as it may be at the instant of the start too; and at one and the same instant it is
the work that counts, so that work which takes no time is done past the deadline too. Runs one
within the other are decided by the first of all their events, and reported by the scope that it is
an event of. If that is a deadline which some of them share, it is the innermost that reports it,
and what is made of that without a rest is what all the others come to. -/
theorem Scope.run_decided_by_earliest {saga : Saga I α} {script : Script I} {w : World I}
    {beats : List Beat} {ending : Option (Except Fault α)}
    (work : saga.Spends script w beats ending) :
    let finish := saga.alone script w
    let cancellation (tokens : List Token) := w.clock.cancellationIn script.root tokens beats
    (∀ (s : Scope) (what : String),
      if s.isCancelled w.clock then
        (s.run what saga).run script [] w = .done (.error (.cancelled what)) w
      else
        ((s.run what saga).run script [] w).EndsWith (soonest [finish,
          s.deadline.map fun deadline =>
            (max w.clock.now deadline, .error (.deadlineExceeded what)),
          (cancellation s.tokens).map fun instant => (instant, .error (.cancelled what))])) ∧
    (∀ enclosures : List Enclosure,
      match enclosures.reverse.find? (·.scope.isCancelled w.clock) with
      | some e => (saga.nested enclosures).run script [] w = .done (.error (.cancelled e.what)) w
      | none => ((saga.nested enclosures).run script [] w).EndsWith
          (soonest (Enclosure.events w.clock.now finish cancellation enclosures))) ∧
    ∀ (e : Enclosure) (outer : List Enclosure) (deadline : Nat),
      saga.Expires script w beats e outer deadline →
      ∃ v, v.clock.now = max w.clock.now deadline ∧
        (saga.nested (e :: outer)).run script [] w = .done (.error (.deadlineExceeded e.what)) v ∧
        ∀ {β : Type} (next : Except Fault α → Task I (Except Fault β)),
          (∀ r, (next r).Immediate) → ∃ r v', v'.clock.now = max w.clock.now deadline ∧
            next (.error (.deadlineExceeded e.what)) script (outer.map Enclosure.guard) v =
              .done r v' ∧
            (Saga.nested (ExceptT.mk ((e.scope.run e.what saga).run >>= next)) outer).run script []
              w = .done r v' := by
  intro finish cancellation
  refine ⟨fun s what => ?single, fun enclosures => ?nested, fun e outer deadline expires => ?next⟩
  case single =>
    split
    · rename_i cancelled
      exact run_of_cancelled cancelled
    · rename_i going
      have going' : ∀ f ∈ [Enclosure.mk s what], f.scope.isCancelled w.clock = false :=
        List.forall_mem_singleton.mpr (eq_false_of_ne_true going)
      exact work.nested_endsWith going'
  case nested =>
    split
    · rename_i e found
      obtain ⟨cancelled, outer, inner, listed, going⟩ := List.find?_eq_some_iff_append.mp found
      have parts : enclosures = inner.reverse ++ e :: outer.reverse := by
        rw [← List.reverse_reverse enclosures, listed]
        simp
      rw [parts]
      refine Saga.nested_of_cancelled cancelled fun f mem => ?_
      simpa using going f (List.mem_reverse.mp mem)
    · rename_i found
      refine work.nested_endsWith fun f mem => eq_false_of_ne_true ?_
      exact List.find?_eq_none.mp found f (List.mem_reverse.mpr mem)
  case next =>
    obtain ⟨v, ended, now⟩ := expires.interrupted work
    obtain ⟨going, around⟩ := List.forall_mem_cons.mp expires.going
    rw [← List.length_map Enclosure.guard] at ended
    have inner : (e.scope.run e.what saga).run script (outer.map Enclosure.guard) w =
        .done (.error (.deadlineExceeded e.what)) v :=
      (run_done going).mpr (.inr ⟨.expired, ended, rfl⟩)
    have reported : ((e.scope.run e.what saga).nested outer).run script [] w = _ :=
      Saga.nested_done around inner
    refine ⟨v, now, reported, fun next immediate => ?_⟩
    obtain ⟨r, v', goes_on, now'⟩ := immediate (.error (.deadlineExceeded e.what)) script
      (outer.map Enclosure.guard) v
    exact ⟨r, v', now'.trans now, goes_on,
      Saga.nested_done around (Task.bind_done.mpr ⟨_, v, inner, goes_on⟩)⟩

open Cleanup in
theorem spends_refusal (w : World Knock) :
    (Saga.call () : Saga Knock Unit).Spends (refusal false) w [.rests 20]
      (some (.error (.cancelled "knock"))) := by
  have answers : ∀ history, history.map id = w.asked id →
      (refusal false).answer history () = (refusal false).answer [] () := fun _ _ => rfl
  exact Saga.Foretold.spends (Task.foretold_call answers) rfl

open Cleanup in
/-- A call that takes 20 ms comes in time for a deadline at that instant. An earlier one cuts it
short, and so does a cancellation of its scope. Of two scopes with one deadline the inner reports
it, and what is made of that at once comes in time for the outer; the outer reports that both are
cancelled. -/
theorem Scope.run_decided_by_earliest_of_refusal :
    let knock : Saga Knock Unit := Saga.call ()
    let soon : World Knock := ⟨Scope.unbounded.cancelAfter 5 (Scope.background .start).2, []⟩
    let gone : World Knock := ⟨Scope.unbounded.cancel (Scope.background .start).2, []⟩
    let run (deadline : Nat) (w : World Knock) :=
      (Scope.run ⟨[0], some deadline⟩ "visit" knock).run (refusal false) [] w
    let inner : Enclosure := ⟨⟨[1, 0], some 10⟩, "inner"⟩
    let outer : Enclosure := ⟨⟨[0], some 10⟩, "outer"⟩
    let both (w : World Knock) := (knock.nested [inner, outer]).run (refusal false) [] w
    let excused : Saga Knock Unit :=
      ExceptT.mk ((inner.scope.run inner.what knock).run >>= fun _ => pure (.ok ()))
    knock.Spends (refusal false) .initial [.rests 20] (some (.error (.cancelled "knock"))) ∧
    (run 20 .initial).EndsWith (some (20, .error (.cancelled "knock"))) ∧
    (run 10 .initial).EndsWith (some (10, .error (.deadlineExceeded "visit"))) ∧
    (run 10 soon).EndsWith (some (5, .error (.cancelled "visit"))) ∧
    run 10 gone = .done (.error (.cancelled "visit")) gone ∧
    (both soon).EndsWith (some (5, .error (.cancelled "outer"))) ∧
    both gone = .done (.error (.cancelled "outer")) gone ∧
    knock.Expires (refusal false) .initial [.rests 20] inner [outer] 10 ∧
    (∃ v, v.clock.now = 10 ∧ both .initial = .done (.error (.deadlineExceeded "inner")) v) ∧
    ∃ v, v.clock.now = 10 ∧
      (excused.nested [outer]).run (refusal false) [] .initial = .done (.ok ()) v := by
  intro knock soon gone run inner outer both excused
  obtain ⟨single, -, nested⟩ := Scope.run_decided_by_earliest (spends_refusal .initial)
  obtain ⟨soonSingle, soonBoth, -⟩ := Scope.run_decided_by_earliest (spends_refusal soon)
  obtain ⟨goneSingle, goneBoth, -⟩ := Scope.run_decided_by_earliest (spends_refusal gone)
  have expires : knock.Expires (refusal false) .initial [.rests 20] inner [outer] 10 := by
    refine ⟨rfl, ?_, by decide, ?_, ?_⟩
    · exact List.forall_mem_singleton.mpr (notBefore_some.mpr (Nat.le_refl 10))
    · exact List.forall_mem_cons.mpr
        ⟨notBefore_none 10, List.forall_mem_singleton.mpr (notBefore_none 10)⟩
    · rintro _ _ ⟨⟩
      decide
  obtain ⟨v, now, reported, goes_on⟩ := nested inner [outer] 10 expires
  obtain ⟨r, v', now', ended, comes⟩ := goes_on (fun _ => pure (.ok ())) fun _ => .pure _
  cases ended
  exact ⟨spends_refusal .initial, single ⟨[0], some 20⟩ "visit", single ⟨[0], some 10⟩ "visit",
    soonSingle ⟨[0], some 10⟩ "visit", goneSingle ⟨[0], some 10⟩ "visit",
    soonBoth [inner, outer], goneBoth [inner, outer], expires, ⟨v, now, reported⟩, v, now, comes⟩

end Recovery
