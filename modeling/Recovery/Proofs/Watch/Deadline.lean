import Recovery.Proofs.Watch.Verdict
import Recovery.Resource.Claim
/-!
# A wait is over by its deadline

The scope of a wait ends at its deadline or when it is cancelled, and the wait with it. Which of the
two it is, or whether the first decisive arrival comes before, is told by their instants alone,
through however many lists, watches and pauses; at one and the same instant the arrival comes first
and then the deadline.
-/
set_option autoImplicit false

namespace Recovery

/-! ## The scope of a wait -/

namespace Scope

variable (s : Scope) (timeout : Nat) (c : Clock)

/-- The latest instant for a scope that is derived now with a timeout. -/
def limit (now : Nat) : Nat :=
  match s.deadline with
  | some deadline => min deadline (now + timeout)
  | none => now + timeout

theorem deadline_withTimeout :
    (s.withTimeout timeout c).1.deadline = some (s.limit timeout c.now) := by
  unfold limit withTimeout derive
  cases s.deadline <;> rfl

theorem isCancelled_withTimeout :
    (s.withTimeout timeout c).1.isCancelled (s.withTimeout timeout c).2 = s.isCancelled c :=
  isCancelled_derive s.tokens _ c

theorem cancellation?_withTimeout :
    (s.withTimeout timeout c).2.cancellation? (s.withTimeout timeout c).1.tokens =
      c.cancellation? s.tokens := by
  have spared : c.Spares c.fresh := Clock.spares_of_fresh_le (Nat.le_refl _)
  refine eq_of_notBefore fun t => ?_
  rw [Clock.notBefore_cancellation?, Clock.notBefore_cancellation?]
  have clear : (s.withTimeout timeout c).2.Clear (s.withTimeout timeout c).1.tokens t ↔
      c.Clear s.tokens t := by
    constructor
    · rintro ⟨cancelled, later⟩
      exact ⟨fun token mem => cancelled token (List.mem_cons_of_mem _ mem),
        fun a set mem => later a set (List.mem_cons_of_mem _ mem)⟩
    · rintro ⟨cancelled, later⟩
      refine ⟨List.forall_mem_cons.mpr ⟨spared.1, cancelled⟩, fun a set mem => ?_⟩
      rcases List.mem_cons.mp mem with unused | mem
      · exact absurd unused (spared.2 a set)
      · exact later a set mem
  rw [clear]
  rfl

theorem cancellationIn_withTimeout {root : Token} (rooted : root < c.fresh) (beats : List Beat) :
    (s.withTimeout timeout c).2.cancellationIn root (s.withTimeout timeout c).1.tokens beats =
      c.cancellationIn root s.tokens beats := by
  have now : (s.withTimeout timeout c).2.now = c.now := rfl
  have among : root ∈ (s.withTimeout timeout c).1.tokens ↔ root ∈ s.tokens := by
    show root ∈ c.fresh :: s.tokens ↔ _
    rw [List.mem_cons, or_iff_right (Nat.ne_of_lt rooted)]
  rw [Clock.cancellationIn, Clock.cancellationIn, cancellation?_withTimeout, now]
  simp only [among]

/-- What a derived scope makes of a row of beats is settled by what becomes of its parent. -/
theorem play_settles {root : Token} (rooted : root < c.fresh) (beats : List Beat) :
    (Beat.play root [(s.withTimeout timeout c).1.guard] beats (s.withTimeout timeout c).2).Settles
      [(s.withTimeout timeout c).1.guard] c.now (fun _ => c.cancellationIn root s.tokens beats)
      ((Beat.length beats).map (c.now + ·)) := by
  refine (Beat.play_settles root _ beats (s.withTimeout timeout c).2).sooner (Nat.le_refl _)
    (.inl rfl) fun g mem => ?_
  rw [List.mem_singleton.mp mem]
  exact s.cancellationIn_withTimeout timeout c rooted beats

end Scope

variable {α β : Type}

namespace Sessions

variable (s : Sessions α β) (what : String) (rounds : Nat)

/-- How the time of a wait goes by with a source that answers so many lists and watches. -/
def course : List Beat := s.beats what [] (s.schedule rounds ⟨0, 0, true⟩)

/-- The first decisive arrival of a wait that begins now and that nothing cuts short: the instant at
which it comes and what it decides. -/
def decisive (now : Nat) : Option (Nat × Except Fault β) := do
  let r ← s.answer what rounds
  let milliseconds ← Beat.length (s.course what rounds)
  return (now + milliseconds, r)

variable {s what rounds}

theorem decisive_eq {now instant : Nat} {r : Except Fault β}
    (answered : s.answer what rounds = some r)
    (arrives : (Beat.length (s.course what rounds)).map (now + ·) = some instant) :
    s.decisive what rounds now = some (instant, r) := by
  obtain ⟨milliseconds, lasts, rfl⟩ := Option.map_eq_some_iff.mp arrives
  simp [decisive, answered, lasts]

theorem arrives_of_decisive {now instant : Nat} {r : Except Fault β}
    (h : s.decisive what rounds now = some (instant, r)) :
    (Beat.length (s.course what rounds)).map (now + ·) = some instant := by
  obtain ⟨r', answered, h⟩ := Option.bind_eq_some_iff.mp h
  obtain ⟨milliseconds, lasts, h⟩ := Option.bind_eq_some_iff.mp h
  cases h
  rw [lasts]
  rfl

/-- When the time of so many rounds is more than there is, more rounds make no difference. -/
theorem play_course (what : String) {root : Token} {guards : List Guard} {c : Clock}
    (cut : ∀ d, Beat.play root guards (Moment.beats (s.schedule rounds ⟨0, 0, true⟩)) c ≠ .wakes d)
    (more : Nat) :
    Beat.play root guards (s.course what (rounds + more)) c =
        Beat.play root guards (s.course what rounds) c ∧
      ∀ d, Beat.play root guards (s.course what rounds) c = .wakes d →
        s.answer what (rounds + more) = s.answer what rounds := by
  obtain ⟨later, added⟩ := s.schedule_add rounds more ⟨0, 0, true⟩
  have answers (n : Nat) :
      s.verdict what [] (Moment.arrivals (s.schedule n ⟨0, 0, true⟩)) = s.answer what n := by
    rw [arrivals_schedule]
    rfl
  unfold course
  rw [← answers, ← answers, added]
  -- once something is decided the rest of the schedule is not looked at
  cases verdict : s.verdict what [] (Moment.arrivals (s.schedule rounds ⟨0, 0, true⟩)) with
  | some r =>
    obtain ⟨same, verdict'⟩ := beats_append_of_decided verdict later
    exact ⟨by rw [same], fun _ _ => verdict'⟩
  | none =>
    obtain ⟨seen, same⟩ := beats_append_of_undecided verdict
    have only := same []
    rw [List.append_nil] at only
    rw [same, only, Beat.play_append, Beat.play_append]
    cases played : Beat.play root guards (Moment.beats (s.schedule rounds ⟨0, 0, true⟩)) c with
    | wakes d => exact absurd played (cut d)
    | interrupted outside why d => exact ⟨rfl, nofun⟩
    | endless d => exact ⟨rfl, nofun⟩

end Sessions

namespace Waiting

variable [Resource α] {s : Sessions α β} {root : Token} {name : String} {scope : Scope}
  {timeout rounds : Nat} {c : Clock}

theorem waitFor_of_cancelled (s : Sessions α β) (root : Token) (timeout : Nat) (name : String)
    (cancelled : scope.isCancelled c = true) (rounds : Nat) :
    ∃ v, ((source rounds).waitFor scope name timeout look : Saga (Waiting α β) β).run
        (s.script root) [] ⟨c, []⟩ = .done (.error (.cancelled (title α name))) v ∧
      v.clock.now = c.now ∧ v.marks = [] := by
  have child : (scope.withTimeout timeout c).1.isCancelled (scope.withTimeout timeout c).2 = true :=
    (scope.isCancelled_withTimeout timeout c).trans cancelled
  refine ⟨⟨(scope.withTimeout timeout c).2, []⟩, ?_, rfl, rfl⟩
  rw [waitFor_run]
  exact Scope.run_of_cancelled (w := ⟨(scope.withTimeout timeout c).2, []⟩) child

theorem waitFor_ends (s : Sessions α β) (root : Token) (timeout : Nat) (name : String)
    (going : scope.isCancelled c = false) (rounds : Nat) :
    let own := scope.withTimeout timeout c
    ∃ r v, ((source rounds).waitFor scope name timeout look : Saga (Waiting α β) β).run
        (s.script root) [] ⟨c, []⟩ = .done r v ∧
      Saga.Ends (title α name) (s.answer (title α name) rounds)
        (Beat.play root [own.1.guard] (s.course (title α name) rounds) own.2) (.done r v) := by
  intro own
  have going' : own.1.isCancelled own.2 = false :=
    (scope.isCancelled_withTimeout timeout c).trans going
  have foretold := foretold_search s root own.1 (title α name) name timeout rounds rounds
  rw [waitFor_run]
  exact (foretold.spends (w := ⟨own.2, []⟩) rfl).run_done (title α name) going'
    (scope.deadline_withTimeout timeout c)

/-- What a wait ends with, and when: what its first decisive arrival decides, if that comes within
the deadline or without any time going by and no later than the scope is cancelled; with the scope,
if that is cancelled before the deadline; or else at the deadline, or at once if that has passed. -/
inductive Concludes (what : String) (now deadline : Nat) (cancellation : Option Nat)
    (decisive : Option (Nat × Except Fault β)) : Except Fault β → Nat → Prop where
  | decided {r : Except Fault β} {instant : Nat} : decisive = some (instant, r) →
    instant = now ∨ instant ≤ deadline → NotBefore instant cancellation →
    Concludes what now deadline cancellation decisive r instant
  | cancelled {instant : Nat} : cancellation = some instant → instant < deadline →
    (∀ later r, decisive = some (later, r) → instant < later) →
    Concludes what now deadline cancellation decisive (.error (.cancelled what)) instant
  | expired : NotBefore deadline cancellation →
    (∀ later r, decisive = some (later, r) → max now deadline < later) →
    Concludes what now deadline cancellation decisive (.error (.deadlineExceeded what))
      (max now deadline)

omit [Resource α] in
theorem concludes_of_ends {what : String} {g : Guard} {now deadline : Nat}
    {cancellation : Option Nat} {played : Rest} {r : Except Fault β} {v : World (Waiting α β)}
    (timed : g.deadline = some deadline)
    (settled : played.Settles [g] now (fun _ => cancellation)
      ((Beat.length (s.course what rounds)).map (now + ·)))
    (ended : Saga.Ends what (s.answer what rounds) played (.done r v)) :
    Concludes what now deadline cancellation (s.decisive what rounds now) r v.clock.now := by
  have awaited {t : Nat}
      (h : NotBefore (t + 1) ((Beat.length (s.course what rounds)).map (now + ·)))
      (later : Nat) (r : Except Fault β) (arrives : s.decisive what rounds now = some (later, r)) :
      t < later := h later (Sessions.arrives_of_decisive arrives)
  cases ended with
  | through answered same =>
    obtain ⟨wakes, in_time, spared⟩ := settled
    rw [same]
    refine .decided (Sessions.decisive_eq answered wakes) (in_time.imp_right fun h => ?_)
      (spared g List.mem_cons_self)
    exact h g List.mem_cons_self deadline timed
  | cut why same =>
    rw [same]
    cases settled with
    | cancelled _ struck asleep ahead _ _ =>
      exact .cancelled struck (ahead g List.mem_cons_self deadline timed) (awaited asleep)
    | @expired _ f inner _ instant split first due asleep _ _ spared =>
      obtain rfl : f = g :=
        List.mem_singleton.mp (split ▸ List.mem_append_right inner List.mem_cons_self)
      cases timed.symm.trans first
      have spared' := (spared f List.mem_cons_self).mono (due ▸ Nat.le_max_right now deadline)
      rw [due] at asleep ⊢
      exact .expired spared' (awaited asleep)

theorem Concludes.instant_le {what : String} {now deadline instant : Nat}
    {cancellation : Option Nat} {decisive : Option (Nat × Except Fault β)} {r : Except Fault β}
    (h : Concludes what now deadline cancellation decisive r instant) :
    instant ≤ max now deadline := by
  cases h with
  | decided _ in_time _ => omega
  | cancelled _ lt _ => omega
  | expired _ _ => exact Nat.le_refl _

/-- When all the time is taken up, a source that answers more lists and watches makes no
difference. -/
theorem waitFor_stays (rooted : root < c.fresh) (rounds : Nat)
    (enough : NotBefore (max c.now (scope.limit timeout c.now) + 1)
      ((s.time rounds).map (c.now + ·))) :
    ∃ r instant, ∀ more, ∃ v,
      ((source (rounds + more)).waitFor scope name timeout look : Saga (Waiting α β) β).run
        (s.script root) [] ⟨c, []⟩ = .done r v ∧ v.clock.now = instant := by
  cases cancelled : scope.isCancelled c with
  | true =>
    refine ⟨.error (.cancelled (title α name)), c.now, fun more => ?_⟩
    obtain ⟨v, done, now, -⟩ := waitFor_of_cancelled s root timeout name cancelled (rounds + more)
    exact ⟨v, done, now⟩
  | false =>
    -- the rounds last longer than the scope, so they do not all go by
    have cut (d : Clock) : Beat.play root [(scope.withTimeout timeout c).1.guard]
        (Moment.beats (s.schedule rounds ⟨0, 0, true⟩)) (scope.withTimeout timeout c).2 ≠
          .wakes d := by
      intro wakes
      have settled := scope.play_settles timeout c rooted
        (Moment.beats (s.schedule rounds ⟨0, 0, true⟩))
      rw [wakes] at settled
      obtain ⟨elapsed, in_time, -⟩ := settled
      have in_time := in_time.imp_right fun h =>
        h _ List.mem_cons_self _ (scope.deadline_withTimeout timeout c)
      have := enough _ elapsed
      omega
    obtain ⟨r, v, -, ended⟩ := waitFor_ends s root timeout name cancelled rounds
    refine ⟨r, v.clock.now, fun more => ?_⟩
    obtain ⟨r', v', done, ended'⟩ := waitFor_ends s root timeout name cancelled (rounds + more)
    obtain ⟨same, answers⟩ := Sessions.play_course (title α name) cut more
    rw [same] at ended'
    obtain ⟨rfl, now⟩ := ended.unique answers ended'
    exact ⟨v', done, now⟩

/-- A wait is over by its deadline, whatever its source and its predicate answer and however long
that takes, and ends as its first decisive arrival, its deadline and the cancellation of its scope
come about; in a scope that is cancelled already it is not begun. When its time is taken up it does
not matter what else the source would answer, so it is over even if the source would go on for ever,
as long as so many lists and watches in a row always take some time. -/
theorem waitFor_ends_by_deadline (s : Sessions α β) (timeout : Nat) (name : String)
    (scope : Scope) (rooted : root < c.fresh) :
    let what := title α name
    let deadline := scope.limit timeout c.now
    let wait (rounds : Nat) :=
      ((source rounds).waitFor scope name timeout look : Saga (Waiting α β) β).run (s.script root)
        [] ⟨c, []⟩
    (∀ rounds, ∃ r v, wait rounds = .done r v ∧ v.clock.now ≤ max c.now deadline ∧
      if scope.isCancelled c then
        r = .error (.cancelled what) ∧ v.clock.now = c.now ∧ v.marks = []
      else Concludes what c.now deadline (c.cancellationIn root scope.tokens (s.course what rounds))
        (s.decisive what rounds c.now) r v.clock.now) ∧
    (∀ rounds, NotBefore (max c.now deadline + 1) ((s.time rounds).map (c.now + ·)) →
      ∃ r instant, ∀ more, ∃ v, wait (rounds + more) = .done r v ∧ v.clock.now = instant) ∧
    (∀ inRow, s.TakesTime inRow → ∃ r instant, ∀ rounds,
      inRow * (max c.now deadline - c.now + 1) ≤ rounds →
      ∃ v, wait rounds = .done r v ∧ v.clock.now = instant) := by
  intro what deadline wait
  refine ⟨fun rounds => ?concludes, waitFor_stays rooted, fun inRow takes => ?goes_on⟩
  case concludes =>
    cases cancelled : scope.isCancelled c with
    | true =>
      obtain ⟨v, done, now, marks⟩ := waitFor_of_cancelled s root timeout name cancelled rounds
      exact ⟨_, v, done, now ▸ Nat.le_max_left .., by simp [now, marks, what]⟩
    | false =>
      obtain ⟨r, v, done, ended⟩ := waitFor_ends s root timeout name cancelled rounds
      have concludes := concludes_of_ends (scope.deadline_withTimeout timeout c)
        (scope.play_settles timeout c rooted _) ended
      exact ⟨r, v, done, concludes.instant_le, concludes⟩
  case goes_on =>
    have long : NotBefore (max c.now deadline + 1)
        ((s.time (inRow * (max c.now deadline - c.now + 1))).map (c.now + ·)) := by
      intro instant elapsed
      obtain ⟨ms, lasts, rfl⟩ := Option.map_eq_some_iff.mp elapsed
      have := takes.le_time lasts
      omega
    obtain ⟨r, instant, all⟩ := waitFor_stays rooted _ long
    refine ⟨r, instant, fun rounds enough => ?_⟩
    obtain ⟨rest, rfl⟩ := Nat.exists_eq_add_of_le enough
    exact all rest

/-- A list comes empty after a while and a watch brings the claim that is waited for. If it meddles
the watch cancels the root before it opens. -/
def delivery (meddles : Bool) (delay : Nat) : Sessions Claim Unit where
  list _ := ⟨false, false, 1, .ok ⟨[], "1"⟩⟩
  watch _ := ⟨meddles, false, 0, .ok ⟨[⟨delay, .ok (.added ⟨.empty, none, none⟩)⟩], none⟩⟩
  look _ _ := .ok (some ())

theorem takesTime_delivery (meddles : Bool) (delay : Nat) :
    (delivery meddles delay).TakesTime 1 := by
  intro rounds milliseconds lasts longer
  match rounds with
  | 0 =>
    cases lasts
    cases longer
  | 1 => cases meddles <;> cases longer
  | _ + 2 => cases meddles <;> cases lasts

/-- What is waited for comes at the last moment. -/
theorem waitFor_ends_by_deadline_at_last_moment :
    let s := delivery false 9
    let wait (rounds : Nat) := ((source rounds).waitFor .unbounded "data" 10 look :
      Saga (Waiting Claim Unit) Unit).run (s.script 0) [] .initial
    (NotBefore 11 ((s.time 2).map (0 + ·)) ∧
      ∀ more, ∃ v, wait (2 + more) = .done (.ok ()) v ∧ v.clock.now = 10) ∧
    s.TakesTime 1 ∧ ∀ rounds, 11 ≤ rounds →
      ∃ v, wait rounds = .done (.ok ()) v ∧ v.clock.now = 10 := by
  intro s wait
  have rooted : (0 : Token) < (World.initial : World (Waiting Claim Unit)).clock.fresh :=
    Nat.zero_lt_one
  obtain ⟨-, stays, goes_on⟩ := waitFor_ends_by_deadline s 10 "data" .unbounded rooted
  refine ⟨⟨nofun, ?_⟩, takesTime_delivery false 9, ?_⟩
  · obtain ⟨r, instant, all⟩ := stays 2 nofun
    obtain ⟨v, done, rfl⟩ := all 0
    obtain ⟨rfl, rfl⟩ := Step.done.inj (done.symm.trans rfl)
    exact all
  · obtain ⟨r, instant, all⟩ := goes_on 1 (takesTime_delivery false 9)
    obtain ⟨v, done, rfl⟩ := all 11 (by decide)
    obtain ⟨rfl, rfl⟩ := Step.done.inj (done.symm.trans rfl)
    exact all

/-- What comes at the very instant at which the scope is cancelled is still answered, and in a scope
that is cancelled already nothing is awaited, not even a deadline that is over. -/
theorem waitFor_answers_as_cancelled :
    (let s := delivery true 0
    let c := (World.initial : World (Waiting Claim Unit)).clock
    s.TakesTime 1 ∧ Scope.unbounded.limit 10 c.now = 10 ∧
    s.decisive (title Claim "data") 2 c.now = some (1, .ok ()) ∧
    c.cancellationIn 0 Scope.unbounded.tokens (s.course (title Claim "data") 2) = some 1 ∧
    ∃ v, ((source 2).waitFor .unbounded "data" 10 look : Saga (Waiting Claim Unit) Unit).run
      (s.script 0) [] ⟨c, []⟩ = .done (.ok ()) v ∧ v.clock.now = 1) ∧
    (let s := delivery false 0
    let c := Scope.unbounded.cancel (World.initial : World (Waiting Claim Unit)).clock
    s.TakesTime 1 ∧ Scope.unbounded.limit 0 c.now = c.now ∧
    c.cancellationIn 0 Scope.unbounded.tokens (s.course (title Claim "data") 2) = some c.now ∧
    ∃ v, ((source 2).waitFor .unbounded "data" 0 look : Saga (Waiting Claim Unit) Unit).run
      (s.script 0) [] ⟨c, []⟩ = .done (.error (.cancelled (title Claim "data"))) v ∧
      v.clock.now = c.now) :=
  ⟨⟨takesTime_delivery true 0, rfl, rfl, rfl, _, rfl, rfl⟩,
    takesTime_delivery false 0, rfl, rfl, _, rfl, rfl⟩

end Waiting

end Recovery
