import Recovery.Proofs.Watch.Schedule
import Recovery.Proofs.Watch.Wait
/-!
# The waiter's answer is the first decisive one

Whatever reaches a waiter before it, in however many lists and watches, the first decisive arrival
is what the wait ends with, unless its scope ends first. Nothing is asked beyond that arrival.
-/
set_option autoImplicit false

namespace Recovery

variable {α β : Type}

namespace Waiting

variable {s : Sessions α β} {root : Token} {what name : String} {past : List (Ask α)}

/-! ## Questions -/

theorem foretold_list (n : Nat) (name : String) :
    ((source n).list name : Saga (Waiting α β) _).Foretold ask (s.script root) past
      (s.list (Ask.lists past)).beats [.list] (s.list (Ask.lists past)).ending := by
  refine Task.foretold_call (I := Waiting α β) (c := WaitCall.list name) fun history same => ?_
  rw [← same]
  rfl

theorem foretold_watch (n : Nat) (name version : String) (timeout : Nat) :
    ((source n).watch name version timeout : Saga (Waiting α β) _).Foretold ask
      (s.script root) past (s.watch (Ask.watches past)).beats [.watch]
      (s.watch (Ask.watches past)).ending := by
  refine Task.foretold_call (I := Waiting α β) (c := WaitCall.watch name version timeout)
    fun history same => ?_
  rw [← same]
  rfl

theorem foretold_look (object : α) :
    (look object : Saga (Waiting α β) _).Foretold ask (s.script root) past [] [.look object]
      (some (s.look (Ask.looked past) object)) := by
  refine Task.foretold_immediate (I := Waiting α β) (c := WaitCall.look object)
    fun history same => ?_
  rw [← same]
  rfl

/-! ## Hearing -/

/-- With this past, the saga lets the time go by and takes in the arrivals up to the first decisive
one and ends with the verdict. -/
def Hears (s : Sessions α β) (root : Token) (what : String) (past : List (Ask α))
    (moments : List (Moment α)) (saga : Saga (Waiting α β) β) : Prop :=
  saga.Foretold ask (s.script root) past (s.beats what (Ask.looked past) moments)
    ((s.heard what (Ask.looked past) (Moment.arrivals moments)).flatMap Arrival.asks)
    (s.verdict what (Ask.looked past) (Moment.arrivals moments))

theorem hears_nothing : Hears s root what past [] (Saga.ofTask Task.hang) := Saga.foretold_hang

variable {a : Arrival α} {moments : List (Moment α)} {bs : List Beat} {r : Except Fault β}
  {γ : Type} {x : γ} {saga : Saga (Waiting α β) β} {first : Saga (Waiting α β) γ}
  {next : γ → Saga (Waiting α β) β}

/-- Time may go by. -/
theorem Hears.rest {task : Task (Waiting α β) Unit} {b : Beat}
    (h : Hears s root what past moments saga)
    (rests : task.Foretold ask (s.script root) past [b] [] (some ())) :
    Hears s root what past (.beat b :: moments) (Saga.ofTask task >>= fun _ => saga) := by
  have same : past ++ [] = past := List.append_nil past
  exact Saga.Foretold.bind (Saga.foretold_ofTask rests) (same.symm ▸ h)

theorem hears_decided (decided : s.decision what (Ask.looked past) a = some r)
    (h : saga.Foretold ask (s.script root) past bs a.asks (some r)) :
    Hears s root what past (Moment.after bs a moments) saga := by
  rw [Hears, Sessions.beats_of_decision decided, Moment.arrivals_after,
    Sessions.heard_of_decision decided, Sessions.verdict_of_decision decided,
    List.flatMap_singleton]
  exact h

theorem hears_failure {fault : Fault} (failed : a.failure? what = some fault)
    (unseen : a.object? = none)
    (h : saga.Foretold ask (s.script root) past bs a.answers.toList (some (.error fault))) :
    Hears s root what past (Moment.after bs a moments) saga := by
  refine hears_decided ?_ (Arrival.asks_of_unseen unseen ▸ h)
  rw [Sessions.decision, failed]
  rfl

/-- What decides nothing is heard with what comes after it. -/
theorem hears_undecided (undecided : s.decision what (Ask.looked past) a = none)
    (unlooked : Ask.looked a.answers.toList = [])
    (h : saga.Foretold ask (s.script root) past
      (bs ++ s.beats what (Ask.looked (past ++ a.asks)) moments)
      (a.asks ++ (s.heard what (Ask.looked (past ++ a.asks)) (Moment.arrivals moments)).flatMap
        Arrival.asks)
      (s.verdict what (Ask.looked (past ++ a.asks)) (Moment.arrivals moments))) :
    Hears s root what past (Moment.after bs a moments) saga := by
  rw [Ask.looked_append, Arrival.looked_asks unlooked] at h
  rw [Hears, Sessions.beats_of_undecided undecided, Moment.arrivals_after,
    Sessions.heard_of_undecided undecided, Sessions.verdict_of_undecided undecided,
    List.flatMap_cons]
  exact h

/-- What is neither a failure nor to be looked at is passed over. -/
theorem Hears.pass (h : Hears s root what (past ++ a.answers.toList) moments (next x))
    (harmless : a.failure? what = none) (unseen : a.object? = none)
    (unlooked : Ask.looked a.answers.toList = [])
    (asked : first.Foretold ask (s.script root) past bs a.answers.toList (some (.ok x))) :
    Hears s root what past (Moment.after bs a moments) (first >>= next) := by
  have undecided : s.decision what (Ask.looked past) a = none := by
    rw [Sessions.decision, harmless, unseen]
    rfl
  rw [← Arrival.asks_of_unseen unseen] at h asked
  exact hears_undecided undecided unlooked (Saga.Foretold.bind asked h)

/-- An object is looked at, and what comes after it is heard only if the look decides nothing. -/
theorem Hears.look {object : α} {found : Option β → Saga (Waiting α β) β}
    (missed : Hears s root what (past ++ a.answers.toList ++ [.look object]) moments (found none))
    (matched : ∀ value, found (some value) = pure value)
    (looks : next x = Waiting.look object >>= found)
    (harmless : a.failure? what = none) (seen : a.object? = some object)
    (unlooked : Ask.looked a.answers.toList = [])
    (asked : first.Foretold ask (s.script root) past bs a.answers.toList (some (.ok x))) :
    Hears s root what past (Moment.after bs a moments) (first >>= next) := by
  have decision : s.decision what (Ask.looked past) a = s.judgement (Ask.looked past) object := by
    rw [Sessions.decision, harmless, seen]
    rfl
  have before : Ask.looked (past ++ a.answers.toList) = Ask.looked past := by
    rw [Ask.looked_append, unlooked, List.append_nil]
  have looked : (Waiting.look object : Saga (Waiting α β) _).Foretold ask (s.script root)
      (past ++ a.answers.toList) [] [.look object] (some (s.look (Ask.looked past) object)) :=
    before ▸ foretold_look object
  have asks := Arrival.asks_of_seen seen
  rw [Sessions.judgement] at decision
  -- with a value or a fault the saga ends here, otherwise with what comes after the look
  split at decision
  · rename_i value answer
    rw [answer] at looked
    cases value with
    | some value =>
      refine hears_decided decision ?_
      rw [asks, ← List.append_nil bs]
      refine Saga.Foretold.bind asked ?_
      rw [looks, ← List.append_nil [Ask.look object]]
      refine Saga.Foretold.bind looked ?_
      rw [matched value]
      exact Saga.foretold_pure value
    | none =>
      refine hears_undecided decision unlooked ?_
      rw [asks, List.append_assoc, ← List.append_assoc past]
      refine Saga.Foretold.bind asked ?_
      rw [looks]
      exact Saga.Foretold.bind looked missed
  · rename_i fault answer
    rw [answer] at looked
    refine hears_decided decision ?_
    rw [asks, ← List.append_nil bs]
    refine Saga.Foretold.bind asked ?_
    rw [looks]
    exact Saga.Foretold.bind_error looked

/-! ## A watch -/

section Follow

variable [Resource α] {after : Source.Left β → Saga (Waiting α β) β}
  {later : (relists : Bool) → List (Moment α)} {lists watches : Nat}

/-- What comes out of a watch is heard in turn, and then what comes later. -/
theorem hears_follow (matched : ∀ value, after (.matched value) = pure value)
    (ended : ∀ version past, Ask.lists past = lists → Ask.watches past = watches →
      Hears s root what past (.beat (.rests Source.reopenDelay) :: later false)
        (after (.ended version)))
    (gone : ∀ past, Ask.lists past = lists → Ask.watches past = watches →
      Hears s root what past (later true) (after .gone))
    (ends : Option Nat) (version : String) (deliveries : List (Delivery α))
    (listed : Ask.lists past = lists) (watched : Ask.watches past = watches) :
    Hears s root what past (Feed.schedule ends later deliveries)
      (Source.follow what look ends version deliveries >>= after) := by
  have sleeps (delay : Nat) (past : List (Ask α)) :
      (Saga.ofTask (Task.sleep delay) : Saga (Waiting α β) Unit).Foretold ask
        (s.script root) past [.rests delay] [] (some (.ok ())) :=
    Saga.foretold_ofTask (Task.foretold_sleep delay)
  -- looks add to the past, but not to the lists and the watches in it
  induction deliveries generalizing version past with
  | nil =>
    cases ends with
    | none => exact Saga.Foretold.bind_endless Saga.foretold_hang [.hangs]
    | some delay =>
      rw [Source.follow, bind_assoc]
      exact (ended version (past ++ []) ((Ask.lists_append past []).trans listed)
        ((Ask.watches_append past []).trans watched)).pass rfl rfl rfl (sleeps delay past)
  | cons delivery rest ih =>
    obtain ⟨delay, event⟩ := delivery
    have slept : Ask.lists (past ++ []) = lists ∧ Ask.watches (past ++ []) = watches :=
      ⟨(Ask.lists_append past []).trans listed, (Ask.watches_append past []).trans watched⟩
    rw [Source.follow, bind_assoc]
    match event with
    | .error fault =>
      cases broken : fault.isInterrupted with
      | true =>
        simp only [broken, if_true, pure_bind]
        exact (ended version _ slept.1 slept.2).pass (if_pos broken) rfl rfl (sleeps delay past)
      | false =>
        have lasting : Arrival.failure? what (.broken fault : Arrival α) = some fault :=
          if_neg (Bool.not_eq_true _ ▸ broken)
        simp only [broken, Bool.false_eq_true, if_false]
        exact hears_failure lasting rfl
          (Saga.Foretold.bind (sleeps delay past) (Saga.foretold_fail _))
    | .ok (.added object) | .ok (.modified object) =>
      simp only [bind_assoc]
      refine Hears.look ?_ matched rfl rfl rfl rfl (sleeps delay past)
      exact ih _ ((Ask.lists_append _ [.look object]).trans slept.1)
        ((Ask.watches_append _ [.look object]).trans slept.2)
    | .ok (.deleted object) =>
      exact (ih version slept.1 slept.2).pass rfl rfl rfl (sleeps delay past)
    | .ok (.bookmark seen) =>
      exact (ih seen slept.1 slept.2).pass rfl rfl rfl (sleeps delay past)
    | .ok (.error status) =>
      by_cases old : status.code = goneCode
      · simp only [old, if_true, pure_bind]
        exact (gone _ slept.1 slept.2).pass (if_pos old) rfl rfl (sleeps delay past)
      · have lasting : Arrival.failure? what (.event (.error status) : Arrival α) =
            some (Source.watchFailed what status) := if_neg old
        simp only [old, if_false]
        exact hears_failure lasting rfl
          (Saga.Foretold.bind (sleeps delay past) (Saga.foretold_fail _))

end Follow

/-! ## Lists and watches in turn -/

section Search

variable [Resource α] {scope : Scope} {timeout n rounds : Nat}
  (later : ∀ version past, Hears s root what past
    (s.schedule rounds ⟨Ask.lists past, Ask.watches past, Option.isNone version⟩)
    ((source n).search scope what name timeout look rounds version : Saga (Waiting α β) β))
include later

/-- What comes after a list, whether something was looked at or not. -/
theorem hears_after_list (version : String) {asked : List (Ask α)}
    (one : Ask.lists asked = 1) (none : Ask.watches asked = 0) :
    Hears s root what (past ++ asked)
      (s.schedule rounds ⟨Ask.lists past + 1, Ask.watches past, false⟩)
      ((source n).search scope what name timeout look rounds (some version)) := by
  have h := later (some version) (past ++ asked)
  rwa [Ask.lists_append, Ask.watches_append, one, none, Nat.add_zero] at h

theorem hears_list_round :
    Hears s root what past (s.schedule (rounds + 1) ⟨Ask.lists past, Ask.watches past, true⟩)
      ((source n).search scope what name timeout look (rounds + 1) none) := by
  have asked : ((source n).list name : Saga (Waiting α β) _).Foretold ask (s.script root)
      past (s.list (Ask.lists past)).beats [.list] (s.list (Ask.lists past)).ending :=
    foretold_list n name
  rw [Sessions.schedule, Sessions.round, if_pos rfl, Source.search]
  split
  · rename_i never
    rw [never] at asked
    exact hears_undecided rfl rfl (Saga.Foretold.bind_endless asked [.hangs])
  · rename_i answer answered
    rw [answered] at asked
    rcases answer with fault | ⟨_ | ⟨item, _ | ⟨other, more⟩⟩, version⟩
    · exact hears_failure rfl rfl (Saga.Foretold.bind_error asked)
    · refine Hears.pass ?_ rfl rfl rfl asked
      exact hears_after_list later version rfl rfl
    · refine Hears.look ?_ (fun _ => rfl) rfl rfl rfl rfl asked
      have h : Hears s root what (past ++ [.list, .look item]) _ _ :=
        hears_after_list later version rfl rfl
      rwa [List.append_cons] at h
    · refine hears_failure rfl rfl ?_
      rw [← List.append_nil (Outcome.beats _)]
      exact Saga.Foretold.bind asked (Saga.foretold_fail _)

theorem hears_watch_round (version : String) :
    Hears s root what past (s.schedule (rounds + 1) ⟨Ask.lists past, Ask.watches past, false⟩)
      ((source n).search scope what name timeout look (rounds + 1) (some version)) := by
  have again (version : Option String) {past' : List (Ask α)}
      (same : Ask.lists past' = Ask.lists past) (one : Ask.watches past' = Ask.watches past + 1) :
      Hears s root what past'
        (s.schedule rounds ⟨Ask.lists past, Ask.watches past + 1, version.isNone⟩)
        ((source n).search scope what name timeout look rounds version) := by
    rw [← same, ← one]
    exact later version past'
  rw [Sessions.schedule, Sessions.round, if_neg Bool.false_ne_true, Source.search]
  refine Saga.foretold_clock_bind fun clock => ?_
  have asked : ((source n).watch name version ((scope.remaining clock).getD timeout) :
      Saga (Waiting α β) _).Foretold ask (s.script root) past
        (s.watch (Ask.watches past)).beats [.watch] (s.watch (Ask.watches past)).ending :=
    foretold_watch n name version _
  have answered {answer : Except Fault (Feed α)}
      (h : (s.watch (Ask.watches past)).ending = some answer) :
      (Saga.ofTask ((source n).watch name version ((scope.remaining clock).getD timeout)).run :
        Saga (Waiting α β) _).Foretold ask (s.script root) past
          (s.watch (Ask.watches past)).beats [.watch] (some (.ok answer)) :=
    Saga.foretold_ofTask (h ▸ asked)
  split
  · rename_i never
    rw [never] at asked
    exact hears_undecided rfl rfl
      (Saga.Foretold.bind_endless (Saga.foretold_ofTask_endless asked) [.hangs])
  · rename_i fault failed
    cases old : fault.isGone with
    | true =>
      refine Hears.pass ?_ (if_pos old) rfl rfl (answered failed)
      simp only [old, if_true]
      exact again none (Ask.lists_append past [.watch]) (Ask.watches_append past [.watch])
    | false =>
      have lasting : Arrival.failure? what (.opened (.error fault) : Arrival α) = some fault :=
        if_neg (Bool.not_eq_true _ ▸ old)
      refine hears_failure lasting rfl ?_
      rw [← List.append_nil (Outcome.beats _)]
      refine Saga.Foretold.bind (answered failed) ?_
      simp only [old, Bool.false_eq_true, if_false]
      exact Saga.foretold_fail _
  · rename_i feed opened
    refine Hears.pass ?_ rfl rfl rfl (answered opened)
    refine hears_follow (fun _ => rfl) (fun version past' same one => ?_)
      (fun past' same one => again none same one) feed.ends version feed.deliveries
      (Ask.lists_append past [.watch]) (Ask.watches_append past [.watch])
    exact Hears.rest (again (some version) same one) (Task.foretold_pause (by decide))

end Search

theorem hears_search [Resource α] (name : String) (scope : Scope) (timeout n rounds : Nat)
    (version : Option String) (past : List (Ask α)) :
    Hears s root what past
      (s.schedule rounds ⟨Ask.lists past, Ask.watches past, version.isNone⟩)
      ((source n).search scope what name timeout look rounds version) := by
  induction rounds generalizing version past with
  | zero => exact hears_nothing
  | succ rounds ih =>
    cases version with
    | none => exact hears_list_round ih
    | some version => exact hears_watch_round ih version

/-- What a wait asks, how its time goes by and what it ends with, unless its scope ends before. -/
theorem foretold_search [Resource α] (s : Sessions α β) (root : Token) (scope : Scope)
    (what name : String) (timeout n rounds : Nat) :
    ((source n).search scope what name timeout look rounds none : Saga (Waiting α β) β).Foretold
      ask (s.script root) [] (s.beats what [] (s.schedule rounds ⟨0, 0, true⟩)) (s.asks what rounds)
      (s.answer what rounds) := by
  have hears : Hears s root what [] _ _ := hears_search name scope timeout n rounds none []
  rw [Hears, Sessions.arrivals_schedule] at hears
  exact hears

theorem waitFor_meets [Resource α] (s : Sessions α β) (root : Token) (rounds timeout : Nat)
    (name : String) (scope : Scope) (guards : List Guard) (c : Clock)
    {step : Step (Waiting α β) (Except Fault β)}
    (left : ((source rounds).waitFor scope name timeout look : Saga (Waiting α β) β).run
      (s.script root) guards ⟨c, []⟩ = step) :
    step.Meets ask guards (s.asks (title α name) rounds) (s.answer (title α name) rounds) ∨
    ∃ why v, step = .done (.error (Interrupt.fault (title α name) why)) v ∧
      (scope.withTimeout timeout c).1.guard.Trips v.clock why ∧
      v.asked ask <+: s.asks (title α name) rounds := by
  rw [← left, waitFor_run]
  exact (foretold_search s root _ (title α name) name timeout rounds rounds).run
    (scope.withTimeout timeout c).1 (title α name) guards rfl

/-- Whatever the server and the predicate answer, however long that takes, a wait ends with what
the first decisive arrival decides and has asked for no more than that, unless its scope or a guard
around it ends it before. -/
theorem waitFor_answers_first_decision [Resource α] (s : Sessions α β) (root : Token)
    (rounds timeout : Nat) (name : String) (scope : Scope) (guards : List Guard) (c : Clock) :
    let step := ((source rounds).waitFor scope name timeout look : Saga (Waiting α β) β).run
      (s.script root) guards ⟨c, []⟩
    step.world.asked ask <+: s.asks (title α name) rounds ∧
    (∀ answer r, (s.list 0).ending = some answer →
      s.decision (title α name) [] (.listed (answer.map Listed.items)) = some r →
      .watch ∉ step.world.asked ask) ∧
    match step with
    | .done r v =>
      (s.answer (title α name) rounds = some r ∧ v.asked ask = s.asks (title α name) rounds) ∨
      ∃ why, r = .error (Interrupt.fault (title α name) why) ∧
        (scope.withTimeout timeout c).1.guard.Trips v.clock why
    | .interrupted outside why v => Guard.Interrupts v.clock why guards outside
    | .endless v =>
      s.answer (title α name) rounds = none ∧ v.asked ask = s.asks (title α name) rounds := by
  intro step
  have ends := waitFor_meets s root rounds timeout name scope guards c (rfl : _ = step)
  clear_value step
  have asked : step.world.asked ask <+: s.asks (title α name) rounds := by
    rcases ends with meets | ⟨why, v, stopped, -, before⟩
    · exact meets.asked
    · rwa [stopped]
  refine ⟨asked, fun answer r listed decisive watched => ?_, ?_⟩
  · exact Sessions.watch_not_mem_asks listed decisive rounds (asked.subset watched)
  · rcases ends with meets | ⟨why, v, stopped, trips, -⟩
    · cases meets with
      | done comes all => exact .inl ⟨comes, all⟩
      | interrupted guarded _ => exact guarded
      | endless never all => exact ⟨never, all⟩
    · rw [stopped]
      exact .inr ⟨why, rfl, trips⟩

/-- Every watch delivers a deletion and a new object and ends; the third object satisfies. -/
example :
    let s : Sessions Nat Nat := {
      list := fun _ => .immediate (.ok ⟨[], "1"⟩)
      watch := fun n =>
        .immediate (.ok ⟨[⟨0, .ok (.deleted n)⟩, ⟨0, .ok (.added n)⟩, ⟨0, .ok (.added 9)⟩], some 0⟩)
      look := fun before object => .ok (if before.length = 2 then some object else none) }
    s.answer "data" 9 = some (.ok 1) ∧
      s.asks "data" 9 = [.list, .watch, .look 0, .look 9, .watch, .look 1] :=
  ⟨rfl, rfl⟩

end Waiting

end Recovery
