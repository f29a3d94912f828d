import Recovery.Proofs.Timed.Pace
import Recovery.Proofs.Watch.Arrival
/-!
# When it reaches a waiter

Between two arrivals time goes by: a list or a watch takes its time to be answered and a watch to
deliver, and a watch that has ended is not opened again before half a second is over. What happens
to a waiter is one schedule of beats and arrivals, and the first decisive arrival has its time in
it.
-/
set_option autoImplicit false

namespace Recovery

variable {α β : Type}

/-- What happens to a waiter. -/
inductive Moment (α : Type) where
  | beat (b : Beat)
  | arrival (a : Arrival α)

namespace Moment

def arrival? : Moment α → Option (Arrival α)
  | .beat _ => none
  | .arrival a => some a

def beat? : Moment α → Option Beat
  | .beat b => some b
  | .arrival _ => none

def arrivals (moments : List (Moment α)) : List (Arrival α) := moments.filterMap arrival?

def beats (moments : List (Moment α)) : List Beat := moments.filterMap beat?

/-- After these beats something arrives, and then comes what is later. -/
def after (bs : List Beat) (a : Arrival α) (later : List (Moment α)) : List (Moment α) :=
  bs.map .beat ++ .arrival a :: later

theorem arrivals_after (bs : List Beat) (a : Arrival α) (later : List (Moment α)) :
    arrivals (after bs a later) = a :: arrivals later := by
  induction bs with
  | nil => rfl
  | cons b bs ih => exact ih

end Moment

/-- What comes out of a watch with the time in between, and what comes next. -/
def Feed.schedule (ends : Option Nat) (next : (relists : Bool) → List (Moment α)) :
    List (Delivery α) → List (Moment α)
  | [] =>
    match ends with
    | none => [.beat .hangs]
    | some delay =>
      Moment.after [.rests delay] .ended (.beat (.rests Source.reopenDelay) :: next false)
  | ⟨delay, .error fault⟩ :: _ =>
    Moment.after [.rests delay] (.broken fault) (.beat (.rests Source.reopenDelay) :: next false)
  | ⟨delay, .ok (.error status)⟩ :: _ =>
    Moment.after [.rests delay] (.event (.error status)) (next true)
  | ⟨delay, .ok event⟩ :: rest =>
    Moment.after [.rests delay] (.event event) (schedule ends next rest)

theorem Feed.arrivals_schedule (ends : Option Nat) (next : Bool → List (Moment α))
    (deliveries : List (Delivery α)) :
    Moment.arrivals (Feed.schedule ends next deliveries) =
      Feed.arrivals ends (fun relists => Moment.arrivals (next relists)) deliveries := by
  induction deliveries with
  | nil => cases ends <;> rfl
  | cons delivery rest ih =>
    obtain ⟨delay, event⟩ := delivery
    match event with
    | .error fault => rfl
    | .ok (.error status) => rfl
    | .ok (.added object) => exact congrArg (Arrival.event (.added object) :: ·) ih
    | .ok (.modified object) => exact congrArg (Arrival.event (.modified object) :: ·) ih
    | .ok (.deleted object) => exact congrArg (Arrival.event (.deleted object) :: ·) ih
    | .ok (.bookmark version) => exact congrArg (Arrival.event (.bookmark version) :: ·) ih

/-- How many lists and watches a waiter has asked for, and whether it asks for a list next. -/
structure Standing where
  lists : Nat
  watches : Nat
  relists : Bool

namespace Sessions

variable (s : Sessions α β)

/-- One list or watch and what comes out of it, and then what comes next. -/
def round (here : Standing) (next : Standing → List (Moment α)) : List (Moment α) :=
  if here.relists then
    match (s.list here.lists).ending with
    | none => Moment.after (s.list here.lists).beats (.silence .list) []
    | some answer =>
      Moment.after (s.list here.lists).beats (.listed (answer.map Listed.items))
        (next ⟨here.lists + 1, here.watches, false⟩)
  else
    match (s.watch here.watches).ending with
    | none => Moment.after (s.watch here.watches).beats (.silence .watch) []
    | some (.error fault) =>
      Moment.after (s.watch here.watches).beats (.opened (.error fault))
        (next ⟨here.lists, here.watches + 1, fault.isGone⟩)
    | some (.ok feed) =>
      Moment.after (s.watch here.watches).beats (.opened (.ok ()))
        (Feed.schedule feed.ends (fun relists => next ⟨here.lists, here.watches + 1, relists⟩)
          feed.deliveries)

/-- All that may happen to a waiter in so many rounds. -/
def schedule : (rounds : Nat) → Standing → List (Moment α)
  | 0, _ => []
  | rounds + 1, here => s.round here (schedule rounds)

/-- How time goes by up to the first decisive arrival, for ever if there is none. -/
def beats (what : String) (before : List α) : List (Moment α) → List Beat
  | [] => [.hangs]
  | .beat b :: later => b :: beats what before later
  | .arrival a :: later =>
    if (s.decision what before a).isSome then []
    else beats what (before ++ a.object?.toList) later

theorem arrivals_schedule (rounds lists watches : Nat) (relists : Bool) :
    Moment.arrivals (s.schedule rounds ⟨lists, watches, relists⟩) =
      s.arrivals rounds lists watches relists := by
  induction rounds generalizing lists watches relists with
  | zero => rfl
  | succ rounds ih =>
    cases relists with
    | true =>
      rw [schedule, round, if_pos rfl, arrivals]
      cases (s.list lists).ending with
      | none => exact Moment.arrivals_after ..
      | some answer =>
        exact (Moment.arrivals_after ..).trans
          (congrArg (Arrival.listed _ :: ·) (ih (lists + 1) watches false))
    | false =>
      rw [schedule, round, if_neg Bool.false_ne_true, arrivals]
      rcases (s.watch watches).ending with _ | fault | feed
      · exact Moment.arrivals_after ..
      · exact (Moment.arrivals_after ..).trans
          (congrArg (Arrival.opened _ :: ·) (ih lists (watches + 1) fault.isGone))
      · refine (Moment.arrivals_after ..).trans
          (congrArg (Arrival.opened _ :: ·) ((Feed.arrivals_schedule ..).trans ?_))
        congr
        funext relists
        exact ih lists (watches + 1) relists

variable {s} {what : String} {before : List α} {a : Arrival α} {later : List (Moment α)}
  {r : Except Fault β}

/-- The beats before an arrival are followed by what comes after it, if that is not decisive. -/
theorem beats_after (bs : List Beat) :
    s.beats what before (Moment.after bs a later) =
      bs ++ s.beats what before (.arrival a :: later) := by
  induction bs with
  | nil => rfl
  | cons b bs ih => exact congrArg (b :: ·) ih

theorem beats_of_decision (h : s.decision what before a = some r) (bs : List Beat) :
    s.beats what before (Moment.after bs a later) = bs := by
  rw [beats_after, beats, h]
  exact List.append_nil bs

theorem beats_of_undecided (h : s.decision what before a = none) (bs : List Beat) :
    s.beats what before (Moment.after bs a later) =
      bs ++ s.beats what (before ++ a.object?.toList) later := by
  rw [beats_after, beats, h]
  rfl

end Sessions

/-! ## More rounds -/

namespace Moment

theorem beats_append (moments later : List (Moment α)) :
    beats (moments ++ later) = beats moments ++ beats later := List.filterMap_append

theorem after_append (bs : List Beat) (a : Arrival α) (moments later : List (Moment α)) :
    after bs a moments ++ later = after bs a (moments ++ later) := by
  simp [after]

/-- What happens goes over into one of the things that may come next, or nothing comes next. -/
inductive Continues {ι : Type} (whole : (ι → List (Moment α)) → List (Moment α)) : Prop where
  | on (i : ι) : (∀ next, whole next = whole (fun _ => []) ++ next i) → Continues whole
  | never : (∀ next, whole next = whole fun _ => []) → Continues whole

namespace Continues

variable {ι κ : Type} {whole : (ι → List (Moment α)) → List (Moment α)}

theorem next (i : ι) : Continues fun next : ι → List (Moment α) => next i :=
  .on i fun _ => rfl

theorem beat (b : Beat) (h : Continues whole) : Continues fun next => .beat b :: whole next := by
  cases h with
  | on i goes_on => exact .on i fun next => congrArg (Moment.beat b :: ·) (goes_on next)
  | never same => exact .never fun next => congrArg (Moment.beat b :: ·) (same next)

theorem after (h : Continues whole) (bs : List Beat) (a : Arrival α) :
    Continues fun next => Moment.after bs a (whole next) := by
  cases h with
  | on i goes_on =>
    refine .on i fun next => ?_
    rw [goes_on, after_append]
  | never same => exact .never fun next => congrArg (Moment.after bs a) (same next)

theorem reindex (h : Continues whole) (f : ι → κ) :
    Continues fun next : κ → List (Moment α) => whole fun i => next (f i) := by
  cases h with
  | on i goes_on => exact .on (f i) fun next => goes_on fun i => next (f i)
  | never same => exact .never fun next => same fun i => next (f i)

end Continues

end Moment

theorem Feed.continues (ends : Option Nat) (deliveries : List (Delivery α)) :
    Moment.Continues fun next => Feed.schedule ends next deliveries := by
  induction deliveries with
  | nil =>
    cases ends with
    | none => exact .never fun _ => rfl
    | some delay => exact ((Moment.Continues.next false).beat _).after _ _
  | cons delivery rest ih =>
    obtain ⟨delay, event⟩ := delivery
    match event with
    | .error fault => exact ((Moment.Continues.next false).beat _).after _ _
    | .ok (.error status) => exact (Moment.Continues.next true).after _ _
    | .ok (.added object) | .ok (.modified object) | .ok (.deleted object)
    | .ok (.bookmark version) => exact ih.after _ _

namespace Sessions

variable (s : Sessions α β)

theorem continues_round (here : Standing) : Moment.Continues (s.round here) := by
  unfold round
  split
  · split
    · exact .never fun _ => rfl
    · exact (Moment.Continues.next _).after _ _
  · split
    · exact .never fun _ => rfl
    · exact (Moment.Continues.next _).after _ _
    · exact ((Feed.continues _ _).reindex _).after _ _

/-- Whatever happens in more rounds happens after all that happens in fewer. -/
theorem schedule_add (rounds more : Nat) (here : Standing) :
    ∃ later, s.schedule (rounds + more) here = s.schedule rounds here ++ later := by
  induction rounds generalizing here with
  | zero => exact ⟨_, rfl⟩
  | succ rounds ih =>
    rw [Nat.succ_add]
    show ∃ later, s.round here _ = s.round here _ ++ later
    cases s.continues_round here with
    | on next goes_on =>
      obtain ⟨later, same⟩ := ih next
      refine ⟨later, ?_⟩
      rw [goes_on (s.schedule (rounds + more)), goes_on (s.schedule rounds), same,
        List.append_assoc]
    | never same =>
      refine ⟨[], ?_⟩
      rw [same (s.schedule (rounds + more)), same (s.schedule rounds), List.append_nil]

/-- How long it takes to answer so many lists and watches, one after another, and for the watches to
end, none if for ever. -/
def time (rounds : Nat) : Option Nat := Beat.length (Moment.beats (s.schedule rounds ⟨0, 0, true⟩))

/-- So many lists and watches in a row take some time. In three there are a list and the watch after
it, or a watch that ends and is opened again after a pause. -/
def TakesTime (inRow : Nat) : Prop :=
  ∀ rounds milliseconds, s.time rounds = some milliseconds →
    s.time (rounds + inRow) ≠ some milliseconds

variable {s}

theorem TakesTime.le_time {inRow : Nat} (h : s.TakesTime inRow) {times milliseconds : Nat}
    (lasts : s.time (inRow * times) = some milliseconds) : times ≤ milliseconds := by
  induction times generalizing milliseconds with
  | zero => exact Nat.zero_le milliseconds
  | succ times ih =>
    rw [Nat.mul_succ] at lasts
    have longer := lasts
    obtain ⟨later, added⟩ := s.schedule_add (inRow * times) inRow ⟨0, 0, true⟩
    rw [time, added, Moment.beats_append, Beat.length_append, Option.bind_eq_some_iff] at longer
    obtain ⟨first, before, longer⟩ := longer
    obtain ⟨rest, -, rfl⟩ := Option.map_eq_some_iff.mp longer
    -- the last of these rows takes at least one millisecond more
    have le := ih before
    have ne : rest ≠ 0 := by
      rintro rfl
      exact h _ first before lasts
    omega

variable {what : String} {before : List α} {moments : List (Moment α)} {r : Except Fault β}

/-- As long as nothing is decided, all the time goes by. -/
theorem beats_append_of_undecided
    (h : s.verdict what before (Moment.arrivals moments) = none) :
    ∃ seen, ∀ later, s.beats what before (moments ++ later) =
      Moment.beats moments ++ s.beats what seen later := by
  induction moments generalizing before with
  | nil => exact ⟨before, fun _ => rfl⟩
  | cons m moments ih =>
    cases m with
    | beat b =>
      obtain ⟨seen, same⟩ := ih h
      exact ⟨seen, fun later => congrArg (b :: ·) (same later)⟩
    | arrival a =>
      obtain ⟨undecided, rest⟩ := Option.or_eq_none_iff.mp h
      obtain ⟨seen, same⟩ := ih rest
      refine ⟨seen, fun later => (beats_of_undecided undecided []).trans ?_⟩
      exact same later

/-- What comes after the verdict makes no difference. -/
theorem beats_append_of_decided
    (h : s.verdict what before (Moment.arrivals moments) = some r) (later : List (Moment α)) :
    s.beats what before (moments ++ later) = s.beats what before moments ∧
      s.verdict what before (Moment.arrivals (moments ++ later)) = some r := by
  induction moments generalizing before with
  | nil => cases h
  | cons m moments ih =>
    cases m with
    | beat b =>
      obtain ⟨same, verdict⟩ := ih h
      exact ⟨congrArg (b :: ·) same, verdict⟩
    | arrival a =>
      cases decided : s.decision what before a with
      | some r' =>
        have first : s.verdict what before (a :: Moment.arrivals moments) = some r := h
        rw [verdict_of_decision decided] at first
        cases first
        exact ⟨(beats_of_decision decided []).trans (beats_of_decision decided []).symm,
          verdict_of_decision decided⟩
      | none =>
        have rest : s.verdict what before (a :: Moment.arrivals moments) = some r := h
        rw [verdict_of_undecided decided] at rest
        obtain ⟨same, verdict⟩ := ih rest
        refine ⟨(beats_of_undecided decided []).trans (same.trans ?_), ?_⟩
        · exact (beats_of_undecided decided []).symm
        · exact (verdict_of_undecided decided).trans verdict

end Sessions

end Recovery
