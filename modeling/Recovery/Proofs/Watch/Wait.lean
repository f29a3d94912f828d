import Recovery.Proofs.Watch.Sight
/-!
# What a waiter does

Whatever the server does, a waiter lists at the start and after the loss of its version only, opens
each watch at the version seen last, and looks at what it was given in order, leaving out nothing
before it goes on. It goes on without delay until the wait is decided or its scope has ended.
-/
set_option autoImplicit false

namespace Recovery

variable {α β : Type}

namespace Waiting

variable [Resource α] {rounds left : Nat} {name what : String}

/-! ## Calls -/

/-- The calls are lawful and, as long as the source is not silent, prompt. -/
def law (rounds : Nat) (name : String) : Law (Waiting α β) := fun past rested =>
  Lawful name past ∧ (asked past < rounds → Prompt past rested)

def failing (what : String) (fault : Fault) : Law (Waiting α β) := fun past _ =>
  Decides what past (.error fault)

/-- What holds after a look, given what is to hold if nothing was found. -/
def Found (what : String) (next : Law (Waiting α β)) : Option β → Law (Waiting α β)
  | some value => fun past _ => Decides what past (.ok value)
  | none => next

theorem upholds_call {before : Law (Waiting α β)} {c : WaitCall α}
    {after : Except Fault (WaitCall.Reply β c) → Law (Waiting α β)}
    (permitted : ∀ past rested, before past rested → Permits name past c)
    (h : ∀ past rested r, before past rested → after r (past ++ [⟨c, some r⟩]) 0) :
    (@Task.call (Waiting α β) c).Upholds (law rounds name) before after := by
  refine Task.upholds_call ?_ ?_ h
  · intro past rested waited obeys ready
    refine ⟨.snoc _ obeys.1 (permitted past rested ready), fun _ q same => ?_⟩
    rw [Sight.of_append, Sight.patience_cut] at same
    cases same
  · intro past rested r obeys ready
    exact ⟨.snoc _ obeys.1 (permitted past rested ready), fun _ q _ => Nat.zero_le q⟩

theorem upholds_look {before next : Law (Waiting α β)} {object : α}
    (permitted : ∀ past rested, before past rested →
      (Sight.of past).looked ++ [object] <+: (Sight.of past).delivered)
    (h : ∀ past rested r, before past rested →
      next (past ++ [⟨WaitCall.look object, some r⟩]) 0) :
    (look object : Saga (Waiting α β) _).Upholds (law rounds name) before (Found what next)
      (failing what) := by
  refine upholds_call permitted fun past rested r ready => ?_
  match r with
  | .error fault => exact .last rfl rfl
  | .ok (some value) => exact .last rfl rfl
  | .ok none => exact h past rested _ ready

/-- A watch or a list may come next, the watch from this version. -/
structure Ready (rounds left : Nat) (version : String) (past : List (Attempt (Waiting α β))) :
    Prop where
  version : (Sight.of past).version = some version
  kept : (Sight.of past).expired = false
  looked : (Sight.of past).looked = (Sight.of past).delivered
  asked : asked past + left = rounds

structure Due (rounds left : Nat) (past : List (Attempt (Waiting α β))) : Prop where
  due : past = [] ∨ (Sight.of past).expired = true
  looked : (Sight.of past).looked = (Sight.of past).delivered
  asked : asked past + left = rounds

/-! ## Following a watch -/

/-- Of a watch just these deliveries are left to be followed. -/
structure Following (rounds left : Nat) (ends : Option Nat) (version : String)
    (rest : List (Delivery α)) (past : List (Attempt (Waiting α β))) (rested : Nat) :
    Prop where
  version : (Sight.of past).version = some (Feed.lastSeen version rest)
  expired : (Sight.of past).expired = Feed.expires rest
  delivered : (Sight.of past).delivered = (Sight.of past).looked ++ Feed.objects rest
  asked : asked past + left = rounds
  answered : (Sight.of past).pending = false
  coming : ∃ whole, (Sight.of past).coming = some ⟨whole, ends⟩ ∧ Feed.Passes whole rested rest

/-- The first delivery has come. -/
def Arrived (rounds left : Nat) (ends : Option Nat) (version : String) (delivery : Delivery α)
    (rest : List (Delivery α)) : Law (Waiting α β) := fun past rested =>
  ∃ earlier, earlier + delivery.delay = rested ∧
    Following rounds left ends version (delivery :: rest) past earlier

/-- How a watch may be left. -/
def AfterWatch (what : String) (rounds left : Nat) : Source.Left β → Law (Waiting α β)
  | .matched value => fun past _ => Decides what past (.ok value)
  | .ended version => fun past rested =>
    Ready rounds left version past ∧
      (Sight.of past).patience = some (rested + Source.reopenDelay)
  | .gone => fun past _ => Due rounds left past

section Follow

variable {ends : Option Nat} {version : String} {delivery : Delivery α}
  {rest : List (Delivery α)} {past : List (Attempt (Waiting α β))} {rested : Nat}

theorem Following.patience (h : Following rounds left ends version rest past rested) :
    (Sight.of past).patience = (Feed.quiet ends rest).map (rested + ·) := by
  obtain ⟨whole, coming, passes⟩ := h.coming
  rw [Sight.patience, h.answered, coming, ← passes.quiet_eq]
  rfl

theorem Following.decides {fault : Fault}
    (h : Following rounds left ends version rest past rested)
    (failed : Feed.failure what rest = some fault) : Decides what past (.error fault) := by
  obtain ⟨whole, coming, passes⟩ := h.coming
  exact .broken coming ((passes.failure_eq what).trans failed)

theorem Following.ready (h : Following rounds left ends version rest past rested)
    (seen : Feed.lastSeen version rest = version) (kept : Feed.expires rest = false)
    (objects : Feed.objects rest = []) : Ready rounds left version past := by
  refine ⟨?_, ?_, ?_, h.asked⟩
  · rw [h.version, seen]
  · rw [h.expired, kept]
  · rw [h.delivered, objects, List.append_nil]

/-- A watch that comes to its end in this time is opened again after the pause. -/
theorem Following.ended {delay : Nat} (h : Following rounds left ends version rest past rested)
    (seen : Feed.lastSeen version rest = version) (kept : Feed.expires rest = false)
    (objects : Feed.objects rest = [])
    (quiet : Feed.quiet ends rest = some (delay + Source.reopenDelay)) :
    AfterWatch what rounds left (.ended version : Source.Left β) past (rested + delay) := by
  refine ⟨h.ready seen kept objects, ?_⟩
  rw [h.patience, quiet, Nat.add_assoc]
  rfl

theorem upholds_arrival (delivery : Delivery α) (rest : List (Delivery α)) :
    (Saga.ofTask (Task.sleep delivery.delay) : Saga (Waiting α β) Unit).Upholds
      (law rounds name) (Following rounds left ends version (delivery :: rest))
      (fun _ => Arrived rounds left ends version delivery rest) (failing what) := by
  refine Saga.upholds_ofTask (Task.upholds_sleep _ ?_ fun past rested h => ⟨rested, rfl, h⟩)
  intro past rested obeys h
  refine ⟨obeys.1, fun _ q same => ?_⟩
  rw [h.patience] at same
  obtain ⟨later, quiet, rfl⟩ := Option.map_eq_some_iff.mp same
  exact Nat.add_le_add_left (Feed.le_quiet quiet) rested

/-- An object that is delivered is looked at next. -/
theorem upholds_look_next {version' : String} {object : α}
    (seen : Feed.lastSeen version (delivery :: rest) = Feed.lastSeen version' rest)
    (expires : Feed.expires (delivery :: rest) = Feed.expires rest)
    (objects : Feed.objects (delivery :: rest) = object :: Feed.objects rest)
    (after : Feed.afterObject (delivery :: rest) = rest) :
    (look object : Saga (Waiting α β) _).Upholds (law rounds name)
      (Arrived rounds left ends version delivery rest)
      (Found what (Following rounds left ends version' rest)) (failing what) := by
  apply upholds_look
  · rintro past _ ⟨earlier, rfl, h⟩
    rw [h.delivered, objects]
    simp
  · rintro past _ r ⟨earlier, rfl, h⟩
    obtain ⟨whole, coming, passes⟩ := h.coming
    constructor
    case version =>
      rw [Sight.of_append, ← seen]
      exact h.version
    case expired =>
      rw [Sight.of_append, ← expires]
      exact h.expired
    case delivered =>
      have delivered := h.delivered
      rw [objects] at delivered
      simpa [Sight.after] using delivered
    case asked =>
      rw [asked_append]
      exact h.asked
    case answered =>
      rw [Sight.of_append]
      rfl
    case coming =>
      refine ⟨Feed.afterObject whole, ?_, ?_⟩
      · rw [Sight.of_append, Sight.after, coming]
        rfl
      · rw [passes.afterObject_eq, after]
        exact .refl

theorem upholds_follow (ends : Option Nat) (version : String) (deliveries : List (Delivery α)) :
    (Source.follow what look ends version deliveries : Saga (Waiting α β) _).Upholds
      (law rounds name) (Following rounds left ends version deliveries)
      (AfterWatch what rounds left) (failing what) := by
  induction deliveries generalizing version with
  | nil =>
    cases ends with
    | none =>
      refine Saga.upholds_ofTask (Task.upholds_hang fun past rested waited obeys h => ?_)
      refine ⟨obeys.1, fun _ q same => ?_⟩
      rw [h.patience] at same
      cases same
    | some delay =>
      refine (Saga.upholds_ofTask (Task.upholds_sleep delay ?_ fun _ _ h =>
        h.ended rfl rfl rfl rfl)).bind fun _ => Saga.upholds_pure _ fun _ _ h => h
      intro past rested obeys h
      refine ⟨obeys.1, fun _ q same => ?_⟩
      rw [h.patience] at same
      cases same
      exact Nat.add_le_add_left (Nat.le_add_right _ _) rested
  | cons delivery rest ih =>
    refine (upholds_arrival delivery rest).bind fun _ => ?_
    obtain ⟨delay, event⟩ := delivery
    match event with
    | .error fault =>
      dsimp only
      split
      · refine Saga.upholds_pure _ ?_
        rintro past _ ⟨earlier, rfl, h⟩
        exact h.ended rfl rfl rfl rfl
      · rename_i lasting
        refine Saga.upholds_fail fault ?_
        rintro past _ ⟨earlier, rfl, h⟩
        exact h.decides (if_neg lasting)
    | .ok (.added object) | .ok (.modified object) =>
      refine (upholds_look_next rfl rfl rfl rfl).bind fun found => ?_
      cases found with
      | some value => exact Saga.upholds_pure _ fun _ _ h => h
      | none => exact ih _
    | .ok (.deleted object) =>
      apply (ih version).mono
      rintro past _ ⟨earlier, rfl, h⟩
      obtain ⟨whole, coming, passes⟩ := h.coming
      exact ⟨h.version, h.expired, h.delivered, h.asked, h.answered, whole, coming,
        passes.deleted⟩
    | .ok (.bookmark seen) =>
      apply (ih seen).mono
      rintro past _ ⟨earlier, rfl, h⟩
      obtain ⟨whole, coming, passes⟩ := h.coming
      exact ⟨h.version, h.expired, h.delivered, h.asked, h.answered, whole, coming,
        passes.bookmark⟩
    | .ok (.error status) =>
      dsimp only
      split
      · rename_i gone
        refine Saga.upholds_pure _ ?_
        rintro past _ ⟨earlier, rfl, h⟩
        refine ⟨.inr ?_, ?_, h.asked⟩
        · rw [h.expired, Feed.expires, gone]
          rfl
        · rw [h.delivered]
          exact (List.append_nil _).symm
      · rename_i kept
        refine Saga.upholds_fail _ ?_
        rintro past _ ⟨earlier, rfl, h⟩
        exact h.decides (if_neg kept)

end Follow

/-! ## The whole wait -/

theorem upholds_list (n : Nat) :
    ((source n).list name : Saga (Waiting α β) _).Upholds (law rounds name)
      (fun past _ => Due rounds (left + 1) past)
      (fun listed past _ => asked past + left = rounds ∧
        ∃ earlier, past = earlier ++ [⟨WaitCall.list name, some (.ok listed)⟩])
      (failing what) := by
  refine upholds_call (fun past _ h => ⟨rfl, h.due, h.looked⟩) fun past _ r h => ?_
  cases r with
  | error fault => exact .last rfl rfl
  | ok listed =>
    refine ⟨?_, past, rfl⟩
    rw [asked_append, ← h.asked, Nat.add_comm left, ← Nat.add_assoc]
    rfl

theorem upholds_watch (what : String) (n : Nat) (version : String) (timeout : Nat) :
    Task.Upholds (law rounds name) (fun past _ => Ready rounds (left + 1) version past)
      ((source n).watch name version timeout : Saga (Waiting α β) _).run
      fun
        | .error fault => fun past _ =>
          if fault.isGone then Due rounds left past else Decides what past (.error fault)
        | .ok feed => Following rounds left feed.ends version feed.deliveries := by
  refine upholds_call (fun past _ h => ⟨rfl, h.version, h.kept, h.looked⟩) fun past _ r h => ?_
  have asked : asked (past ++ [⟨WaitCall.watch name version timeout, some r⟩]) + left =
      rounds := by
    rw [asked_append, ← h.asked, Nat.add_comm left, ← Nat.add_assoc]
    rfl
  cases r with
  | error fault =>
    dsimp only
    split
    · rename_i gone
      refine ⟨.inr ?_, ?_, asked⟩
      · rw [Sight.of_append]
        exact gone
      · rw [Sight.of_append]
        exact h.looked
    · rename_i lasting
      exact .last rfl (if_neg lasting)
  | ok feed =>
    refine ⟨?_, ?_, ?_, asked, ?_, feed.deliveries, ?_, .refl⟩
    · rw [Sight.of_append]
      exact congrArg (Option.map _) h.version
    · rw [Sight.of_append]
      rfl
    · rw [Sight.of_append]
      exact congrArg (· ++ Feed.objects feed.deliveries) h.looked.symm
    · rw [Sight.of_append]
      rfl
    · rw [Sight.of_append]
      rfl

/-- What a search begins with: a list is due, or a watch from this version. -/
def Awaits (rounds left : Nat) : Option String → Law (Waiting α β)
  | none => fun past _ => Due rounds left past
  | some version => fun past _ => Ready rounds left version past

/-- The only object of a list is looked at. -/
theorem upholds_look_listed (item : α) (version : String) :
    (look item : Saga (Waiting α β) _).Upholds (law rounds name)
      (fun past _ => asked past + left = rounds ∧
        ∃ earlier, past = earlier ++ [⟨WaitCall.list name, some (.ok ⟨[item], version⟩)⟩])
      (Found what fun past _ => Ready rounds left version past) (failing what) := by
  apply upholds_look
  · rintro _ rested ⟨_, earlier, rfl⟩
    rw [Sight.of_append]
    exact List.prefix_refl _
  · rintro _ rested r ⟨asked, earlier, rfl⟩
    constructor
    case asked =>
      rw [asked_append]
      exact asked
    all_goals
      rw [Sight.of_append, Sight.of_append]
      rfl

section Search

variable {scope : Scope} {timeout n : Nat}
  (next : ∀ version, ((source n).search scope what name timeout look left version :
    Saga (Waiting α β) β).Upholds (law rounds name) (Awaits rounds left version)
      (fun value past _ => Decides what past (.ok value)) (failing what))
include next

theorem upholds_list_round :
    ((source n).search scope what name timeout look (left + 1) none :
      Saga (Waiting α β) β).Upholds (law rounds name) (Awaits rounds (left + 1) none)
        (fun value past _ => Decides what past (.ok value)) (failing what) := by
  refine (upholds_list n).bind fun listed => ?_
  obtain ⟨items, version⟩ := listed
  match items with
  | [] =>
    apply (next (some version)).mono
    rintro _ rested ⟨asked, earlier, rfl⟩
    refine ⟨?_, ?_, ?_, asked⟩ <;> rw [Sight.of_append] <;> rfl
  | [item] =>
    refine (upholds_look_listed item version).bind fun found => ?_
    cases found with
    | some value => exact Saga.upholds_pure _ fun _ _ h => h
    | none => exact next (some version)
  | _ :: _ :: _ =>
    refine Saga.upholds_fail _ ?_
    rintro _ rested ⟨-, earlier, rfl⟩
    exact .last rfl rfl

theorem upholds_watch_round (version : String) :
    ((source n).search scope what name timeout look (left + 1) (some version) :
      Saga (Waiting α β) β).Upholds (law rounds name) (Awaits rounds (left + 1) (some version))
        (fun value past _ => Decides what past (.ok value)) (failing what) := by
  refine (Saga.upholds_ofTask Task.upholds_clock).bind fun clock => ?_
  refine (Saga.upholds_ofTask (upholds_watch what n version _)).bind fun watched => ?_
  cases watched with
  | error fault =>
    dsimp only
    split
    · exact next none
    · exact Saga.upholds_fail fault fun _ _ h => h
  | ok feed =>
    refine (upholds_follow feed.ends version feed.deliveries).bind fun left => ?_
    cases left with
    | matched value => exact Saga.upholds_pure _ fun _ _ h => h
    | gone => exact next none
    | ended version =>
      refine (Saga.upholds_ofTask (Task.upholds_pause _ ?_ fun _ _ h => h.1)).bind fun _ =>
        next (some version)
      rintro past rested obeys ⟨-, patience⟩
      refine ⟨obeys.1, fun _ q same => ?_⟩
      rw [patience] at same
      cases same
      exact Nat.le_refl _

end Search

theorem upholds_search (scope : Scope) (timeout n : Nat) (version : Option String) :
    ((source n).search scope what name timeout look left version :
      Saga (Waiting α β) β).Upholds (law rounds name) (Awaits rounds left version)
        (fun value past _ => Decides what past (.ok value)) (failing what) := by
  induction left generalizing version with
  | zero =>
    refine Saga.upholds_ofTask (Task.upholds_hang fun past rested waited obeys ready => ?_)
    refine ⟨obeys.1, fun more => absurd more ?_⟩
    cases version with
    | none => exact Nat.not_lt_of_le (Nat.le_of_eq ready.asked.symm)
    | some version => exact Nat.not_lt_of_le (Nat.le_of_eq ready.asked.symm)
  | succ left ih =>
    cases version with
    | none => exact upholds_list_round ih
    | some version => exact upholds_watch_round ih version

/-- How messages call the object. -/
def title (α : Type) [Resource α] (name : String) : String := (Resource.kind α).name ++ "/" ++ name

/-- A wait takes place in a scope of its own. -/
theorem waitFor_run (rounds timeout : Nat) (scope : Scope) (script : Script (Waiting α β))
    (guards : List Guard) (w : World (Waiting α β)) :
    ((source rounds).waitFor scope name timeout look :
        Saga (Waiting α β) β).run script guards w =
      ((scope.withTimeout timeout w.clock).1.run (title α name)
        ((source rounds).search (scope.withTimeout timeout w.clock).1
          (title α name) name timeout look rounds none)).run
        script guards { w with clock := (scope.withTimeout timeout w.clock).2 } := by
  have derived := Task.onClock_done (scope.withTimeout timeout) script guards w rfl
    w.clock.precedes_issue
  show (Saga.ofTask (Task.onClock (scope.withTimeout timeout)) >>= _ :
    Saga (Waiting α β) β).run script guards w = _
  rw [ExceptT.run_bind, Task.bind_run]
  simp only [Saga.ofTask, ExceptT.run_lift, Task.bind_run, map_eq_pure_bind, derived]
  rfl

/-- What a waiter has done when it is left, and what it ends with. -/
theorem waitFor_left (rounds timeout : Nat) (scope : Scope) (script : Script (Waiting α β))
    (guards : List Guard) (w : World (Waiting α β)) {step : Step (Waiting α β) (Except Fault β)}
    (left : ((source rounds).waitFor scope name timeout look :
      Saga (Waiting α β) β).run script guards w = step) :
    ∃ attempts rested, w.Reaches script attempts rested step.world ∧
      law rounds name attempts rested ∧
      ∀ r v, step = .done r v →
        Decides (title α name) attempts r ∨
        ∃ why, r = .error (Interrupt.fault (title α name) why) ∧
          (scope.withTimeout timeout w.clock).1.guard.Trips v.clock why := by
  subst left
  rw [waitFor_run]
  have adds : w.Adds script [] { w with clock := (scope.withTimeout timeout w.clock).2 } :=
    .of_spares w.clock.precedes_issue.fresh_le fun _ _ spared => spared
  have begun := (World.Reaches.refl w).rest 0 adds (Nat.le_refl _)
  have due : Due rounds rounds ([] : List (Attempt (Waiting α β))) :=
    ⟨.inl rfl, rfl, Nat.zero_add rounds⟩
  have fresh : law rounds name ([] : List (Attempt (Waiting α β))) 0 :=
    ⟨.nil, fun _ q _ => Nat.zero_le q⟩
  obtain ⟨attempts, rested, reaches, lawful, ended⟩ :=
    (upholds_search (scope.withTimeout timeout w.clock).1 timeout rounds none).run
      (scope.withTimeout timeout w.clock).1 (title α name) guards begun
      fresh due
  refine ⟨attempts, rested, reaches, lawful, fun r v done => ?_⟩
  rcases ended r v done with decided | tripped
  · cases r <;> exact .inl decided
  · exact .inr tripped

end Waiting

end Recovery
