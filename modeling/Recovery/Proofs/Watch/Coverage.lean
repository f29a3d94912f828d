import Recovery.Proofs.Watch.History
import Recovery.Proofs.Watch.Wait
import Recovery.Resource.Snapshot
/-!
# The waiter loses and repeats no update

With a server that keeps a history a waiter looks at every change since its last list, each one once
and in the order of their versions, however the history is cut into watches.
-/
set_option autoImplicit false

namespace Recovery

variable {α β : Type}

namespace History

variable [Resource α] (h : History α)

/-- What the server answers is true to the history: a list gives the state as of some version, a
watch the changes that are later than the version it was opened at. -/
def Answers : Mark (Waiting α β) → Prop
  | .ended _ (.list _) (.ok listed) => ∃ v, v ≤ h.now ∧ listed = ⟨h.state v, h.label v⟩
  | .ended _ (.watch _ version _) (.ok feed) =>
    ∃ v, version = h.label v ∧ h.Feeds v feed.deliveries
  | _ => True

/-- What was true to the history when it was answered stays so. -/
theorem Grows.answers {h h' : History α} (grows : h.Grows h') {m : Mark (Waiting α β)}
    (answers : h.Answers m) : h'.Answers m := by
  match m with
  | .began _ => trivial
  | .ended _ (.list _) (.ok listed) =>
    obtain ⟨v, hv, rfl⟩ := answers
    refine ⟨v, Nat.le_trans hv grows.now_le, ?_⟩
    rw [grows.state hv, grows.label]
  | .ended _ (.list _) (.error _) => trivial
  | .ended _ (.watch _ version _) (.ok feed) =>
    obtain ⟨v, opened, feeds⟩ := answers
    exact ⟨v, by rw [opened, grows.label], grows.feeds feeds⟩
  | .ended _ (.watch _ _ _) (.error _) => trivial
  | .ended _ (.look _) _ => trivial

/-- What has been seen since the list is the state as of one version and every change up to another,
and what has been looked at comes from the front of that. -/
def Covers (s : Sight α) : Prop :=
  ∀ version, s.version = some version →
    ∃ v r, v ≤ r ∧ s.listed = some (h.label v) ∧ version = h.label r ∧
      s.delivered = h.state v ++ h.upserts v r ∧ s.looked <+: s.delivered

/-- The answer of an attempt, if there is one, is true to the history. -/
def Explains (a : Attempt (Waiting α β)) : Prop :=
  ∀ r, a.result = some r → ∃ instant, h.Answers (.ended instant a.call r)

theorem covers_after {name : String} {past : List (Attempt (Waiting α β))}
    {a : Attempt (Waiting α β)} (covers : h.Covers (Sight.of past))
    (permitted : Waiting.Permits name past a.call) (explains : h.Explains a) :
    h.Covers (Sight.of (past ++ [a])) := by
  rw [Sight.of_append]
  intro version seen
  obtain ⟨call, result⟩ := a
  match call, result with
  | .list _, some (.ok listed) =>
    obtain ⟨_, v, -, rfl⟩ := explains _ rfl
    refine ⟨v, v, Nat.le_refl v, rfl, (Option.some.inj seen).symm, ?_, List.nil_prefix⟩
    rw [upserts_self, List.append_nil]
    rfl
  | .list _, some (.error _) => cases seen
  | .list _, none => cases seen
  | .watch _ opened _, some (.ok feed) =>
    obtain ⟨-, at_opened, -, -⟩ := permitted
    obtain ⟨v, r, hr, listed, rfl, delivered, looked⟩ := covers opened at_opened
    obtain ⟨_, r', same, feeds⟩ := explains _ rfl
    obtain rfl := h.distinct r r' same
    obtain ⟨s, hs, last, objects⟩ := feeds.seen h (Nat.le_refl r) (h.upserts_self r)
    refine ⟨v, s, Nat.le_trans hr hs, listed, ?_, ?_, looked.trans (List.prefix_append ..)⟩
    · rw [Sight.after, at_opened] at seen
      rw [← last]
      exact (Option.some.inj seen).symm
    · rw [Sight.after, delivered, objects, upserts_append h hr hs, List.append_assoc]
  | .watch _ _ _, some (.error _) => exact covers version seen
  | .watch _ _ _, none => exact covers version seen
  | .look object, _ =>
    obtain ⟨v, r, hr, listed, label, delivered, -⟩ := covers version seen
    exact ⟨v, r, hr, listed, label, delivered, permitted⟩

theorem covers_of_lawful {name : String} {attempts : List (Attempt (Waiting α β))}
    (lawful : Waiting.Lawful name attempts) (explains : ∀ a ∈ attempts, h.Explains a) :
    h.Covers (Sight.of attempts) := by
  induction lawful with
  | nil => exact fun _ seen => by cases seen
  | snoc a _ permitted ih =>
    have covers := ih fun b hb => explains b (List.mem_append_left _ hb)
    exact h.covers_after covers permitted (explains a (by simp))

end History

namespace Waiting

variable [Resource α] {name : String}

/-- A waiter lists, watches and looks lawfully however it is left. If each answer was true to the
history as it was then, what has been looked at since a list comes at any time from the front of the
state that was listed and the changes since, and is all of that up to the version seen last whenever
the waiter lists or watches again. It is not late with any of this as long as the source is not
silent, and ends only with what decides the wait or with its scope. -/
theorem waitFor_covers_history (h : History α) {rounds timeout : Nat} {scope : Scope}
    {script : Script (Waiting α β)} {guards : List Guard} {w : World (Waiting α β)}
    {step : Step (Waiting α β) (Except Fault β)}
    (left : ((source rounds).waitFor scope name timeout look :
      Saga (Waiting α β) β).run script guards w = step)
    (answers : ∀ m ∈ step.world.marks.drop w.marks.length,
      ∃ earlier : History α, earlier.Grows h ∧ earlier.Answers m) :
    ∃ added attempts, step.world.marks = w.marks ++ added ∧ Attempt.Leave attempts added ∧
      Lawful name attempts ∧ (∀ past, past <+: attempts → h.Covers (Sight.of past)) ∧
      (∀ q, asked attempts < rounds → (Sight.of attempts).patience = some q →
        step.world.clock.now ≤ Mark.latest w.clock.now added + q) ∧
      ∀ r v, step = .done r v →
        Decides (title α name) attempts r ∨
        ∃ why, r = .error (Interrupt.fault (title α name) why) ∧
          (scope.withTimeout timeout w.clock).1.guard.Trips v.clock why := by
  obtain ⟨attempts, rested, ⟨added, adds, leave, now⟩, ⟨lawful, prompt⟩, ended⟩ :=
    waitFor_left rounds timeout scope script guards w left
  refine ⟨added, attempts, adds.marks, leave, lawful, ?_, ?_, ended⟩
  · intro past earlier
    apply h.covers_of_lawful (lawful.of_isPrefix earlier)
    intro a mem r given
    obtain ⟨instant, marked⟩ := leave.ended_mem (earlier.subset mem) given
    rw [adds.marks, List.drop_left] at answers
    obtain ⟨earlier, grows, answer⟩ := answers _ marked
    exact ⟨instant, grows.answers answer⟩
  · intro q audible patience
    have := prompt audible q patience
    omega

/-- The label of a sample version. -/
def tally (v : Nat) : String := String.ofList (List.replicate v 'v')

def snapshotAt (v : Nat) : Snapshot :=
  ⟨{ Metadata.managed "data" "prod" [] with resourceVersion := some (tally v) }, ⟨⟨none⟩, none⟩,
    none⟩

/-- A snapshot is changed, deleted and created again. -/
def recreation : History Snapshot where
  changes := [⟨1, .added, snapshotAt 1⟩, ⟨3, .modified, snapshotAt 3⟩,
    ⟨4, .deleted, snapshotAt 4⟩, ⟨6, .added, snapshotAt 6⟩]
  now := 6
  label := tally
  reached := by decide
  distinct v r same := by simpa [tally] using congrArg String.length same
  ordered := by decide
  labelled := by
    intro c mem
    simp only [List.mem_cons, List.not_mem_nil, or_false] at mem
    rcases mem with rfl | rfl | rfl | rfl <;> rfl

/-- The first watch ends, the second one is refused because its version is no longer kept. -/
def forgetful : Script (Waiting Snapshot Unit) where
  root := 0
  answer
    | past, .list _ =>
      let v := if past.length = 0 then 1 else 4
      .immediate (.ok ⟨recreation.state v, recreation.label v⟩)
    | past, .watch _ _ _ =>
      match past.length with
      | 2 => .immediate (.ok ⟨[⟨0, .ok (.modified (snapshotAt 3))⟩,
          ⟨0, .ok (.deleted (snapshotAt 4))⟩], some 0⟩)
      | 4 => .immediate (.error (.kube (.refused "Failure" "too old" "Expired" goneCode)))
      | _ => .immediate (.ok ⟨[⟨0, .ok (.bookmark (recreation.label 5))⟩,
          ⟨0, .ok (.added (snapshotAt 6))⟩], none⟩)
    | past, .look _ => .immediate (.ok (if past.length = 7 then some () else none))

theorem waitFor_covers_recreation :
    ∃ step, ((source 9).waitFor .unbounded "data" 60000 look :
        Saga (Waiting Snapshot Unit) Unit).run forgetful [] .initial = step ∧
      step.world.log.length = 8 ∧
      ∃ added attempts, step.world.marks = [] ++ added ∧ Attempt.Leave attempts added ∧
        Lawful "data" attempts ∧
        (∀ past, past <+: attempts → recreation.Covers (Sight.of past)) ∧
        (∀ q, asked attempts < 9 → (Sight.of attempts).patience = some q →
          step.world.clock.now ≤ Mark.latest 0 added + q) ∧
        ∀ r v, step = .done r v →
          Decides (title Snapshot "data") attempts r ∨
          ∃ why, r = .error (Interrupt.fault (title Snapshot "data") why) ∧
            (Scope.unbounded.withTimeout 60000
              (World.initial : World (Waiting Snapshot Unit)).clock).1.guard.Trips v.clock
              why := by
  have changed : recreation.Feeds 1 [⟨0, .ok (.modified (snapshotAt 3))⟩,
      ⟨0, .ok (.deleted (snapshotAt 4))⟩] :=
    .change (c := ⟨3, .modified, snapshotAt 3⟩) 0 rfl
      (.change (c := ⟨4, .deleted, snapshotAt 4⟩) 0 rfl (.ends 4))
  have created : recreation.Feeds 4 [⟨0, .ok (.bookmark (recreation.label 5))⟩,
      ⟨0, .ok (.added (snapshotAt 6))⟩] :=
    .bookmark 0 (by decide) (by decide) rfl
      (.change (c := ⟨6, .added, snapshotAt 6⟩) 0 rfl (.ends 6))
  have answers : ∃ step, ((source 9).waitFor .unbounded "data" 60000 look :
      Saga (Waiting Snapshot Unit) Unit).run forgetful [] .initial = step ∧
      step.world.log.length = 8 ∧
      ∀ m ∈ step.world.marks, ∃ earlier : History Snapshot, earlier.Grows recreation ∧
        earlier.Answers m := by
    refine ⟨_, rfl, rfl, ?_⟩
    intro m mem
    refine ⟨recreation, .refl recreation, ?_⟩
    repeat
      rcases List.mem_cons.mp mem with rfl | mem
      · first
        | exact trivial
        | exact ⟨1, by decide, rfl⟩
        | exact ⟨4, by decide, rfl⟩
        | exact ⟨1, rfl, changed⟩
        | exact ⟨4, rfl, created⟩
    cases mem
  obtain ⟨step, left, calls, answers⟩ := answers
  exact ⟨step, left, calls, waitFor_covers_history recreation left answers⟩

end Waiting

end Recovery
