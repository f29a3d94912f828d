import Recovery.Timed.Scope
import Recovery.Watch.Event
/-!
# Waiting for an object

`waitFor` waits until a named object satisfies a predicate. It lists first and watches from the
version that the list saw; a watch that ends is opened again at the version seen last, and a
version that is no longer kept sends it back to listing. The whole wait is bounded by a timeout
within the caller's scope.
-/
set_option autoImplicit false

namespace Recovery

structure Source (I : Interface) (α : Type) where
  list : (name : String) → Saga I (Listed α)
  watch : (name version : String) → (timeout : Nat) → Saga I (Feed α)
  /-- How many lists and watches the source answers before it falls silent for good. -/
  rounds : Nat

namespace Fault

/-- The version to watch from is no longer kept. -/
def isGone : Fault → Bool
  | .kube (.refused _ _ _ code) => code == goneCode
  | _ => false

theorem isGone_iff {f : Fault} : f.isGone = true ↔
    ∃ status message reason, f = .kube (.refused status message reason 410) := by
  constructor
  · intro gone
    unfold isGone at gone
    split at gone
    · obtain rfl := beq_iff_eq.mp gone
      exact ⟨_, _, _, rfl⟩
    · cases gone
  · rintro ⟨status, message, reason, rfl⟩
    rfl

/-- A watch broke off, as opposed to the server failing it. -/
def isInterrupted : Fault → Bool
  | .kube (.brokenStream _) => true
  | _ => false

theorem isInterrupted_iff {f : Fault} : f.isInterrupted = true ↔
    ∃ message, f = .kube (.brokenStream message) := by
  constructor
  · intro interrupted
    unfold isInterrupted at interrupted
    split at interrupted
    · exact ⟨_, rfl⟩
    · cases interrupted
  · rintro ⟨message, rfl⟩
    rfl

end Fault

namespace Source

variable {I : Interface} {α β : Type}

inductive Left (β : Type) where
  | matched (value : β)
  /-- It ended; the next one starts at this version. -/
  | ended (version : String)
  | gone

/-- Half a second before a watch that ended is opened again. -/
def reopenDelay : Nat := 500

def watchFailed (what : String) (status : ErrorStatus) : Fault :=
  .internal ("watch on " ++ what ++ " failed: " ++ status.message ++ " (" ++
    toString status.code ++ ")") "wait_for"

def ambiguous (what : String) (found : Nat) : Fault :=
  .internal ("name filter for " ++ what ++ " matched " ++ toString found ++
    " objects, expected at most one") "wait_for"

def follow [Resource α] (what : String) (look : α → Saga I (Option β)) (ends : Option Nat)
    (version : String) : List (Delivery α) → Saga I (Left β)
  | [] =>
    match ends with
    | none => Saga.ofTask Task.hang
    | some delay => do
      Saga.ofTask (Task.sleep delay)
      return .ended version
  | delivery :: rest => do
    Saga.ofTask (Task.sleep delivery.delay)
    match delivery.event with
    | .error fault => if fault.isInterrupted then return .ended version else Saga.fail fault
    | .ok (.added object) | .ok (.modified object) =>
      let version := (Resource.metadata object).resourceVersion.getD version
      match ← look object with
      | some value => return .matched value
      | none => follow what look ends version rest
    | .ok (.deleted _) => follow what look ends version rest
    | .ok (.bookmark version) => follow what look ends version rest
    | .ok (.error status) =>
      if status.code = goneCode then return .gone else Saga.fail (watchFailed what status)

/-- Lists and watches in turn. `version` is what to watch from, none if a list is due. -/
def search [Resource α] (source : Source I α) (scope : Scope) (what name : String)
    (timeout : Nat) (look : α → Saga I (Option β)) : Nat → Option String → Saga I β
  | 0, _ => Saga.ofTask Task.hang
  | rounds + 1, none => do
    let listed ← source.list name
    match listed.items with
    | [] => search source scope what name timeout look rounds (some listed.version)
    | [item] =>
      match ← look item with
      | some value => return value
      | none => search source scope what name timeout look rounds (some listed.version)
    | items => Saga.fail (ambiguous what items.length)
  | rounds + 1, some version => do
    let clock ← Saga.ofTask Task.clock
    match ← Saga.ofTask (source.watch name version ((scope.remaining clock).getD timeout)).run with
    | .error fault =>
      if fault.isGone then search source scope what name timeout look rounds none
      else Saga.fail fault
    | .ok feed =>
      match ← follow what look feed.ends version feed.deliveries with
      | .matched value => return value
      | .gone => search source scope what name timeout look rounds none
      | .ended version =>
        Saga.ofTask (Task.pause reopenDelay)
        search source scope what name timeout look rounds (some version)

/-- Waits until `look` finds a value in the object called `name`; a failing look ends the wait. -/
def waitFor [Resource α] (source : Source I α) (scope : Scope) (name : String) (timeout : Nat)
    (look : α → Saga I (Option β)) : Saga I β := do
  let what := (Resource.kind α).name ++ "/" ++ name
  let scope ← Saga.ofTask (Task.onClock (scope.withTimeout timeout))
  scope.run what (source.search scope what name timeout look source.rounds none)

end Source

end Recovery
