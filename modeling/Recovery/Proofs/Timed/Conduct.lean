import Recovery.Proofs.Timed.Deadline
import Recovery.Proofs.Timed.Inset
/-!
# The conduct of an operation

What an operation does from the scope it is handed, written down as a tree: at each node it does one
thing, and what follows may depend on what came of it. It has no hold on the world but through its
calls, its rests and its scopes, the one it was handed and those it makes of them. So it has to heed
the guards around it, and it goes in the same way wherever it is set in.
-/
set_option autoImplicit false

namespace Recovery

variable {I : Interface} {α : Type} {n : Nat}

/-- Where an operation that has `n` scopes gets one more. -/
inductive Origin (n : Nat) where
  | background
  | child (s : Fin n)
  | timed (s : Fin n) (milliseconds : Nat)
deriving Repr, DecidableEq

def Origin.derive (env : Fin n → Scope) : Origin n → Clock → Scope × Clock
  | .background => Scope.background
  | .child s => (env s).child
  | .timed s milliseconds => (env s).withTimeout milliseconds

/-- What an operation does that has `n` scopes, and in the end a value to give. Trees are of any
height: what would go on for ever under a deadline is written down to where that ends it. -/
inductive Conduct (I : Interface) : Nat → Type → Type 1 where
  | gives {n : Nat} {α : Type} (value : α) : Conduct I n α
  | calls {n : Nat} {α : Type} (c : I.Call) (next : Except Fault (I.Reply c) → Conduct I n α) :
    Conduct I n α
  /-- Makes a call inside one of the scopes. -/
  | awaits {n : Nat} {α : Type} (s : Fin n) (what : String) (c : I.Call)
    (next : Except Fault (I.Reply c) → Conduct I n α) : Conduct I n α
  | rests {n : Nat} {α : Type} (milliseconds : Nat) (next : Conduct I n α) : Conduct I n α
  | hangs {n : Nat} {α : Type} : Conduct I n α
  /-- Looks whether one of the scopes is cancelled and how much time it has left. -/
  | looks {n : Nat} {α : Type} (s : Fin n) (next : Bool → Option Nat → Conduct I n α) :
    Conduct I n α
  | cancels {n : Nat} {α : Type} (s : Fin n) (next : Conduct I n α) : Conduct I n α
  | derives {n : Nat} {α : Type} (origin : Origin n) (next : Conduct I (n + 1) α) : Conduct I n α
  /-- Runs an operation of its own inside one of the scopes. -/
  | runs {n : Nat} {α β : Type} (s : Fin n) (what : String)
    (inner : Conduct I n (Except Fault β)) (next : Except Fault β → Conduct I n α) :
    Conduct I n α

namespace Conduct

/-- The scopes with one more, which comes first. -/
def extend (env : Fin n → Scope) (s : Scope) : Fin (n + 1) → Scope := fun i => i.cases s env

def perform {n : Nat} {α : Type} (conduct : Conduct I n α) (env : Fin n → Scope) : Task I α :=
  match conduct with
  | .gives value => pure value
  | .calls c next => do
    let r ← Task.call c
    (next r).perform env
  | .awaits s what c next => do
    let r ← ((env s).call what c).run
    (next r).perform env
  | .rests milliseconds next => do
    Task.pause milliseconds
    next.perform env
  | .hangs => Task.hang
  | .looks s next => do
    let clock ← Task.clock
    (next ((env s).isCancelled clock) ((env s).remaining clock)).perform env
  | .cancels s next => do
    Task.onClock fun clock => ((), (env s).cancel clock)
    next.perform env
  | .derives origin next => do
    let s ← Task.onClock (origin.derive env)
    next.perform (extend env s)
  | .runs s what inner next => do
    let r ← ((env s).run what (ExceptT.mk (inner.perform env))).run
    (next r).perform env

/-- The operation that is handed one scope and goes on from there. -/
def operation (conduct : Conduct I 1 (Except Fault α)) (s : Scope) : Saga I α :=
  ExceptT.mk (conduct.perform fun _ => s)

/-! ## Deadlines -/

theorem heeds_perform (conduct : Conduct I n α) (env : Fin n → Scope) :
    (conduct.perform env).Heeds := by
  induction conduct with
  | gives value => exact .pure value
  | calls c next ih => exact (Task.heeds_call c).bind fun r => ih r env
  | awaits s what c next ih => exact (Scope.heeds_call (env s) what c).bind fun r => ih r env
  | rests milliseconds next ih => exact (Task.heeds_pause milliseconds).bind fun _ => ih env
  | hangs => exact Task.heeds_hang
  | looks s next ih =>
    exact (Task.Heeds.of_immediate Task.immediate_clock).bind fun clock => ih _ _ env
  | cancels s next ih =>
    exact (Task.Heeds.of_immediate (Task.immediate_onClock _)).bind fun _ => ih env
  | derives origin next ih =>
    exact (Task.Heeds.of_immediate (Task.immediate_onClock _)).bind fun s => ih (extend env s)
  | runs s what inner next ihInner ih =>
    exact (Scope.heeds_run (env s) what (ihInner env)).bind fun r => ih r env

/-! ## Places -/

variable {v : Inset I}

theorem extend_shift (σ : Shift) (env : Fin n → Scope) (s : Scope) :
    (fun i => σ.scope (extend env s i)) = extend (fun i => σ.scope (env i)) (σ.scope s) := by
  funext i
  cases i using Fin.cases <;> rfl

theorem derive_instant (origin : Origin n) (env : Fin n → Scope) (c : Clock) :
    (origin.derive env c).2.now = c.now ∧ c.Precedes (origin.derive env c).2 := by
  cases origin <;> exact ⟨rfl, c.precedes_issue⟩

theorem cancel_instant (s : Scope) (c : Clock) :
    (s.cancel c).now = c.now ∧ c.Precedes (s.cancel c) := by
  unfold Scope.cancel
  cases s.tokens with
  | nil => exact ⟨rfl, .refl c⟩
  | cons token _ => exact ⟨rfl, c.precedes_cancel token⟩

theorem derive_shift {σ : Shift} {c d : Clock} (h : c.Shifted σ d) (origin : Origin n)
    (env : Fin n → Scope) :
    (origin.derive (fun i => σ.scope (env i)) d).1 = σ.scope (origin.derive env c).1 ∧
      (origin.derive env c).2.Shifted σ (origin.derive (fun i => σ.scope (env i)) d).2 := by
  cases origin with
  | background => exact Scope.background_shift h
  | child s => exact Scope.child_shift h (env s)
  | timed s milliseconds => exact Scope.withTimeout_shift h (env s) milliseconds

/-- By induction on the tree: what is known at a node is the same in both worlds, so the operation
goes on from there with the same subtree. -/
theorem mirrors_perform (conduct : Conduct I n α) (env : Fin n → Scope) :
    Task.Mirrors v Eq (conduct.perform env) (conduct.perform fun i => v.scope (env i)) := by
  induction conduct with
  | gives value => exact Task.mirrors_pure rfl
  | calls c next ih =>
    refine (Task.mirrors_call c).bind ?_
    rintro r _ rfl
    exact ih r env
  | awaits s what c next ih =>
    refine (Scope.mirrors_call what c).bind ?_
    rintro r _ rfl
    exact ih r env
  | rests milliseconds next ih => exact (Task.mirrors_pause milliseconds).bind fun _ _ _ => ih env
  | hangs => exact Task.mirrors_hang
  | looks s next ih =>
    refine Task.mirrors_clock.bind fun c d shifted => ?_
    rw [Scope.isCancelled_shift shifted, Scope.remaining_shift shifted]
    exact ih _ _ env
  | cancels s next ih =>
    have cancelled : Task.Mirrors v Eq
        (Task.onClock fun clock => ((), (env s).cancel clock) : Task I Unit)
        (Task.onClock fun clock => ((), (v.scope (env s)).cancel clock)) :=
      Task.mirrors_onClock (cancel_instant _) (cancel_instant _) fun c d shifted =>
        ⟨rfl, Scope.cancel_shift shifted (env s)⟩
    exact cancelled.bind fun _ _ _ => ih env
  | derives origin next ih =>
    have derived : Task.Mirrors v (fun s t => t = v.scope s) (Task.onClock (origin.derive env))
        (Task.onClock (origin.derive fun i => v.scope (env i))) :=
      Task.mirrors_onClock (derive_instant origin _) (derive_instant origin _)
        fun c d shifted => derive_shift shifted origin env
    refine derived.bind ?_
    rintro s _ rfl
    rw [← extend_shift]
    exact ih (extend env s)
  -- what is run in a scope and what follows it see the same scopes
  | runs s what inner next ihInner ih =>
    refine (Scope.mirrors_run what (ihInner env)).bind ?_
    rintro r _ rfl
    exact ih r env

theorem heeds_operation (conduct : Conduct I 1 (Except Fault α)) (s : Scope) :
    (conduct.operation s).run.Heeds := conduct.heeds_perform fun _ => s

theorem mirrors_operation (conduct : Conduct I 1 (Except Fault α)) (s : Scope) :
    Task.Mirrors v Eq (conduct.operation s).run (conduct.operation (v.scope s)).run :=
  conduct.mirrors_perform fun _ => s

end Conduct

end Recovery
