import Recovery.Timed.Task
/-!
# Scopes

A scope is a cancellation token with those of the scopes it was derived from, and perhaps a
deadline. A derived scope is cancelled with its ancestors and never has a later deadline. An
operation run in a scope ends with the scope.
-/
set_option autoImplicit false

namespace Recovery

structure Scope where
  /-- The scope's own token and then those of its ancestors, nearest first. -/
  tokens : List Token
  deadline : Option Nat
deriving Repr, DecidableEq

namespace Scope

def derive (ancestors : List Token) (deadline : Option Nat) (c : Clock) : Scope × Clock :=
  let (token, c) := c.issue
  (⟨token :: ancestors, deadline⟩, c)

/-- Never cancelled by another scope and without a deadline. -/
def background : Clock → Scope × Clock := derive [] none

def child (s : Scope) : Clock → Scope × Clock := derive s.tokens s.deadline

/-- Ends with this scope or after the given time, whichever comes first. -/
def withTimeout (s : Scope) (milliseconds : Nat) (c : Clock) : Scope × Clock :=
  derive s.tokens (earlier s.deadline (some (c.now + milliseconds))) c

/-- Ends after the given time, whatever becomes of any other scope. -/
def detached (milliseconds : Nat) (c : Clock) : Scope × Clock :=
  let (root, c) := background c
  root.withTimeout milliseconds c

def cancel (s : Scope) (c : Clock) : Clock :=
  match s.tokens with
  | token :: _ => c.cancel token
  | [] => c

def cancelAfter (s : Scope) (milliseconds : Nat) (c : Clock) : Clock :=
  match s.tokens with
  | token :: _ => c.setAlarm (c.now + milliseconds) token
  | [] => c

def isCancelled (s : Scope) (c : Clock) : Bool := c.anyCancelled s.tokens

def remaining (s : Scope) (c : Clock) : Option Nat := s.deadline.map (· - c.now)

def guard (s : Scope) : Guard := ⟨s.tokens, s.deadline⟩

end Scope

def Interrupt.fault (what : String) : Interrupt → Fault
  | .cancelled => .cancelled what
  | .expired => .deadlineExceeded what

namespace Scope

variable {I : Interface} {α : Type}

/-- Runs an operation inside the scope. It is not started in a scope that is cancelled already;
started, it may end at the very instant of the deadline. -/
def run (s : Scope) (what : String) (operation : Saga I α) : Saga I α := ExceptT.mk do
  let clock ← Task.clock
  if s.isCancelled clock then return .error (.cancelled what)
  match ← Task.within s.guard operation.run with
  | .ok result => return result
  | .error why => return .error (why.fault what)

section Run

variable {s : Scope} {what : String} {operation : Saga I α} {script : Script I}
  {guards : List Guard} {w w' : World I} {r : Except Fault α}

theorem run_of_cancelled (h : s.isCancelled w.clock = true) :
    (s.run what operation).run script guards w = .done (.error (.cancelled what)) w := by
  show (Task.clock >>= fun clock => if s.isCancelled clock then _ else _) script guards w = _
  rw [Task.bind_run]
  simp only [Task.clock, h, if_true]
  rfl

theorem run_of_open (h : s.isCancelled w.clock = false) :
    (s.run what operation).run script guards w =
      (Task.within s.guard operation.run >>= fun ended =>
        match ended with
        | .ok result => pure result
        | .error why => pure (.error (why.fault what))) script guards w := by
  show (Task.clock >>= fun clock => if s.isCancelled clock then _ else _) script guards w = _
  rw [Task.bind_run]
  simp only [Task.clock, h, Bool.false_eq_true, if_false]

theorem run_world (h : s.isCancelled w.clock = false) :
    ((s.run what operation).run script guards w).world =
      (operation.run script (s.guard :: guards) w).world := by
  rw [run_of_open h, Task.bind_run, ← Task.within_world]
  cases Task.within s.guard operation.run script guards w with
  | done ended v => cases ended <;> rfl
  | interrupted outside why v => rfl
  | endless v => rfl

theorem run_done (h : s.isCancelled w.clock = false) :
    (s.run what operation).run script guards w = .done r w' ↔
      operation.run script (s.guard :: guards) w = .done r w' ∨
      ∃ why, operation.run script (s.guard :: guards) w = .interrupted guards.length why w' ∧
        r = .error (why.fault what) := by
  rw [run_of_open h, Task.bind_done]
  constructor
  · rintro ⟨ended, v, inside, after⟩
    rcases Task.within_done.mp inside with ⟨result, h', rfl⟩ | ⟨why, h', rfl⟩
    · obtain ⟨rfl, rfl⟩ := Task.pure_done.mp after
      exact .inl h'
    · obtain ⟨rfl, rfl⟩ := Task.pure_done.mp after
      exact .inr ⟨why, h', rfl⟩
  · rintro (inside | ⟨why, inside, rfl⟩)
    · exact ⟨_, _, Task.within_done.mpr (.inl ⟨r, inside, rfl⟩), Task.pure_done.mpr ⟨rfl, rfl⟩⟩
    · exact ⟨_, _, Task.within_done.mpr (.inr ⟨why, inside, rfl⟩),
        Task.pure_done.mpr ⟨rfl, rfl⟩⟩

theorem run_interrupted (h : s.isCancelled w.clock = false) {outside : Nat} {why : Interrupt} :
    (s.run what operation).run script guards w = .interrupted outside why w' ↔
      operation.run script (s.guard :: guards) w = .interrupted outside why w' ∧
        outside ≠ guards.length := by
  rw [run_of_open h, Task.bind_interrupted, Task.within_interrupted, or_iff_left]
  rintro ⟨_ | _, _, _, after⟩ <;> cases after

theorem run_endless (h : s.isCancelled w.clock = false) :
    (s.run what operation).run script guards w = .endless w' ↔
      operation.run script (s.guard :: guards) w = .endless w' := by
  rw [run_of_open h, Task.bind_endless, Task.within_endless, or_iff_left]
  rintro ⟨_ | _, _, _, after⟩ <;> cases after

end Run

/-- Makes a call that is seen through inside the scope. Unlike an operation, a call begins in a
scope that is cancelled too. -/
def call (s : Scope) (what : String) (c : I.Call) : Saga I (I.Reply c) := ExceptT.mk do
  let outcome ← Task.start c
  let result ← (s.run what (ExceptT.mk (Task.play outcome))).run
  Task.finish c result
  return result

end Scope

end Recovery
