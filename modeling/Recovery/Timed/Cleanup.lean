import Recovery.Timed.Scope
/-!
# Cleanups

A cleanup undoes what an operation did and is run on every way out of it. With a timeout it runs
in a scope of its own, so that it also completes when the operation was cancelled or ran out of
time; its failure joins that of the operation and hides nothing.
-/
set_option autoImplicit false

namespace Recovery

/-- Two minutes for a cleanup that sets no time of its own. -/
def defaultCleanupTimeout : Nat := 120000

structure Cleanup (I : Interface) (α : Type) where
  /-- What to do in the scope it is given; a nil cleanup is done already. -/
  operation : α ⊕ (Scope → Saga I α)
  context : Option String
  timeout : Option Nat
  /-- The last change to a failure, after the context has been added. -/
  mapFault : Fault → Fault

namespace Cleanup

variable {I : Interface} {α β : Type}

def nil (value : α) : Cleanup I α := ⟨.inl value, none, none, id⟩

def ofScope (operation : Scope → Saga I α) : Cleanup I α := ⟨.inr operation, none, none, id⟩

def of (operation : Saga I α) : Cleanup I α := ofScope fun _ => operation

def withContext (message : String) (c : Cleanup I α) : Cleanup I α :=
  { c with context := some message }

/-- Runs in a scope of its own that ends after the given time. -/
def withTimeout (milliseconds : Nat) (c : Cleanup I α) : Cleanup I α :=
  { c with timeout := some milliseconds }

def detached (c : Cleanup I α) : Cleanup I α := c.withTimeout defaultCleanupTimeout

def withMapFault (change : Fault → Fault) (c : Cleanup I α) : Cleanup I α :=
  { c with mapFault := change }

def isNil (c : Cleanup I α) : Bool :=
  match c.operation with
  | .inl _ => true
  | .inr _ => false

def report (c : Cleanup I α) (fault : Fault) : Fault :=
  c.mapFault <|
    match c.context with
    | some message => .context message fault
    | none => fault

/-- Runs the cleanup in a child of the caller's scope, or in a scope of its own if it has a
timeout. -/
def run (c : Cleanup I α) (caller : Scope) : Saga I α := ExceptT.mk do
  match c.operation with
  | .inl value => return .ok value
  | .inr operation =>
    let scope ← Task.onClock <|
      match c.timeout with
      | some milliseconds => Scope.detached milliseconds
      | none => caller.child
    let result ← (scope.run (c.context.getD "cleanup") (operation scope)).run
    return result.mapError c.report

def foldInto (c : Cleanup I α) (caller : Scope) (result : Except Fault β) :
    Task I (Except Fault β) := do
  match ← (c.run caller).run with
  | .ok _ => return result
  | .error fault => return Fault.foldInto result fault

/-- Runs cleanups, the one registered last first, whatever fails among them. `stack` holds the
one registered last at its head. -/
def unwind (caller : Scope) (result : Except Fault β) :
    List (Cleanup I Unit) → Task I (Except Fault β)
  | [] => return result
  | c :: stack => do
    let result ← c.foldInto caller result
    unwind caller result stack

end Cleanup

end Recovery
