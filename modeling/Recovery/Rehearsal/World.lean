import Recovery.Document.Fault
import Recovery.Timed.Scope
/-!
# Rehearsals

A rehearsal plays a task against a script: a document says in what scope it runs and how each call
ends. A task that has not ended after thirty days counts as hanging.
-/
set_option autoImplicit false

namespace Recovery

namespace Rehearsal

open Document

def horizon : Nat := 30 * 24 * 60 * 60 * 1000

/-- A scope with what its document asks for: a timeout, and to be cancelled at once or later. -/
def buildScope (spec : Json) (c : Clock) : Scope × Clock :=
  let (s, c) := Scope.background c
  let (s, c) := ((natural? spec "timeout_ms").map fun ms => s.withTimeout ms c).getD (s, c)
  let c := if flag spec "cancelled" then s.cancel c else c
  let c := ((natural? spec "cancel_at_ms").map fun ms => s.cancelAfter ms c).getD c
  (s, c)

def outcome? {α : Type} (value : Option Json → Option α) (j : Json) : Option (Outcome α) := do
  let result ←
    match field? j "err" with
    | some e => (fault? e).map Except.error
    | none => (value (field? j "value")).map Except.ok
  return ⟨flag j "cancel", flag j "hang", natural j "delay_ms", result⟩

def quiet? : Json → Option (Outcome Unit) := outcome? fun _ => some ()

/-- The element at a position; the last one repeats. -/
def nth {α : Type} (xs : List α) (i : Nat) (fallback : α) : α :=
  ((xs[i]?).or xs.getLast?).getD fallback

def play (I : Interface) {α : Type} (spec : Json)
    (answer : (history : List I.Call) → (call : I.Call) → Outcome (I.Reply call))
    (task : Scope → Task I α) : Option (α × World I) :=
  let (root, clock) := buildScope spec .start
  let script : Script I := ⟨root.tokens.headD 0, answer⟩
  match Task.run (Task.limit horizon (task root)) script ⟨clock, []⟩ with
  | .done (some a) w => some (a, w)
  | _ => none

abbrev Reading (I : Interface) (α : Type) := OptionT (Task I) α

namespace Reading

variable {I : Interface} {α : Type}

def ofTask (task : Task I α) : Reading I α := OptionT.lift task

def ofOption (a : Option α) : Reading I α := OptionT.mk (pure a)

def scopeOr (scope : Scope) (j : Json) : Reading I Scope :=
  match field? j "scope" with
  | some spec => ofTask (Task.onClock (buildScope spec))
  | none => pure scope

variable {σ : Type}

/-- Takes steps one after another; to what each shows the instant at which it ended is added. -/
def steps (step : σ → Json → Reading I (List (String × Json) × σ)) :
    σ → List Json → Reading I (List Json × σ)
  | state, [] => pure ([], state)
  | state, spec :: rest => do
    let (shown, state) ← step state spec
    let now ← ofTask Task.now
    let (more, state) ← steps step state rest
    return (.object (shown ++ [("t", .natural now)]) :: more, state)

end Reading

end Rehearsal

end Recovery
