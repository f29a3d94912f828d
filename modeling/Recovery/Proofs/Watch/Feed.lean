import Recovery.Watch.Wait
/-!
# Feeds as they are seen

What a waiter sees of a feed ends with the feed or with the first error in it. Objects that were
added or modified are looked at; deletions and bookmarks are passed over.
-/
set_option autoImplicit false

namespace Recovery

variable {α : Type}

namespace Feed

/-- The version that was seen last, given the one seen before the feed. -/
def lastSeen [Resource α] (version : String) : List (Delivery α) → String
  | [] => version
  | ⟨_, .ok (.added object)⟩ :: rest | ⟨_, .ok (.modified object)⟩ :: rest =>
    lastSeen ((Resource.metadata object).resourceVersion.getD version) rest
  | ⟨_, .ok (.deleted _)⟩ :: rest => lastSeen version rest
  | ⟨_, .ok (.bookmark seen)⟩ :: rest => lastSeen seen rest
  | ⟨_, .ok (.error _)⟩ :: _ | ⟨_, .error _⟩ :: _ => version

/-- The objects that were added or modified. -/
def objects : List (Delivery α) → List α
  | [] => []
  | ⟨_, .ok (.added object)⟩ :: rest | ⟨_, .ok (.modified object)⟩ :: rest =>
    object :: objects rest
  | ⟨_, .ok (.deleted _)⟩ :: rest | ⟨_, .ok (.bookmark _)⟩ :: rest => objects rest
  | ⟨_, .ok (.error _)⟩ :: _ | ⟨_, .error _⟩ :: _ => []

/-- The feed ends because the version it has come to is no longer kept. -/
def expires : List (Delivery α) → Bool
  | [] => false
  | ⟨_, .ok (.error status)⟩ :: _ => status.code == goneCode
  | ⟨_, .ok _⟩ :: rest => expires rest
  | ⟨_, .error _⟩ :: _ => false

/-- What the waiter fails with, unless an object comes before. -/
def failure (what : String) : List (Delivery α) → Option Fault
  | [] => none
  | ⟨_, .ok (.added _)⟩ :: _ | ⟨_, .ok (.modified _)⟩ :: _ => none
  | ⟨_, .ok (.deleted _)⟩ :: rest | ⟨_, .ok (.bookmark _)⟩ :: rest => failure what rest
  | ⟨_, .ok (.error status)⟩ :: _ =>
    if status.code = goneCode then none else some (Source.watchFailed what status)
  | ⟨_, .error fault⟩ :: _ => if fault.isInterrupted then none else some fault

/-- What comes after the next object. -/
def afterObject : List (Delivery α) → List (Delivery α)
  | [] => []
  | ⟨_, .ok (.added _)⟩ :: rest | ⟨_, .ok (.modified _)⟩ :: rest => rest
  | ⟨_, .ok (.deleted _)⟩ :: rest | ⟨_, .ok (.bookmark _)⟩ :: rest => afterObject rest
  | ⟨_, .ok (.error _)⟩ :: _ | ⟨_, .error _⟩ :: _ => []

/-- How long it takes until there is an object to be looked at, or until the next list or watch. -/
def quiet (ends : Option Nat) : List (Delivery α) → Option Nat
  | [] => ends.map (· + Source.reopenDelay)
  | ⟨delay, .ok (.added _)⟩ :: _ | ⟨delay, .ok (.modified _)⟩ :: _ => some delay
  | ⟨delay, .ok (.deleted _)⟩ :: rest | ⟨delay, .ok (.bookmark _)⟩ :: rest =>
    (quiet ends rest).map (delay + ·)
  | ⟨delay, .ok (.error _)⟩ :: _ => some delay
  | ⟨delay, .error _⟩ :: _ => some (delay + Source.reopenDelay)

theorem le_quiet {ends : Option Nat} {delivery : Delivery α} {rest : List (Delivery α)} {q : Nat}
    (h : quiet ends (delivery :: rest) = some q) : delivery.delay ≤ q := by
  obtain ⟨delay, event⟩ := delivery
  match event with
  | .ok (.added _) | .ok (.modified _) | .ok (.error _) =>
    cases h
    exact Nat.le_refl _
  | .ok (.deleted _) | .ok (.bookmark _) =>
    obtain ⟨later, -, rfl⟩ := Option.map_eq_some_iff.mp h
    exact Nat.le_add_right delay later
  | .error _ =>
    cases h
    exact Nat.le_add_right delay _

/-- After this time the rest of a feed is left, and nothing was to be looked at. -/
inductive Passes (whole : List (Delivery α)) : Nat → List (Delivery α) → Prop where
  | refl : Passes whole 0 whole
  | deleted {spent delay : Nat} {object : α} {rest : List (Delivery α)} :
    Passes whole spent (⟨delay, .ok (.deleted object)⟩ :: rest) →
    Passes whole (spent + delay) rest
  | bookmark {spent delay : Nat} {version : String} {rest : List (Delivery α)} :
    Passes whole spent (⟨delay, .ok (.bookmark version)⟩ :: rest) →
    Passes whole (spent + delay) rest

namespace Passes

variable {whole rest : List (Delivery α)} {spent : Nat}

theorem failure_eq (h : Passes whole spent rest) (what : String) :
    failure what whole = failure what rest := by
  induction h with
  | refl => rfl
  | deleted _ ih | bookmark _ ih => exact ih

theorem afterObject_eq (h : Passes whole spent rest) : afterObject whole = afterObject rest := by
  induction h with
  | refl => rfl
  | deleted _ ih | bookmark _ ih => exact ih

theorem quiet_eq (h : Passes whole spent rest) (ends : Option Nat) :
    quiet ends whole = (quiet ends rest).map (spent + ·) := by
  induction h with
  | refl =>
    simp only [Nat.zero_add]
    exact Option.map_id'.symm
  | deleted _ ih | bookmark _ ih =>
    rw [ih, quiet, Option.map_map]
    simp only [Function.comp_def, Nat.add_assoc]

end Passes

end Feed

end Recovery
