import Recovery.Proofs.Cloud.Attempt
import Recovery.Proofs.Timed.Trail
import Recovery.Worker.Reach
/-!
# How a worker is searched for

Each candidate is resolved and its addresses are probed, up to the first address that accepts a
connection. The trail of a search tells at which candidate it ended, or was cut short.
-/
set_option autoImplicit false

namespace Recovery

namespace Reach

variable {Other : Interface}

/-- The addresses are probed in order up to the first that accepts; the last argument says whether
one does. -/
inductive Probes : List Address → List (Attempt (Cloud Other)) → Option Bool → Prop where
  | exhausted : Probes [] [] (some false)
  | accepted (address : Address) (addresses : List Address) :
    Probes (address :: addresses) [⟨CloudCall.probe address, some (.ok true)⟩] (some true)
  | refused (address : Address) (r : Except Fault Bool) {addresses : List Address}
      {attempts : List (Attempt (Cloud Other))} {accepts : Option Bool} :
    r ≠ .ok true → Probes addresses attempts accepts →
    Probes (address :: addresses) (⟨CloudCall.probe address, some r⟩ :: attempts) accepts
  | cut (address : Address) (addresses : List Address) :
    Probes (address :: addresses) [⟨CloudCall.probe address, none⟩] none

/-- A host is tried: it is resolved, and its addresses are probed. -/
inductive Tries (port : Nat) (host : String) :
    List (Attempt (Cloud Other)) → Option Bool → Prop where
  | unresolved (e : Fault) : Tries port host [⟨CloudCall.resolve host port, some (.error e)⟩]
      (some false)
  | resolved {addresses : List Address} {attempts : List (Attempt (Cloud Other))}
      {accepts : Option Bool} :
    Probes addresses attempts accepts →
    Tries port host (⟨CloudCall.resolve host port, some (.ok addresses)⟩ :: attempts) accepts
  | cut : Tries port host [⟨CloudCall.resolve host port, none⟩] none

/-- The hosts are tried in order up to the first that is reachable. -/
inductive Searches (port : Nat) :
    List String → List (Attempt (Cloud Other)) → Option (Option String) → Prop where
  | exhausted : Searches port [] [] (some none)
  | found {host : String} {hosts : List String} {attempts : List (Attempt (Cloud Other))} :
    Tries port host attempts (some true) → Searches port (host :: hosts) attempts (some (some host))
  | missed {host : String} {hosts : List String} {attempts later : List (Attempt (Cloud Other))}
      {found : Option (Option String)} :
    Tries port host attempts (some false) → Searches port hosts later found →
    Searches port (host :: hosts) (attempts ++ later) found
  | cut {host : String} {hosts : List String} {attempts : List (Attempt (Cloud Other))} :
    Tries port host attempts none → Searches port (host :: hosts) attempts none

/-- What a search reports that has come to its end. -/
def report (s : Service) (port : Nat) : Option String → Except Fault String
  | some host => .ok host
  | none =>
    .error (.notFound (Kind.service.title (s.metadata.namespace_.getD "") s.metadata.anyName)
      ("no address reachable on port " ++ toString port))

/-- The host of a service is searched for among its candidates. -/
inductive Finds (s : Service) (searchDomains : List String) (port : Nat) :
    List (Attempt (Cloud Other)) → Option (Except Fault String) → Prop where
  | ended {attempts : List (Attempt (Cloud Other))} {found : Option String} :
    Searches port (candidates s searchDomains) attempts (some found) →
    Finds s searchDomains port attempts (some (report s port found))
  | cut {attempts : List (Attempt (Cloud Other))} :
    Searches port (candidates s searchDomains) attempts none →
    Finds s searchDomains port attempts none

theorem anyAccepts_leaves (addresses : List Address) :
    (anyAccepts addresses : Task (Cloud Other) Bool).Leaves fun _ => Probes addresses := by
  induction addresses with
  | nil => exact Task.leaves_pure fun _ => .exhausted
  | cons address addresses ih =>
    refine Task.leaves_call_bind (fun r => ?_) fun _ => .cut address addresses
    match (r : Except Fault Bool) with
    | .ok true => exact Task.leaves_pure fun _ => .accepted address addresses
    | .ok false => exact ih.mono fun _ _ _ probes => .refused address _ nofun probes
    | .error e => exact ih.mono fun _ _ _ probes => .refused address _ nofun probes

theorem isReachable_leaves (port : Nat) (host : String) :
    (isReachable port host : Task (Cloud Other) Bool).Leaves fun _ => Tries port host := by
  refine Task.leaves_call_bind (fun r => ?_) fun _ => .cut
  cases r with
  | ok addresses => exact (anyAccepts_leaves addresses).mono fun _ _ _ probes => .resolved probes
  | error e => exact Task.leaves_pure fun _ => .unresolved e

theorem firstReachable_leaves (port : Nat) (hosts : List String) :
    (firstReachable port hosts : Task (Cloud Other) (Option String)).Leaves
      fun _ => Searches port hosts := by
  induction hosts with
  | nil => exact Task.leaves_pure fun _ => .exhausted
  | cons host hosts ih =>
    refine (isReachable_leaves port host).bind (fun _ reachable tried tries => ?_)
      (fun _ tried tries => .cut tries)
    cases reachable with
    | true =>
      refine Task.leaves_pure fun _ => ?_
      rw [List.append_nil]
      exact .found tries
    | false => exact ih.mono fun _ _ _ searches => .missed tries searches

theorem findHost_leaves (s : Service) (searchDomains : List String) (port : Nat) :
    (findHost s searchDomains port : Saga (Cloud Other) String).run.Leaves
      fun _ => Finds s searchDomains port := by
  have shape : (findHost s searchDomains port : Saga (Cloud Other) String).run =
      firstReachable port (candidates s searchDomains) >>= fun found =>
        pure (report s port found) := by
    show (firstReachable port (candidates s searchDomains) >>= fun a =>
      pure (Except.ok a)) >>= _ = _
    rw [bind_assoc]
    congr
    funext found
    cases found <;> rfl
  rw [shape]
  refine (firstReachable_leaves port _).bind (fun _ found attempts searches => ?_)
    (fun _ attempts searches => .cut searches)
  refine Task.leaves_pure fun _ => ?_
  rw [List.append_nil]
  exact .ended searches

/-! ## What a search asks for -/

def IsSearch (c : (Cloud Other).Call) : Prop :=
  match (c : CloudCall Other) with
  | .resolve _ _ => True
  | .probe _ => True
  | _ => False

section IsSearch

variable {addresses : List Address} {port : Nat} {host : String} {hosts : List String}
  {attempts : List (Attempt (Cloud Other))}

theorem Probes.isSearch {accepts : Option Bool} (h : Probes addresses attempts accepts) :
    ∀ a ∈ attempts, IsSearch a.call := by
  induction h with
  | exhausted => exact List.forall_mem_nil _
  | accepted address _ => exact List.forall_mem_singleton.mpr trivial
  | refused address _ _ _ ih => exact List.forall_mem_cons.mpr ⟨trivial, ih⟩
  | cut address _ => exact List.forall_mem_singleton.mpr trivial

theorem Tries.isSearch {accepts : Option Bool} (h : Tries port host attempts accepts) :
    ∀ a ∈ attempts, IsSearch a.call := by
  cases h with
  | unresolved _ => exact List.forall_mem_singleton.mpr trivial
  | resolved probes => exact List.forall_mem_cons.mpr ⟨trivial, probes.isSearch⟩
  | cut => exact List.forall_mem_singleton.mpr trivial

theorem Searches.isSearch {found : Option (Option String)}
    (h : Searches port hosts attempts found) : ∀ a ∈ attempts, IsSearch a.call := by
  induction h with
  | exhausted => exact List.forall_mem_nil _
  | found tries => exact tries.isSearch
  | missed tries _ ih => exact List.forall_mem_append.mpr ⟨tries.isSearch, ih⟩
  | cut tries => exact tries.isSearch

theorem Finds.isSearch {s : Service} {searchDomains : List String}
    {found : Option (Except Fault String)} (h : Finds s searchDomains port attempts found) :
    ∀ a ∈ attempts, IsSearch a.call := by
  cases h with
  | ended searches => exact searches.isSearch
  | cut searches => exact searches.isSearch

end IsSearch

end Reach

end Recovery
