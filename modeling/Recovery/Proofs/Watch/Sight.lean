import Recovery.Proofs.Timed.Law
import Recovery.Proofs.Watch.Feed
/-!
# What a waiter sees

The calls of a waiter and what it knows from them: the version seen last, what it was given to look
at and what of that it has looked at. From this follows which call may come next, how long the
waiter may rest before it, and whether there is an answer already.
-/
set_option autoImplicit false

namespace Recovery

variable {α β : Type}

/-! ## What a waiter calls -/

inductive WaitCall (α : Type) where
  | list (name : String)
  | watch (name version : String) (timeout : Nat)
  | look (object : α)

def WaitCall.Reply (β : Type) : WaitCall α → Type
  | .list _ => Listed α
  | .watch _ _ _ => Feed α
  | .look _ => Option β

/-- The calls of a waiter for an object of type `α` in which a value of type `β` is to be found. -/
def Waiting (α β : Type) : Interface := ⟨WaitCall α, WaitCall.Reply β⟩

namespace Waiting

def source (rounds : Nat) : Source (Waiting α β) α where
  list name := @Saga.call (Waiting α β) (.list name)
  watch name version timeout := @Saga.call (Waiting α β) (.watch name version timeout)
  rounds := rounds

def look (object : α) : Saga (Waiting α β) (Option β) := @Saga.call (Waiting α β) (.look object)

/-- The call is one of the lists and watches that a source answers in turn. -/
def asks (a : Attempt (Waiting α β)) : Bool :=
  match a.call with
  | .list _ | .watch _ _ _ => true
  | .look _ => false

def asked (attempts : List (Attempt (Waiting α β))) : Nat := attempts.countP asks

theorem asked_append (past : List (Attempt (Waiting α β))) (a : Attempt (Waiting α β)) :
    asked (past ++ [a]) = asked past + if asks a then 1 else 0 := by
  rw [asked, List.countP_append, List.countP_singleton]
  rfl

end Waiting

/-! ## What a waiter has seen -/

/-- What is known after some attempts, as far as it goes back to the last list. -/
structure Sight (α : Type) where
  /-- The version of the list. -/
  listed : Option String
  /-- The version seen last, in the list, an added or modified object or a bookmark. -/
  version : Option String
  /-- The version seen last is no longer kept. -/
  expired : Bool
  /-- What was listed, added or modified. -/
  delivered : List α
  looked : List α
  /-- What is still to come out of the last watch. -/
  coming : Option (Feed α)
  /-- The last call was not answered. -/
  pending : Bool

namespace Sight

def nothing : Sight α := ⟨none, none, false, [], [], none, false⟩

def ofListed (listed : Listed α) : Sight α :=
  ⟨some listed.version, some listed.version, false, listed.items, [], none, false⟩

/-- How long it may take until the next call. -/
def patience (s : Sight α) : Option Nat :=
  if s.pending then none
  else s.coming.elim (some 0) fun feed => Feed.quiet feed.ends feed.deliveries

variable [Resource α]

def after (s : Sight α) : Attempt (Waiting α β) → Sight α
  | ⟨.list _, some (.ok listed)⟩ => ofListed listed
  | ⟨.list _, some (.error _)⟩ => nothing
  | ⟨.list _, none⟩ => { (nothing : Sight α) with pending := true }
  | ⟨.watch _ _ _, some (.ok feed)⟩ =>
    { s with
      version := s.version.map (Feed.lastSeen · feed.deliveries)
      expired := Feed.expires feed.deliveries
      delivered := s.delivered ++ Feed.objects feed.deliveries
      coming := some feed
      pending := false }
  | ⟨.watch _ _ _, some (.error fault)⟩ =>
    { s with expired := fault.isGone, coming := none, pending := false }
  | ⟨.watch _ _ _, none⟩ => { s with pending := true }
  | ⟨.look object, result⟩ =>
    { s with
      looked := s.looked ++ [object]
      coming := s.coming.map fun feed =>
        { feed with deliveries := Feed.afterObject feed.deliveries }
      pending := result.isNone }

def of (attempts : List (Attempt (Waiting α β))) : Sight α := attempts.foldl after nothing

@[simp] theorem of_append (past : List (Attempt (Waiting α β))) (a : Attempt (Waiting α β)) :
    of (past ++ [a]) = (of past).after a := by
  rw [of, List.foldl_append]
  rfl

theorem patience_cut (s : Sight α) (c : WaitCall α) :
    (s.after (⟨c, none⟩ : Attempt (Waiting α β))).patience = none := by
  cases c <;> rfl

end Sight

namespace Waiting

variable [Resource α]

/-- A list is due at the start and when the version has expired, a watch otherwise, from the version
seen last; either comes only when all that was delivered has been looked at, which is looked at in
order. -/
def Permits (name : String) (past : List (Attempt (Waiting α β))) : WaitCall α → Prop
  | .list name' =>
    name' = name ∧ (past = [] ∨ (Sight.of past).expired = true) ∧
      (Sight.of past).looked = (Sight.of past).delivered
  | .watch name' version _ =>
    name' = name ∧ (Sight.of past).version = some version ∧ (Sight.of past).expired = false ∧
      (Sight.of past).looked = (Sight.of past).delivered
  | .look object => (Sight.of past).looked ++ [object] <+: (Sight.of past).delivered

inductive Lawful (name : String) : List (Attempt (Waiting α β)) → Prop where
  | nil : Lawful name []
  | snoc {past : List (Attempt (Waiting α β))} (a : Attempt (Waiting α β)) :
    Lawful name past → Permits name past a.call → Lawful name (past ++ [a])

theorem Lawful.of_isPrefix {name : String} {past attempts : List (Attempt (Waiting α β))}
    (lawful : Lawful name attempts) (earlier : past <+: attempts) : Lawful name past := by
  induction lawful with
  | nil =>
    rw [List.prefix_nil.mp earlier]
    exact .nil
  | @snoc before a lawful permitted ih =>
    rcases List.prefix_concat_iff.mp earlier with rfl | earlier
    · exact .snoc a lawful permitted
    · exact ih earlier

/-- The next call is not late: the waiter has rested no longer than it may. -/
def Prompt : Law (Waiting α β) := fun past rested =>
  ∀ q, (Sight.of past).patience = some q → rested ≤ q

/-! ## Answers -/

/-- What the answer to a call decides, if anything. -/
def decision (what : String) : Attempt (Waiting α β) → Option (Except Fault β)
  | ⟨.list _, some (.ok ⟨_ :: _ :: more, _⟩)⟩ =>
    some (.error (Source.ambiguous what (more.length + 2)))
  | ⟨.list _, some (.error fault)⟩ => some (.error fault)
  | ⟨.watch _ _ _, some (.error fault)⟩ => if fault.isGone then none else some (.error fault)
  | ⟨.look _, some (.ok (some value))⟩ => some (.ok value)
  | ⟨.look _, some (.error fault)⟩ => some (.error fault)
  | _ => none

/-- The last call has brought about a result, or the watch brings it before anything else that is to
be looked at. -/
inductive Decides (what : String) (attempts : List (Attempt (Waiting α β))) :
    Except Fault β → Prop where
  | last {past : List (Attempt (Waiting α β))} {a : Attempt (Waiting α β)} {r : Except Fault β} :
    attempts = past ++ [a] → decision what a = some r → Decides what attempts r
  | broken {feed : Feed α} {fault : Fault} :
    (Sight.of attempts).coming = some feed → Feed.failure what feed.deliveries = some fault →
    Decides what attempts (.error fault)

end Waiting

end Recovery
