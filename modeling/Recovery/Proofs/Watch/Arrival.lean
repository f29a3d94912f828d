import Recovery.Proofs.Timed.Forecast
import Recovery.Proofs.Watch.Sight
/-!
# What reaches a waiter

A server answers one list after another and one watch after another. What reaches a waiter comes
out of these in a fixed order, and the first of it that is decisive is the waiter's verdict.
-/
set_option autoImplicit false

namespace Recovery

variable {α β : Type}

/-! ## Questions -/

/-- What a waiter asks, whatever the name, the version and the time it has left. -/
inductive Ask (α : Type) where
  | list
  | watch
  | look (object : α)

namespace Ask

def isList : Ask α → Bool
  | .list => true
  | _ => false

def isWatch : Ask α → Bool
  | .watch => true
  | _ => false

def object? : Ask α → Option α
  | .look object => some object
  | _ => none

def lists (past : List (Ask α)) : Nat := past.countP isList

def watches (past : List (Ask α)) : Nat := past.countP isWatch

def looked (past : List (Ask α)) : List α := past.filterMap object?

variable (past later : List (Ask α)) (object : α)

@[simp] theorem lists_append : lists (past ++ later) = lists past + lists later :=
  List.countP_append

@[simp] theorem watches_append : watches (past ++ later) = watches past + watches later :=
  List.countP_append

@[simp] theorem looked_append : looked (past ++ later) = looked past ++ looked later :=
  List.filterMap_append

end Ask

def Waiting.ask : (Waiting α β).Call → Ask α
  | WaitCall.list _ => .list
  | WaitCall.watch _ _ _ => .watch
  | WaitCall.look object => .look object

/-- What a server and a predicate answer, one question after another. -/
structure Sessions (α β : Type) where
  list : Nat → Outcome (Listed α)
  watch : Nat → Outcome (Feed α)
  /-- It may depend on what the predicate was evaluated on before. -/
  look : (before : List α) → (object : α) → Except Fault (Option β)

/-- The predicate takes no time. -/
def Sessions.script (s : Sessions α β) (root : Token) : Script (Waiting α β) where
  root := root
  answer history
    | .list _ => s.list (Ask.lists (history.map Waiting.ask))
    | .watch _ _ _ => s.watch (Ask.watches (history.map Waiting.ask))
    | .look object => .immediate (s.look (Ask.looked (history.map Waiting.ask)) object)

/-! ## Arrivals -/

inductive Arrival (α : Type) where
  | listed (answer : Except Fault (List α))
  | opened (answer : Except Fault Unit)
  | event (event : WatchEvent α)
  | broken (fault : Fault)
  | ended
  /-- There is no answer to this. -/
  | silence (asked : Ask α)

namespace Arrival

/-- What the predicate is evaluated on. -/
def object? : Arrival α → Option α
  | .listed (.ok [item]) => some item
  | .event (.added object) | .event (.modified object) => some object
  | _ => none

/-- What the wait fails with, whatever the predicate. -/
def failure? (what : String) : Arrival α → Option Fault
  | .listed (.error fault) => some fault
  | .listed (.ok (_ :: _ :: more)) => some (Source.ambiguous what (more.length + 2))
  | .opened (.error fault) => if fault.isGone then none else some fault
  | .event (.error status) =>
    if status.code = goneCode then none else some (Source.watchFailed what status)
  | .broken fault => if fault.isInterrupted then none else some fault
  | _ => none

/-- The question that it answers, if it is not part of an answer. -/
def answers : Arrival α → Option (Ask α)
  | .listed _ => some .list
  | .opened _ => some .watch
  | .silence asked => some asked
  | .event _ | .broken _ | .ended => none

/-- All that is asked for it and about it. -/
def asks (a : Arrival α) : List (Ask α) := a.answers.toList ++ (a.object?.map Ask.look).toList

variable {a : Arrival α}

theorem asks_of_unseen (h : a.object? = none) : a.asks = a.answers.toList := by
  rw [asks, h]
  exact List.append_nil _

theorem asks_of_seen {object : α} (h : a.object? = some object) :
    a.asks = a.answers.toList ++ [.look object] := by
  rw [asks, h]
  rfl

theorem looked_asks (unlooked : Ask.looked a.answers.toList = []) :
    Ask.looked a.asks = a.object?.toList := by
  rw [asks, Ask.looked_append, unlooked, List.nil_append]
  cases a.object? <;> rfl

end Arrival

/-- What comes out of a watch, and what comes next: the next list if the version is no longer kept,
the next watch otherwise. -/
def Feed.arrivals (ends : Option Nat) (next : (relists : Bool) → List (Arrival α)) :
    List (Delivery α) → List (Arrival α)
  | [] => if ends.isSome then .ended :: next false else []
  | ⟨_, .error fault⟩ :: _ => .broken fault :: next false
  | ⟨_, .ok (.error status)⟩ :: _ => .event (.error status) :: next true
  | ⟨_, .ok event⟩ :: rest => .event event :: arrivals ends next rest

namespace Sessions

variable (s : Sessions α β)

/-- All that may reach a waiter after so many lists and watches, in the order of its delivery. -/
def arrivals : (rounds lists watches : Nat) → (relists : Bool) → List (Arrival α)
  | 0, _, _, _ => []
  | rounds + 1, lists, watches, true =>
    match (s.list lists).ending with
    | none => [.silence .list]
    | some answer =>
      .listed (answer.map Listed.items) :: arrivals rounds (lists + 1) watches false
  | rounds + 1, lists, watches, false =>
    match (s.watch watches).ending with
    | none => [.silence .watch]
    | some (.error fault) =>
      .opened (.error fault) :: arrivals rounds lists (watches + 1) fault.isGone
    | some (.ok feed) =>
      .opened (.ok ()) ::
        Feed.arrivals feed.ends (arrivals rounds lists (watches + 1)) feed.deliveries

/-- What the predicate makes of an object, none if it is to be waited for. -/
def judgement (before : List α) (object : α) : Option (Except Fault β) :=
  match s.look before object with
  | .ok value => value.map .ok
  | .error fault => some (.error fault)

/-- What an arrival decides, if anything, after the predicate was evaluated on these objects. -/
def decision (what : String) (before : List α) (a : Arrival α) : Option (Except Fault β) :=
  ((a.failure? what).map .error).or (a.object?.bind (s.judgement before))

/-- What the first decisive arrival decides. -/
def verdict (what : String) (before : List α) : List (Arrival α) → Option (Except Fault β)
  | [] => none
  | a :: rest => (s.decision what before a).or (verdict what (before ++ a.object?.toList) rest)

/-- What arrives up to the first decisive arrival. -/
def heard (what : String) (before : List α) : List (Arrival α) → List (Arrival α)
  | [] => []
  | a :: rest =>
    a :: if (s.decision what before a).isSome then []
      else heard what (before ++ a.object?.toList) rest

/-- All that a wait asks with a source that answers so many lists and watches. -/
def asks (what : String) (rounds : Nat) : List (Ask α) :=
  (s.heard what [] (s.arrivals rounds 0 0 true)).flatMap Arrival.asks

/-- What such a wait ends with, none if nothing is decisive. -/
def answer (what : String) (rounds : Nat) : Option (Except Fault β) :=
  s.verdict what [] (s.arrivals rounds 0 0 true)

variable {s} {what : String} {before : List α} {a : Arrival α} {rest : List (Arrival α)}
  {r : Except Fault β}

theorem verdict_of_decision (h : s.decision what before a = some r) :
    s.verdict what before (a :: rest) = some r := by
  rw [verdict, h]
  rfl

theorem heard_of_decision (h : s.decision what before a = some r) :
    s.heard what before (a :: rest) = [a] := by
  rw [heard, h]
  rfl

theorem verdict_of_undecided (h : s.decision what before a = none) :
    s.verdict what before (a :: rest) = s.verdict what (before ++ a.object?.toList) rest := by
  rw [verdict, h]
  rfl

theorem heard_of_undecided (h : s.decision what before a = none) :
    s.heard what before (a :: rest) =
      a :: s.heard what (before ++ a.object?.toList) rest := by
  rw [heard, h]
  rfl

/-- When the first list is decisive, it is all that is asked for. -/
theorem watch_not_mem_asks {answer : Except Fault (Listed α)}
    (listed : (s.list 0).ending = some answer)
    (decisive : s.decision what [] (.listed (answer.map Listed.items)) = some r) (rounds : Nat) :
    .watch ∉ s.asks what rounds := by
  cases rounds with
  | zero => exact List.not_mem_nil
  | succ rounds =>
    rw [asks, arrivals, listed, heard_of_decision decisive, List.flatMap_singleton, Arrival.asks]
    cases Arrival.object? (.listed (answer.map Listed.items)) <;> simp [Arrival.answers]

end Sessions

end Recovery
