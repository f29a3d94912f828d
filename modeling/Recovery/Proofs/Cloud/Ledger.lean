import Mathlib.Data.Multiset.AddSub
import Mathlib.Algebra.Order.Group.Multiset
import Recovery.Cloud.Part
import Recovery.Proofs.Fault
import Recovery.Proofs.Timed.Cleanup
/-!
# The ledger

What a run has made and what it has asked to be deleted, read off its record. The books are in
order if every object that was made is deleted once or still owed, no object is deleted before it
is made, and every failure of a deletion or of closing a client is cited by the faults at hand.
-/
set_option autoImplicit false

namespace Recovery

structure ObjectKey where
  kind : Kind
  ns : String
  name : String
deriving Repr, DecidableEq

variable {Other : Interface}

namespace Mark

/-- The object that was made, if the mark says that one was. -/
def made? : Mark (Cloud Other) → Option ObjectKey
  | .ended _ (.create ns object) (.ok _) => some ⟨object.kind, ns, object.name⟩
  | _ => none

/-- The object that is asked to be deleted. -/
def asked? : Mark (Cloud Other) → Option ObjectKey
  | .began ⟨_, .delete kind ns name⟩ => some ⟨kind, ns, name⟩
  | _ => none

/-- The object that was deleted. -/
def removed? : Mark (Cloud Other) → Option ObjectKey
  | .ended _ (.delete kind ns name) (.ok _) => some ⟨kind, ns, name⟩
  | _ => none

/-- The failure of a deletion or of closing a client. -/
def trouble? : Mark (Cloud Other) → Option Fault
  | .ended _ (.delete _ _ _) (.error fault) => some fault
  | .ended _ .closeClient (.error fault) => some fault
  | _ => none

end Mark

/-- Neither creates nor deletes an object and closes no client. -/
def CloudCall.Neutral : CloudCall Other → Prop
  | .create _ _ | .delete _ _ _ | .closeClient => False
  | _ => True

namespace Ledger

def made (ms : List (Mark (Cloud Other))) : Multiset ObjectKey := ms.filterMap Mark.made?

def asked (ms : List (Mark (Cloud Other))) : Multiset ObjectKey := ms.filterMap Mark.asked?

def removed (ms : List (Mark (Cloud Other))) : Multiset ObjectKey := ms.filterMap Mark.removed?

def troubles (ms : List (Mark (Cloud Other))) : List Fault := ms.filterMap Mark.trouble?

section Append

variable (ms added : List (Mark (Cloud Other)))

@[simp] theorem made_append : made (ms ++ added) = made ms + made added := by simp [made]

@[simp] theorem asked_append : asked (ms ++ added) = asked ms + asked added := by simp [asked]

@[simp] theorem removed_append : removed (ms ++ added) = removed ms + removed added := by
  simp [removed]

@[simp] theorem troubles_append : troubles (ms ++ added) = troubles ms ++ troubles added :=
  List.filterMap_append

theorem asked_mono {past ms : List (Mark (Cloud Other))} (h : past <+: ms) :
    asked past ≤ asked ms := by
  obtain ⟨rest, rfl⟩ := h
  rw [asked_append]
  exact Multiset.le_add_right _ _

end Append

/-- A mark that the ledger takes no notice of. -/
theorem unnoticed {m : Mark (Cloud Other)} (h : CloudCall.Neutral m.call) :
    m.made? = none ∧ m.asked? = none ∧ m.removed? = none ∧ m.trouble? = none := by
  match m, h with
  | .began ⟨_, call⟩, h => cases call <;> first | exact h.elim | exact ⟨rfl, rfl, rfl, rfl⟩
  | .ended _ call _, h => cases call <;> first | exact h.elim | exact ⟨rfl, rfl, rfl, rfl⟩

/-- Every object that was made has been asked to be deleted once or is owed, none was asked for
before it was made, and every trouble is told of. -/
structure Books (owed : Multiset ObjectKey) (told : List Fault) (ms : List (Mark (Cloud Other))) :
    Prop where
  balance : made ms = asked ms + owed
  ordered : ∀ past, past <+: ms → asked past ≤ made past
  cited : ∀ e ∈ troubles ms, ∃ f ∈ told, f.Cites e
  clean : told = [] → asked ms = removed ms

namespace Books

variable {owed owed' : Multiset ObjectKey} {told told' : List Fault}
  {ms added : List (Mark (Cloud Other))}

theorem nil : Books 0 [] ([] : List (Mark (Cloud Other))) where
  balance := rfl
  ordered past h := by simp [List.prefix_nil.mp h, asked, made]
  cited e h := by cases h
  clean _ := rfl

/-- More marks keep the books in order if they balance against what is owed. -/
theorem append (h : Books owed told ms) (covers : Fault.Covers told told')
    (balance : owed + made added = asked added + owed')
    (ordered : ∀ past, past <+: added → asked past ≤ owed + made past)
    (cited : ∀ e ∈ troubles added, ∃ f ∈ told', f.Cites e)
    (clean : told' = [] → asked added = removed added) : Books owed' told' (ms ++ added) where
  balance := by
    rw [made_append, asked_append, h.balance, add_assoc, balance, add_assoc]
  ordered past hp := by
    rcases List.prefix_or_prefix_of_prefix hp (List.prefix_append ms added) with hp | ⟨past, rfl⟩
    · exact h.ordered past hp
    · rw [made_append, asked_append, h.balance, add_assoc]
      exact add_le_add_right (ordered past ((List.prefix_append_right_inj ms).mp hp)) _
  cited e he := by
    rw [troubles_append] at he
    rcases List.mem_append.mp he with he | he
    · obtain ⟨f, hf, cites⟩ := h.cited e he
      obtain ⟨f', hf', cites'⟩ := covers f hf
      exact ⟨f', hf', cites' e cites⟩
    · exact cited e he
  clean silent := by
    subst silent
    rw [asked_append, removed_append, h.clean covers.eq_nil, clean rfl]

/-- The same faults may be told in another way. -/
theorem retell (h : Books owed told ms) (covers : Fault.Covers told told') :
    Books owed told' ms := by
  rw [← List.append_nil ms]
  refine h.append covers (by simp [made, asked]) (fun past hp => ?_) (by simp [troubles])
    fun _ => rfl
  rw [List.prefix_nil.mp hp]
  exact Multiset.zero_le _

/-- The ledger takes no notice of neutral calls. -/
theorem neutral (h : Books owed told ms) (neutral : ∀ m ∈ added, CloudCall.Neutral m.call) :
    Books owed told (ms ++ added) := by
  have none : ∀ m ∈ added, m.made? = none ∧ m.asked? = none ∧ m.removed? = none ∧
      m.trouble? = none := fun m hm => unnoticed (neutral m hm)
  have made_added : made added = 0 :=
    congrArg _ (List.filterMap_eq_nil_iff.mpr fun m hm => (none m hm).1)
  have asked_added : asked added = 0 :=
    congrArg _ (List.filterMap_eq_nil_iff.mpr fun m hm => (none m hm).2.1)
  have removed_added : removed added = 0 :=
    congrArg _ (List.filterMap_eq_nil_iff.mpr fun m hm => (none m hm).2.2.1)
  have troubles_added : troubles added = [] :=
    List.filterMap_eq_nil_iff.mpr fun m hm => (none m hm).2.2.2
  refine h.append (.refl told) (by rw [made_added, asked_added, add_comm]) (fun past hp => ?_)
    (by simp [troubles_added]) fun _ => by rw [asked_added, removed_added]
  calc asked past ≤ asked added := asked_mono hp
    _ = 0 := asked_added
    _ ≤ owed + made past := Multiset.zero_le _

/-- An object that has been made is owed. -/
theorem create (h : Books owed told ms) (ns : String) (object : Object) (r : Except Fault Unit)
    (begun ended : Nat) :
    Books ((if r.isOk then {⟨object.kind, ns, object.name⟩} else 0) + owed) told
      (ms ++ ([.began ⟨begun, .create ns object⟩, .ended ended (.create ns object) r] :
        List (Mark (Cloud Other)))) := by
  have made_added : made ([.began ⟨begun, .create ns object⟩,
      .ended ended (.create ns object) r] : List (Mark (Cloud Other))) =
      if r.isOk then {⟨object.kind, ns, object.name⟩} else 0 := by
    cases r <;> rfl
  have asked_added : asked ([.began ⟨begun, .create ns object⟩,
      .ended ended (.create ns object) r] : List (Mark (Cloud Other))) = 0 := rfl
  refine h.append (.refl told) ?_ (fun past hp => ?_) ?_ fun _ => ?_
  · rw [made_added, asked_added, zero_add, add_comm]
  · calc asked past ≤ 0 := asked_added ▸ asked_mono hp
      _ ≤ owed + made past := Multiset.zero_le _
  · cases r <;> exact fun e he => by cases he
  · cases r <;> rfl

/-- An object that is owed may be asked to be deleted. -/
theorem ask {key : ObjectKey} (h : Books ({key} + owed) told ms)
    (covers : Fault.Covers told told') (made_added : made added = 0)
    (asked_added : asked added = {key}) (cited : ∀ e ∈ troubles added, ∃ f ∈ told', f.Cites e)
    (clean : told' = [] → removed added = {key}) : Books owed told' (ms ++ added) := by
  refine h.append covers ?_ (fun past hp => ?_) cited fun silent => ?_
  · rw [made_added, asked_added, add_zero]
  · calc asked past ≤ {key} := asked_added ▸ asked_mono hp
      _ ≤ {key} + owed := Multiset.le_add_right _ _
      _ ≤ {key} + owed + made past := Multiset.le_add_right _ _
  · rw [asked_added, clean silent]

theorem delete {key : ObjectKey} (h : Books ({key} + owed) told ms)
    (covers : Fault.Covers told told') (r : Except Fault Unit)
    (cited : ∀ e, r = .error e → ∃ f ∈ told', f.Cites e) (begun ended : Nat) :
    Books owed told' (ms ++ ([.began ⟨begun, .delete key.kind key.ns key.name⟩,
      .ended ended (.delete key.kind key.ns key.name) r] : List (Mark (Cloud Other)))) := by
  cases r with
  | ok _ => exact h.ask covers rfl rfl (fun e he => by cases he) fun _ => rfl
  | error e =>
    refine h.ask covers rfl rfl (fun e' he => ?_) fun silent => ?_
    · obtain rfl := List.mem_singleton.mp he
      exact cited e' rfl
    · obtain ⟨f, hf, _⟩ := cited e rfl
      rw [silent] at hf
      cases hf

/-- A deletion that is cut short counts as asked for. -/
theorem delete_cut {key : ObjectKey} (h : Books ({key} + owed) told ms)
    (covers : Fault.Covers told told') (spoken : told' ≠ []) (begun : Nat) :
    Books owed told' (ms ++ ([.began ⟨begun, .delete key.kind key.ns key.name⟩] :
      List (Mark (Cloud Other)))) :=
  h.ask covers rfl rfl (fun e he => by cases he) fun silent => absurd silent spoken

theorem close (h : Books owed told ms) (covers : Fault.Covers told told') (r : Except Fault Unit)
    (cited : ∀ e, r = .error e → ∃ f ∈ told', f.Cites e) (begun ended : Nat) :
    Books owed told' (ms ++ ([.began ⟨begun, .closeClient⟩, .ended ended .closeClient r] :
      List (Mark (Cloud Other)))) := by
  refine h.append covers ?_ (fun past hp => ?_) (fun e he => ?_) fun _ => ?_
  · cases r <;> exact (add_zero owed).trans (zero_add owed).symm
  · calc asked past ≤ 0 := asked_mono hp
      _ ≤ owed + made past := Multiset.zero_le _
  · cases r with
    | ok _ => cases he
    | error e' =>
      obtain rfl := List.mem_singleton.mp he
      exact cited e rfl
  · cases r <;> rfl

theorem close_cut (h : Books owed told ms) (covers : Fault.Covers told told') (begun : Nat) :
    Books owed told' (ms ++ ([.began ⟨begun, .closeClient⟩] : List (Mark (Cloud Other)))) := by
  refine h.append covers ((add_zero owed).trans (zero_add owed).symm) (fun past hp => ?_)
    (fun e he => by cases he) fun _ => rfl
  calc asked past ≤ 0 := asked_mono hp
    _ ≤ owed + made past := Multiset.zero_le _

end Books

end Ledger

/-- The books of a run that began with `base` on record. -/
structure Account (script : Script (Cloud Other)) (base : List (Mark (Cloud Other)))
    (owed : Multiset ObjectKey) (told : List Fault) (w : World (Cloud Other)) : Prop where
  rooted : script.root < w.clock.fresh
  books : ∃ ms, w.marks = base ++ ms ∧ Ledger.Books owed told ms

namespace Account

variable {script : Script (Cloud Other)} {base added : List (Mark (Cloud Other))}
  {owed owed' : Multiset ObjectKey} {told told' : List Fault} {w w' : World (Cloud Other)}

theorem adds (a : Account script base owed told w) (adds : w.Adds script added w')
    (books : ∀ ms, Ledger.Books owed told ms → Ledger.Books owed' told' (ms ++ added)) :
    Account script base owed' told' w' := by
  obtain ⟨ms, marks, h⟩ := a.books
  refine ⟨Nat.lt_of_lt_of_le a.rooted adds.fresh_le, ms ++ added, ?_, books ms h⟩
  rw [adds.marks, marks, List.append_assoc]

theorem retell (a : Account script base owed told w) (covers : Fault.Covers told told') :
    Account script base owed told' w := by
  obtain ⟨ms, marks, h⟩ := a.books
  exact ⟨a.rooted, ms, marks, h.retell covers⟩

/-- A task that makes neutral calls only leaves the books as they are. -/
theorem neutral {α : Type} {task : Task (Cloud Other) α} {guards : List Guard} {r : α}
    (a : Account script base owed told w) (only : Task.Only CloudCall.Neutral task)
    (h : task script guards w = .done r w') : Account script base owed told w' := by
  obtain ⟨added, adds, only⟩ := only.done h
  exact a.adds adds fun ms books => books.neutral only

end Account

end Recovery
