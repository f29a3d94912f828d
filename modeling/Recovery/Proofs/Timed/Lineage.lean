import Mathlib.Order.Bounds.Basic
import Recovery.Timed.Scope
/-!
# Lineages of scopes

Scopes are made one after another, each by itself or from one that is there already, and any of
them may be cancelled at any time. Whatever is done, a scope ends by the earliest of the times that
it and its ancestors were given, and it is cancelled just if it or one of its ancestors was.
-/
set_option autoImplicit false

namespace Recovery

namespace Scope

/-- What is done about scopes. One that is there already goes by its place in the order in which
they were made. -/
inductive Deed where
  | background
  | detached (milliseconds : Nat)
  | withTimeout (parent milliseconds : Nat)
  | child (parent : Nat)
  | cancel (scope : Nat)
deriving Repr, DecidableEq

/-- Where a scope comes from: the scope that it was derived from, if it was, and the end of the time
that it was given then. -/
structure Origin where
  parent : Option Nat
  bound : Option Nat
deriving Repr, DecidableEq

namespace Deed

/-- The scope that is derived from or cancelled. -/
def subject? : Deed → Option Nat
  | .background | .detached _ => none
  | .withTimeout parent _ | .child parent => some parent
  | .cancel scope => some scope

def origin? (instant : Nat) : Deed → Option Origin
  | .background => some ⟨none, none⟩
  | .detached milliseconds => some ⟨none, some (instant + milliseconds)⟩
  | .withTimeout parent milliseconds => some ⟨some parent, some (instant + milliseconds)⟩
  | .child parent => some ⟨some parent, none⟩
  | .cancel _ => none

end Deed

/-- What is done at which instants. -/
abbrev Chronicle := List (Nat × Deed)

namespace Chronicle

/-- Where the scopes come from, in the order in which they were made. -/
def origins (chronicle : Chronicle) : List Origin :=
  chronicle.filterMap fun (instant, deed) => deed.origin? instant

def Cancels (chronicle : Chronicle) (scope : Nat) : Prop :=
  ∃ instant, (instant, .cancel scope) ∈ chronicle

/-- From an instant on and with so many scopes made, time does not run back and nothing is done to a
scope before it has been made. -/
def Orderly : (now made : Nat) → Chronicle → Prop
  | _, _, [] => True
  | now, made, (instant, deed) :: later =>
    now ≤ instant ∧ (∀ i ∈ deed.subject?, i < made) ∧
      Orderly instant (made + (deed.origin? instant).toList.length) later

def Orderly.decide : (now made : Nat) → (chronicle : Chronicle) →
    Decidable (chronicle.Orderly now made)
  | _, _, [] => .isTrue trivial
  | now, made, (instant, deed) :: later =>
    have := Orderly.decide instant (made + (deed.origin? instant).toList.length) later
    inferInstanceAs (Decidable (now ≤ instant ∧ (∀ i ∈ deed.subject?, i < made) ∧ _))

instance (now made : Nat) (chronicle : Chronicle) : Decidable (chronicle.Orderly now made) :=
  Orderly.decide now made chronicle

section Concat

variable {past : Chronicle} {instant : Nat} {deed : Deed}

theorem origins_concat :
    origins (past ++ [(instant, deed)]) = origins past ++ (deed.origin? instant).toList := by
  rw [origins, List.filterMap_append]
  cases made : deed.origin? instant <;> simp [made, origins]

theorem cancels_concat {scope : Nat} :
    Cancels (past ++ [(instant, deed)]) scope ↔ past.Cancels scope ∨ deed = .cancel scope := by
  simp only [Cancels, List.mem_append, List.mem_singleton, Prod.mk.injEq, exists_or]
  refine or_congr_right ⟨?_, ?_⟩
  · rintro ⟨_, -, same⟩
    exact same.symm
  · rintro rfl
    exact ⟨instant, rfl, rfl⟩

end Concat

end Chronicle

/-- What has been made is an old one or the new one, which comes last. -/
theorem getElem?_concat {α : Type} {made : List α} {new a : α} {i : Nat}
    (found : (made ++ [new])[i]? = some a) : made[i]? = some a ∨ i = made.length ∧ a = new := by
  rcases Nat.lt_or_ge i made.length with old | late
  · exact .inl (List.getElem?_append_left old ▸ found)
  · rw [List.getElem?_append_right late, List.getElem?_singleton] at found
    split at found
    · exact .inr ⟨by omega, (Option.some.inj found).symm⟩
    · cases found

/-! ## Ancestors -/

section Ancestors

variable {origins : List Origin} {o : Origin} {i j p d : Nat}

/-- The scope `i` is `j` or descends from it. -/
inductive Under (origins : List Origin) : Nat → Nat → Prop where
  | refl (i : Nat) : Under origins i i
  | up {i p j : Nat} {o : Origin} : origins[i]? = some o → o.parent = some p → Under origins p j →
    Under origins i j

/-- The scope or one of its ancestors was given time up to this instant. -/
def Bounds (origins : List Origin) (i d : Nat) : Prop :=
  ∃ j o, Under origins i j ∧ origins[j]? = some o ∧ o.bound = some d

/-- Every scope was made after its parent. -/
def Grown (origins : List Origin) : Prop :=
  ∀ (i : Nat) (o : Origin) (p : Nat), origins[i]? = some o → o.parent = some p → p < i

theorem Under.trans {k : Nat} (h : Under origins i j) (h' : Under origins j k) :
    Under origins i k := by
  induction h with
  | refl => exact h'
  | up found parent _ ih => exact .up found parent (ih h')

theorem Under.le (grown : Grown origins) (h : Under origins i j) : j ≤ i := by
  induction h with
  | refl => exact Nat.le_refl _
  | up found parent _ ih => exact Nat.le_of_lt (Nat.lt_of_le_of_lt ih (grown _ _ _ found parent))

theorem Under.eq_of_root (h : Under origins i j) (found : origins[i]? = some o)
    (root : o.parent = none) : j = i := by
  cases h with
  | refl => rfl
  | up found' parent _ =>
    obtain rfl := Option.some.inj (found.symm.trans found')
    cases root.symm.trans parent

theorem Bounds.of_under (h : Under origins i j) (bound : Bounds origins j d) :
    Bounds origins i d := by
  obtain ⟨k, o, above, found, given⟩ := bound
  exact ⟨k, o, h.trans above, found, given⟩

theorem bounds_root_iff (found : origins[i]? = some o) (root : o.parent = none) :
    Bounds origins i d ↔ o.bound = some d := by
  constructor
  · rintro ⟨j, o', above, found', given⟩
    obtain rfl := above.eq_of_root found root
    obtain rfl := Option.some.inj (found.symm.trans found')
    exact given
  · exact fun given => ⟨i, o, .refl i, found, given⟩

theorem Grown.concat (grown : Grown origins) (below : ∀ p ∈ o.parent, p < origins.length) :
    Grown (origins ++ [o]) := by
  intro i o' p found parent
  rcases getElem?_concat found with found | ⟨rfl, rfl⟩
  · exact grown i o' p found parent
  · exact below p parent

/-- A scope that is made later changes nothing about the ancestors of those that are there. -/
theorem under_concat_iff (grown : Grown origins) (old : i < origins.length) :
    Under (origins ++ [o]) i j ↔ Under origins i j := by
  constructor
  · intro h
    induction h with
    | refl i => exact .refl i
    | @up i p j o' found parent _ ih =>
      rw [List.getElem?_append_left old] at found
      exact .up found parent (ih (Nat.lt_trans (grown i o' p found parent) old))
  · intro h
    induction h with
    | refl i => exact .refl i
    | @up i p j o' found parent _ ih =>
      refine .up ?_ parent (ih (Nat.lt_trans (grown i o' p found parent) old))
      rwa [List.getElem?_append_left old]

/-- The ancestors of a new scope are those of its parent. -/
theorem under_last_iff (grown : Grown origins) (below : ∀ p ∈ o.parent, p < origins.length) :
    Under (origins ++ [o]) origins.length j ↔
      j = origins.length ∨ ∃ p, o.parent = some p ∧ Under origins p j := by
  constructor
  · intro h
    cases h with
    | refl => exact .inl rfl
    | @up _ p _ o' found parent above =>
      obtain rfl := Option.some.inj (List.getElem?_concat_length.symm.trans found)
      exact .inr ⟨p, parent, (under_concat_iff grown (below p parent)).mp above⟩
  · rintro (rfl | ⟨p, parent, above⟩)
    · exact .refl _
    · have above := (under_concat_iff (o := o) grown (below p parent)).mpr above
      exact .up List.getElem?_concat_length parent above

theorem bounds_concat_iff (grown : Grown origins) (old : i < origins.length) :
    Bounds (origins ++ [o]) i d ↔ Bounds origins i d := by
  constructor
  · rintro ⟨j, o', above, found, given⟩
    have above := (under_concat_iff grown old).mp above
    rw [List.getElem?_append_left (Nat.lt_of_le_of_lt (above.le grown) old)] at found
    exact ⟨j, o', above, found, given⟩
  · rintro ⟨j, o', above, found, given⟩
    refine ⟨j, o', (under_concat_iff grown old).mpr above, ?_, given⟩
    rwa [List.getElem?_append_left (Nat.lt_of_le_of_lt (above.le grown) old)]

theorem bounds_last_iff (grown : Grown origins) (below : ∀ p ∈ o.parent, p < origins.length) :
    Bounds (origins ++ [o]) origins.length d ↔
      (∃ p, o.parent = some p ∧ Bounds origins p d) ∨ o.bound = some d := by
  constructor
  · rintro ⟨j, o', above, found, given⟩
    rcases (under_last_iff grown below).mp above with rfl | ⟨p, parent, above⟩
    · obtain rfl := Option.some.inj (List.getElem?_concat_length.symm.trans found)
      exact .inr given
    · have old : j < origins.length := Nat.lt_of_le_of_lt (above.le grown) (below p parent)
      rw [List.getElem?_append_left old] at found
      exact .inl ⟨p, parent, j, o', above, found, given⟩
  · rintro (⟨p, parent, bound⟩ | given)
    · have bound := (bounds_concat_iff (o := o) grown (below p parent)).mpr bound
      exact bound.of_under (.up List.getElem?_concat_length parent (.refl p))
    · exact ⟨_, o, .refl _, List.getElem?_concat_length, given⟩

end Ancestors

/-! ## Earliest instants -/

/-- The earliest of some instants, none if there are none. -/
def IsEarliest (instants : Set Nat) : Option Nat → Prop
  | none => instants = ∅
  | some d => IsLeast instants d

theorem isEarliest_single (bound : Option Nat) : IsEarliest {d | bound = some d} bound := by
  cases bound with
  | none => exact Set.eq_empty_of_forall_notMem fun _ => nofun
  | some d => exact ⟨rfl, fun d' same => Nat.le_of_eq (Option.some.inj same)⟩

theorem IsEarliest.earlier {instants instants' : Set Nat} {a b : Option Nat}
    (h : IsEarliest instants a) (h' : IsEarliest instants' b) :
    IsEarliest (instants ∪ instants') (earlier a b) := by
  cases a with
  | none =>
    rw [show instants = ∅ from h, Set.empty_union]
    cases b <;> exact h'
  | some d =>
    cases b with
    | none =>
      rw [show instants' = ∅ from h', Set.union_empty]
      exact h
    | some d' => exact IsLeast.union h h'

theorem IsEarliest.unique {instants : Set Nat} {a b : Option Nat} (h : IsEarliest instants a)
    (h' : IsEarliest instants b) : a = b := by
  cases a with
  | none =>
    cases b with
    | none => rfl
    | some d => exact absurd h'.1 (Set.eq_empty_iff_forall_notMem.mp h d)
  | some d =>
    cases b with
    | none => exact absurd h.1 (Set.eq_empty_iff_forall_notMem.mp h' d)
    | some d' => exact congrArg some (IsLeast.unique h h')

theorem IsEarliest.le_of_mem {instants : Set Nat} {a : Option Nat} {d : Nat}
    (h : IsEarliest instants a) (mem : d ∈ instants) : ∃ d' ≤ d, a = some d' := by
  cases a with
  | none =>
    rw [show instants = ∅ from h] at mem
    exact mem.elim
  | some d' => exact ⟨d', h.2 mem, rfl⟩

end Scope

end Recovery
