import Recovery.Proofs.Sequel
import Recovery.Proofs.Volume.Order
/-!
# The lifetime of a store

A store begins without a claim and is then asked for one thing after the other, in whatever scopes
and however the calls come out. It knows of a claim just as long as one is there as far as it has
been told, snapshots that claim and no other, and drops just those snapshots of its own that did not
get ready.
-/
set_option autoImplicit false

namespace Recovery

variable {Other : Interface}

namespace Store

inductive Order where
  | ensureExists
  | snapshot (name : String)
  | delete
deriving Repr, DecidableEq

def carryOut (scope : Scope) (s : Store) :
    Order → Task (Cloud Other) (Except Fault (Option Snapshot) × Store)
  | .ensureExists => Prod.map (Except.map fun _ => none) id <$> (ensureExists scope).runFrom s
  | .snapshot name => (fun r => (r.map some, s)) <$> (s.snapshot scope name).run
  | .delete => Prod.map (Except.map fun _ => none) id <$> (delete scope).runFrom s

/-- An order that has been carried out: the store it was given to and the one it left, with the
attempts made between. The root scope, which calls may cancel, is there before. -/
structure Turn (Other : Interface) where
  order : Order
  scope : Scope
  script : Script (Cloud Other)
  guards : List Guard
  start : World (Cloud Other)
  finish : World (Cloud Other)
  before : Store
  after : Store
  result : Except Fault (Option Snapshot)
  attempts : List (Attempt (Cloud Other))
  rooted : script.root < start.clock.fresh
  returned : carryOut scope before order script guards start = .done (result, after) finish
  makes : start.Makes script attempts finish

/-- What a store is asked for from its beginning on. -/
abbrev Lifetime (options : StoreOptions) : List (Turn Other) → Store → Prop :=
  Sequel Turn.before Turn.after ⟨options, none⟩

namespace Turn

/-- The order has secured the claim. -/
def Secures (t : Turn Other) : Prop := t.order = .ensureExists ∧ t.result.isOk = true

/-- The order has removed the claim, if there was one. -/
def Removes (t : Turn Other) : Prop := t.order = .delete ∧ t.result.isOk = true

end Turn

/-- Some order has secured the claim and none since has removed it. -/
def Secured (turns : List (Turn Other)) : Prop :=
  ∃ early t late, turns = early ++ t :: late ∧ t.Secures ∧ ∀ u ∈ late, ¬ u.Removes

theorem not_secured_nil : ¬ Secured ([] : List (Turn Other)) := by
  rintro ⟨early, t, late, whole, -⟩
  simp at whole

theorem secured_snoc {past : List (Turn Other)} {t : Turn Other} :
    Secured (past ++ [t]) ↔ t.Secures ∨ Secured past ∧ ¬ t.Removes := by
  constructor
  · rintro ⟨early, u, late, whole, secures, kept⟩
    rcases snoc_eq_append_cons whole with ⟨-, -, rfl⟩ | ⟨late, rfl, rfl⟩
    · exact .inl secures
    · rw [List.forall_mem_append, List.forall_mem_singleton] at kept
      exact .inr ⟨⟨early, u, late, rfl, secures, kept.1⟩, kept.2⟩
  · rintro (secures | ⟨⟨early, u, late, rfl, secures, kept⟩, keeps⟩)
    · exact ⟨past, t, [], rfl, secures, List.forall_mem_nil _⟩
    · refine ⟨early, u, late ++ [t], by rw [List.append_assoc, List.cons_append], secures, ?_⟩
      rw [List.forall_mem_append, List.forall_mem_singleton]
      exact ⟨kept, keeps⟩

namespace Turn

variable {t : Turn Other}

theorem ensures (order : t.order = .ensureExists) :
    Onward t.attempts ∧
      t.after = if t.result.isOk then { t.before with claim := some t.before.options.name }
        else t.before := by
  have returned := t.returned
  rw [order] at returned
  obtain ⟨⟨r, s⟩, ran, same⟩ := Task.map_done.mp returned
  obtain ⟨result, rfl⟩ := Prod.mk.inj same
  obtain ⟨attempts, makes, onward, after⟩ := ensureExists_makes ran
  rw [t.makes.unique makes, ← result]
  refine ⟨onward, ?_⟩
  cases r <;> exact after

theorem takes {name : String} (order : t.order = .snapshot name) :
    t.after = t.before ∧ ∃ r, t.result = r.map some ∧ Takes t.before name t.attempts r := by
  have returned := t.returned
  rw [order] at returned
  obtain ⟨r, ran, same⟩ := Task.map_done.mp returned
  obtain ⟨result, kept⟩ := Prod.mk.inj same
  obtain ⟨attempts, makes, takes⟩ := snapshot_makes t.rooted ran
  rw [t.makes.unique makes]
  exact ⟨kept.symm, r, result.symm, takes⟩

theorem deleted (order : t.order = .delete) :
    ∃ r, t.result = r.map (fun _ => none) ∧
      Deletes t.before (t.scope.isCancelled t.start.clock) t.attempts r t.after := by
  have returned := t.returned
  rw [order] at returned
  obtain ⟨⟨r, s⟩, ran, same⟩ := Task.map_done.mp returned
  obtain ⟨result, rfl⟩ := Prod.mk.inj same
  obtain ⟨attempts, makes, deletes⟩ := delete_makes ran
  rw [t.makes.unique makes]
  exact ⟨r, result.symm, deletes⟩

/-- What becomes of the record: it changes with a success only. -/
theorem after_cases (t : Turn Other) :
    t.Secures ∧ t.after = { t.before with claim := some t.before.options.name } ∨
      t.Removes ∧ t.after = { t.before with claim := none } ∨
      ¬ t.Secures ∧ ¬ t.Removes ∧ t.after = t.before := by
  unfold Secures Removes
  cases order : t.order with
  | ensureExists =>
    obtain ⟨-, after⟩ := t.ensures order
    cases ok : t.result.isOk with
    | true =>
      rw [ok, if_pos rfl] at after
      exact .inl ⟨⟨rfl, rfl⟩, after⟩
    | false =>
      rw [ok, if_neg Bool.false_ne_true] at after
      exact .inr (.inr ⟨by simp, by simp, after⟩)
  | snapshot name =>
    obtain ⟨after, -⟩ := t.takes order
    exact .inr (.inr ⟨by simp, by simp, after⟩)
  | delete =>
    obtain ⟨r, result, deletes⟩ := t.deleted order
    have same : t.result.isOk = r.isOk := by
      rw [result]
      cases r <;> rfl
    rw [same]
    rcases deletes.after with ⟨ok, after⟩ | ⟨failed, after⟩
    · exact .inr (.inl ⟨⟨rfl, ok⟩, after⟩)
    · exact .inr (.inr ⟨by simp, by simp [failed], after⟩)

end Turn

theorem Lifetime.recorded {options : StoreOptions} {past : List (Turn Other)} {last : Store}
    (h : Lifetime options past last) :
    last.options = options ∧
      ∀ claim, last.claim = some claim ↔ claim = options.name ∧ Secured past := by
  induction h with
  | nil => exact ⟨rfl, fun claim => by simp [not_secured_nil]⟩
  | @snoc past t _ ih =>
    obtain ⟨same, recorded⟩ := ih
    rcases t.after_cases with ⟨secures, after⟩ | ⟨removes, after⟩ | ⟨unsecured, kept, after⟩
    · rw [after]
      refine ⟨same, fun claim => ?_⟩
      rw [secured_snoc, same, Option.some.injEq, eq_comm]
      exact (and_iff_left (.inl secures)).symm
    · have other : ¬ t.Secures := fun secures => by
        cases removes.1.symm.trans secures.1
      rw [after]
      refine ⟨same, fun claim => ?_⟩
      rw [secured_snoc]
      simp [other, removes]
    · rw [after]
      refine ⟨same, fun claim => ?_⟩
      rw [recorded, secured_snoc]
      simp [unsecured, kept]

/-- A world whose root scope has been cancelled. -/
def halted : World (Cloud .silent) := ⟨Scope.unbounded.cancel (Scope.background .start).2, []⟩

end Store

end Recovery
