import Mathlib.Data.List.Basic
/-!
# Sequels

A series of steps in which each takes up the state that the one before it has left.
-/
set_option autoImplicit false

namespace Recovery

/-- The last of a series is the step that is looked at, or it comes later. -/
theorem snoc_eq_append_cons {τ : Type} {steps early late : List τ} {last t : τ}
    (whole : steps ++ [last] = early ++ t :: late) :
    (late = [] ∧ early = steps ∧ t = last) ∨
      ∃ rest, late = rest ++ [last] ∧ steps = early ++ t :: rest := by
  rcases List.eq_nil_or_concat late with rfl | ⟨rest, u, rfl⟩
  · obtain ⟨rfl, same⟩ := List.append_inj' whole rfl
    cases same
    exact .inl ⟨rfl, rfl, rfl⟩
  · rw [List.concat_eq_append, ← List.cons_append, ← List.append_assoc] at whole
    obtain ⟨rfl, same⟩ := List.append_inj' whole rfl
    cases same
    exact .inr ⟨rest, List.concat_eq_append, rfl⟩

/-- The steps lead from the first state to the last. -/
inductive Sequel {σ τ : Type} (before after : τ → σ) (first : σ) : List τ → σ → Prop where
  | nil : Sequel before after first [] first
  | snoc {past : List τ} {t : τ} : Sequel before after first past (before t) →
    Sequel before after first (past ++ [t]) (after t)

namespace Sequel

variable {σ τ : Type} {before after : τ → σ} {first last : σ} {past later : List τ} {t : τ}

/-- A step may come before all others. -/
theorem cons (h : Sequel before after (after t) later last) :
    Sequel before after (before t) (t :: later) last := by
  induction h with
  | nil =>
    rw [← List.nil_append [t]]
    exact .snoc .nil
  | snoc _ ih =>
    rw [← List.cons_append]
    exact .snoc ih

/-- A step takes up what those before it have come to. -/
theorem earlier (h : Sequel before after first (past ++ t :: later) last) :
    Sequel before after first past (before t) := by
  generalize whole : past ++ t :: later = history at h
  induction h generalizing later with
  | nil => simp at whole
  | snoc rest ih =>
    rcases snoc_eq_append_cons whole.symm with ⟨-, rfl, rfl⟩ | ⟨later, -, rfl⟩
    · exact rest
    · exact ih rfl

end Sequel

end Recovery
