import Mathlib.Data.List.Basic
/-!
# Trying in turn

Subjects are tried one after another until a try succeeds. How a try goes may depend on all that was
asked in those before it.
-/
set_option autoImplicit false

namespace Recovery

/-- Each try goes as it may after all that was asked before it. -/
def GoOn {τ γ : Type} (asks : τ → List γ) (Goes : List γ → τ → Prop) (past : List γ)
    (tries : List τ) : Prop :=
  ∀ before t after, tries = before ++ t :: after → Goes (past ++ before.flatMap asks) t

/-- The subjects are tried one after another, up to the first try that succeeds. -/
structure InTurn {σ τ γ : Type} (subject : τ → σ) (asks : τ → List γ) (succeeds : τ → Bool)
    (Goes : List γ → τ → Prop) (past : List γ) (subjects : List σ) (tries : List τ) : Prop where
  in_order : tries.map subject <+: subjects
  goes : GoOn asks Goes past tries
  in_vain : ∀ t ∈ tries.dropLast, succeeds t = false
  to_the_end : (∀ t ∈ tries, succeeds t = false) → tries.map subject = subjects

section InTurn

variable {σ τ γ : Type} {subject : τ → σ} {asks : τ → List γ} {succeeds : τ → Bool}
  {Goes : List γ → τ → Prop} {past : List γ} {subjects : List σ} {tries : List τ} {t : τ}

theorem GoOn.nil : GoOn asks Goes past [] :=
  fun _ _ _ none => absurd none (List.append_ne_nil_of_right_ne_nil _ (List.cons_ne_nil _ _)).symm

theorem GoOn.cons (goes : Goes past t) (rest : GoOn asks Goes (past ++ asks t) tries) :
    GoOn asks Goes past (t :: tries) := by
  intro before u after whole
  cases before with
  | nil =>
    obtain ⟨rfl, -⟩ := List.cons_eq_cons.mp whole
    rwa [List.flatMap_nil, List.append_nil]
  | cons first before =>
    obtain ⟨rfl, rest_whole⟩ := List.cons_eq_cons.mp whole
    rw [List.flatMap_cons, ← List.append_assoc]
    exact rest before u after rest_whole

theorem GoOn.exists_past (h : GoOn asks Goes past tries) (member : t ∈ tries) :
    ∃ past', Goes past' t := by
  obtain ⟨before, after, whole⟩ := List.append_of_mem member
  exact ⟨_, h before t after whole⟩

/-- There is one first member of a kind only. -/
theorem eq_of_first {P : σ → Prop} {before later before' later' : List σ} {x y : σ}
    (same : before ++ x :: later = before' ++ y :: later') (kind : P x) (kind' : P y)
    (others : ∀ u ∈ before, ¬P u) (others' : ∀ u ∈ before', ¬P u) : x = y := by
  obtain ⟨between, rfl, rest⟩ | ⟨between, rfl, rest⟩ := List.append_eq_append_iff.mp same
  · cases between with
    | nil => exact (List.cons_eq_cons.mp rest).1
    | cons z between =>
      obtain rfl := (List.cons_eq_cons.mp rest).1
      exact absurd kind (others' x (List.mem_append_right _ List.mem_cons_self))
  · cases between with
    | nil => exact (List.cons_eq_cons.mp rest).1.symm
    | cons z between =>
      obtain rfl := (List.cons_eq_cons.mp rest).1
      exact absurd kind' (others y (List.mem_append_right _ List.mem_cons_self))

namespace InTurn

theorem nil : InTurn subject asks succeeds Goes past [] [] where
  in_order := List.prefix_refl _
  goes := .nil
  in_vain _ none := nomatch none
  to_the_end _ := rfl

theorem success (goes : Goes past t) (succeeded : succeeds t = true) (later : List σ) :
    InTurn subject asks succeeds Goes past (subject t :: later) [t] where
  in_order := List.prefix_append [subject t] later
  goes := .cons goes .nil
  in_vain _ none := nomatch none
  to_the_end failed := by
    rw [failed t List.mem_cons_self] at succeeded
    cases succeeded

theorem failure (goes : Goes past t) (failed : succeeds t = false)
    (rest : InTurn subject asks succeeds Goes (past ++ asks t) subjects tries) :
    InTurn subject asks succeeds Goes past (subject t :: subjects) (t :: tries) where
  in_order := List.cons_prefix_cons.mpr ⟨rfl, rest.in_order⟩
  goes := .cons goes rest.goes
  in_vain u member := by
    cases tries with
    | nil => cases member
    | cons next tries =>
      obtain rfl | member := List.mem_cons.mp member
      · exact failed
      · exact rest.in_vain u member
  to_the_end all_failed := by
    rw [List.map_cons, rest.to_the_end fun u member => all_failed u (List.mem_cons_of_mem t member)]

/-- A try that succeeds is the last one. -/
theorem eq_snoc_of_find? (h : InTurn subject asks succeeds Goes past subjects tries)
    (found : tries.find? succeeds = some t) :
    ∃ missed, tries = missed ++ [t] ∧ ∀ u ∈ missed, succeeds u = false := by
  obtain ⟨succeeded, missed, later, rfl, failed⟩ := List.find?_eq_some_iff_append.mp found
  obtain rfl | ⟨rest, last, rfl⟩ := List.eq_nil_or_concat later
  · exact ⟨missed, rfl, fun u member => by simpa using failed u member⟩
  · have not_last : t ∈ (missed ++ t :: rest.concat last).dropLast := by
      rw [List.concat_eq_append, ← List.cons_append, ← List.append_assoc, List.dropLast_concat]
      exact List.mem_append_right _ List.mem_cons_self
    rw [h.in_vain t not_last] at succeeded
    cases succeeded

section Subjects

variable {P : σ → Prop} (h : InTurn subject asks succeeds Goes past subjects tries)
  (tells : ∀ t ∈ tries, succeeds t = true ↔ P (subject t))

include h tells

/-- Some try succeeds if some subject lets it. -/
theorem exists_iff : (∃ t ∈ tries, succeeds t = true) ↔ ∃ x ∈ subjects, P x := by
  constructor
  · rintro ⟨t, member, succeeded⟩
    exact ⟨subject t, h.in_order.subset (List.mem_map_of_mem member),
      (tells t member).mp succeeded⟩
  · rintro ⟨x, member, succeeds_at⟩
    by_contra none
    push Not at none
    rw [← h.to_the_end fun t member => by simpa using none t member] at member
    obtain ⟨t, tried, rfl⟩ := List.mem_map.mp member
    exact none t tried ((tells t tried).mpr succeeds_at)

/-- The try that succeeds is that of the first subject that lets it. -/
theorem find?_iff {x : σ} : (∃ t, tries.find? succeeds = some t ∧ subject t = x) ↔
    ∃ before later, subjects = before ++ x :: later ∧ P x ∧ ∀ y ∈ before, ¬P y := by
  have first {t : τ} (found : tries.find? succeeds = some t) : ∃ before later,
      subjects = before ++ subject t :: later ∧ P (subject t) ∧ ∀ y ∈ before, ¬P y := by
    obtain ⟨missed, rfl, failed⟩ := h.eq_snoc_of_find? found
    obtain ⟨later, whole⟩ := h.in_order
    refine ⟨missed.map subject, later, ?_, ?_, ?_⟩
    · rw [← whole, List.map_append, List.map_singleton, List.append_assoc, List.singleton_append]
    · exact (tells t (List.mem_append_right _ List.mem_cons_self)).mp (List.find?_some found)
    · intro y member holds
      obtain ⟨u, tried, rfl⟩ := List.mem_map.mp member
      have succeeded := (tells u (List.mem_append_left _ tried)).mpr holds
      rw [failed u tried] at succeeded
      cases succeeded
  constructor
  · rintro ⟨t, found, rfl⟩
    exact first found
  · rintro ⟨before, later, whole, holds, others⟩
    cases found : tries.find? succeeds with
    | none =>
      -- then every subject was tried, and so was `x`
      have failed := List.find?_eq_none.mp found
      have member : x ∈ subjects := whole ▸ List.mem_append_right _ List.mem_cons_self
      obtain ⟨t, tried, succeeded⟩ := (h.exists_iff tells).mpr ⟨x, member, holds⟩
      exact absurd succeeded (failed t tried)
    | some t =>
      obtain ⟨before', later', whole', holds', others'⟩ := first found
      exact ⟨t, rfl, eq_of_first (whole'.symm.trans whole) holds' holds others' others⟩

end Subjects

end InTurn

end InTurn

end Recovery
