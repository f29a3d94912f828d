import Recovery.Timed.Cleanup
/-!
# Shelter

A scope is sheltered if nothing that is set or that a call may do cancels it. The scope that a
cleanup runs in is sheltered from the instant it is made, since its tokens are known to no one
else, and it stays so. Under the guard of a sheltered scope an operation can only run out of time.
-/
set_option autoImplicit false

namespace Recovery

namespace Clock

/-- Neither cancelled nor about to be cancelled by an alarm. -/
def Spares (c : Clock) (t : Token) : Prop := t ∉ c.cancelled ∧ ∀ a ∈ c.alarms, a.token ≠ t

theorem spares_of_fresh_le {c : Clock} {t : Token} (h : c.fresh ≤ t) : c.Spares t := by
  constructor
  · intro cancelled
    exact Nat.not_le_of_lt (c.cancelled_lt t cancelled) h
  · rintro a set rfl
    exact Nat.not_le_of_lt (c.alarms_lt a set) h

namespace Spares

variable {c : Clock} {t : Token}

theorem cancel (h : c.Spares t) {token : Token} (other : t ≠ token) : (c.cancel token).Spares t :=
  ⟨fun cancelled => (List.mem_cons.mp cancelled).elim other h.1, h.2⟩

theorem ringWhere (h : c.Spares t) (due : Alarm → Bool) : (c.ringWhere due).Spares t := by
  constructor
  · intro cancelled
    rcases List.mem_append.mp cancelled with rung | cancelled
    · obtain ⟨a, ha, token⟩ := List.mem_map.mp rung
      exact h.2 a (List.mem_filter.mp ha).1 token
    · exact h.1 cancelled
  · exact fun a ha => h.2 a (List.mem_filter.mp ha).1

theorem ring (h : c.Spares t) : c.ring.Spares t := h.ringWhere _

theorem advance (h : c.Spares t) (instant : Nat) : (c.advance instant).Spares t :=
  h.ringWhere _

theorem interruption (h : c.Spares t) {guards : List Guard} {r : Rest}
    (found : c.interruption? guards = some r) : r.clock.Spares t := by
  unfold interruption? at found
  split at found
  · cases found
    exact h
  · obtain ⟨outside, _, rfl⟩ := Option.map_eq_some_iff.mp found
    exact h.ring

theorem rest (h : c.Spares t) (guards : List Guard) (wake : Option Nat) :
    (c.rest guards wake).clock.Spares t := by
  unfold Clock.rest
  split
  · rename_i r found
    exact h.interruption found
  · split
    · exact h.ring
    · rename_i instant _
      dsimp only
      split
      · exact h.ring.advance instant
      · cases found : (c.ring.advance instant).interruption? guards with
        | none => exact h.ring.advance instant
        | some r => exact (h.ring.advance instant).interruption found

theorem anyCancelled {tokens : List Token} (h : ∀ t ∈ tokens, c.Spares t) :
    c.anyCancelled tokens = false := by
  rw [Clock.anyCancelled, List.any_eq_false]
  intro t ht
  simpa using (h t ht).1

end Spares

end Clock

/-! ## Which guard interrupts -/

namespace Guard

theorem innermostExpired?_lt {instant outside : Nat} {guards : List Guard}
    (h : innermostExpired? instant guards = some outside) : outside < guards.length := by
  induction guards with
  | nil => cases h
  | cons g outer ih =>
    rw [innermostExpired?] at h
    split at h
    · cases h
      exact Nat.lt_succ_self _
    · exact Nat.lt_succ_of_lt (ih h)

theorem outermostCancelled?_lt {c : Clock} {outside : Nat} {guards : List Guard}
    (h : outermostCancelled? c guards = some outside) : outside < guards.length := by
  induction guards with
  | nil => cases h
  | cons g outer ih =>
    rw [outermostCancelled?, Option.or_eq_some_iff] at h
    rcases h with h | ⟨_, h⟩
    · exact Nat.lt_succ_of_lt (ih h)
    · split at h
      · cases h
        exact Nat.lt_succ_self _
      · cases h

variable {front back : List Guard} {g : Guard}

theorem innermostExpired?_ne {instant : Nat}
    (sooner : g.isExpired instant = true → ∃ f ∈ front, f.isExpired instant = true) :
    innermostExpired? instant (front ++ g :: back) ≠ some back.length := by
  induction front with
  | nil =>
    rw [List.nil_append, innermostExpired?, if_neg fun expired => by simpa using sooner expired]
    exact fun h => Nat.lt_irrefl _ (innermostExpired?_lt h)
  | cons f front ih =>
    rw [List.cons_append, innermostExpired?]
    split
    · simp only [List.length_append, List.length_cons, ne_eq, Option.some.injEq]
      omega
    · rename_i running
      exact ih fun expired => by simpa [running] using sooner expired

theorem outermostCancelled?_ne {c : Clock} (spared : ∀ t ∈ g.tokens, c.Spares t) :
    outermostCancelled? c (front ++ g :: back) ≠ some back.length := by
  induction front with
  | nil =>
    rw [List.nil_append, outermostCancelled?, Clock.Spares.anyCancelled spared]
    simp only [Bool.false_eq_true, if_false, Option.or_none]
    exact fun h => Nat.lt_irrefl _ (outermostCancelled?_lt h)
  | cons f front ih =>
    rw [List.cons_append, outermostCancelled?]
    intro h
    rcases Option.or_eq_some_iff.mp h with h | ⟨_, h⟩
    · exact ih h
    · split at h
      · simp only [List.length_append, List.length_cons, Option.some.injEq] at h
        omega
      · cases h

end Guard

namespace Clock

variable {c : Clock} {front back : List Guard} {g : Guard}

/-- A guard that is spared and is not the first to expire interrupts nothing. -/
theorem interruption?_ne (spared : ∀ t ∈ g.tokens, c.Spares t)
    (sooner : g.isExpired c.now = true → ∃ f ∈ front, f.isExpired c.now = true)
    {why : Interrupt} {d : Clock} :
    c.interruption? (front ++ g :: back) ≠ some (.interrupted back.length why d) := by
  unfold interruption?
  intro h
  split at h
  · rename_i outside expired
    cases h
    exact Guard.innermostExpired?_ne sooner expired
  · obtain ⟨outside, cancelled, h⟩ := Option.map_eq_some_iff.mp h
    cases h
    exact Guard.outermostCancelled?_ne (fun t ht => (spared t ht).ring) cancelled

theorem earlier_le {a : Option Nat} {b : Option Nat} {instant t : Nat}
    (h : earlier a b = some instant) (ha : a = some t) : instant ≤ t := by
  subst ha
  cases b with
  | none =>
    cases h
    exact Nat.le_refl _
  | some b =>
    cases h
    exact Nat.min_le_left ..

/-- The same for a rest, up to the instant at which it would end by itself. -/
theorem rest_ne {wake : Option Nat} (spared : ∀ t ∈ g.tokens, c.Spares t)
    (later : ∀ t, wake = some t → c.now < t)
    (sooner : ∀ instant, (∀ t, wake = some t → instant < t) → g.isExpired instant = true →
      ∃ f ∈ front, f.isExpired instant = true)
    {why : Interrupt} {d : Clock} :
    c.rest (front ++ g :: back) wake ≠ .interrupted back.length why d := by
  unfold rest
  intro h
  split at h
  · rename_i r found
    subst h
    exact interruption?_ne spared (sooner _ later) found
  · split at h
    · cases h
    · rename_i instant first
      dsimp only at h
      split at h
      · cases h
      · rename_i waking
        have before : ∀ t, wake = some t → (c.ring.advance instant).now < t := by
          intro t ht
          have := earlier_le first ht
          have : instant ≠ t := fun e => waking (by rw [ht, e])
          have := later t ht
          simp only [advance, ring, ringWhere]
          omega
        cases found : (c.ring.advance instant).interruption? (front ++ g :: back) with
        | none =>
          rw [found] at h
          cases h
        | some r =>
          rw [found] at h
          simp only [Option.getD_some] at h
          subst h
          exact interruption?_ne (fun t ht => (spared t ht).ring.advance instant)
            (sooner _ before) found

end Clock

/-! ## Sheltered scopes -/

variable {I : Interface}

/-- None of the scope's tokens is cancelled, about to be, or the root that a call may cancel. -/
def World.Shelters (script : Script I) (w : World I) (s : Scope) : Prop :=
  ∀ t ∈ s.tokens, t ≠ script.root ∧ w.clock.Spares t

namespace World.Shelters

variable {script : Script I} {w : World I} {s : Scope}

theorem isCancelled (h : w.Shelters script s) : s.isCancelled w.clock = false :=
  Clock.Spares.anyCancelled fun t ht => (h t ht).2

/-- A scope is sheltered if all its tokens are new. -/
theorem of_fresh (rooted : script.root < w.clock.fresh)
    (fresh : ∀ t ∈ s.tokens, w.clock.fresh ≤ t) : w.Shelters script s :=
  fun t ht => ⟨Nat.ne_of_gt (Nat.lt_of_lt_of_le rooted (fresh t ht)),
    Clock.spares_of_fresh_le (fresh t ht)⟩

end World.Shelters

/-- From one world to another just these marks have been added, no token has been taken back and no
shelter has been lost. -/
structure World.Adds (script : Script I) (w : World I) (added : List (Mark I)) (w' : World I) :
    Prop where
  marks : w'.marks = w.marks ++ added
  fresh_le : w.clock.fresh ≤ w'.clock.fresh
  shelters : ∀ s, w.Shelters script s → w'.Shelters script s

namespace World.Adds

variable {script : Script I} {w w' w'' : World I} {added later : List (Mark I)}

theorem refl (w : World I) : w.Adds script [] w :=
  ⟨(List.append_nil _).symm, Nat.le_refl _, fun _ h => h⟩

theorem trans (h : w.Adds script added w') (h' : w'.Adds script later w'') :
    w.Adds script (added ++ later) w'' :=
  ⟨by rw [h'.marks, h.marks, List.append_assoc], Nat.le_trans h.fresh_le h'.fresh_le,
    fun s hs => h'.shelters s (h.shelters s hs)⟩

theorem of_spares {c : Clock} (fresh : w.clock.fresh ≤ c.fresh)
    (h : ∀ t, t ≠ script.root → w.clock.Spares t → c.Spares t) :
    w.Adds script [] { w with clock := c } :=
  ⟨(List.append_nil _).symm, fresh, fun _ hs t ht => ⟨(hs t ht).1, h t (hs t ht).1 (hs t ht).2⟩⟩

theorem rest (w : World I) (guards : List Guard) (wake : Option Nat) :
    w.Adds script [] { w with clock := (w.clock.rest guards wake).clock } :=
  .of_spares (w.clock.precedes_rest guards wake).fresh_le fun _ _ h => h.rest guards wake

theorem cancelRoot (w : World I) :
    w.Adds script [] { w with clock := w.clock.cancel script.root } :=
  .of_spares (w.clock.precedes_cancel _).fresh_le fun _ other h => h.cancel other

theorem mark (w : World I) (m : Mark I) : w.Adds script [m] (w.mark m) :=
  ⟨rfl, Nat.le_refl _, fun _ h => h⟩

end World.Adds

/-- A root scope that nothing ends, and the world it is made in. -/
def Scope.unbounded : Scope := (Scope.background .start).1

def World.initial {I : Interface} : World I := ⟨(Scope.background .start).2, []⟩

end Recovery
