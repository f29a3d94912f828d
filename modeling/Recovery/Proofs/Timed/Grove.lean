import Recovery.Proofs.Timed.Lineage
import Recovery.Proofs.Timed.Shelter
/-!
# Groves of scopes

All scopes that have been made, while time passes and some of them are cancelled.
-/
set_option autoImplicit false

namespace Recovery

namespace Scope

/-- All scopes that have been made so far, the first one first. -/
structure Grove where
  scopes : List Scope
  clock : Clock

namespace Grove

def grow (g : Grove) (make : Clock → Scope × Clock) : Grove :=
  ⟨g.scopes ++ [(make g.clock).1], (make g.clock).2⟩

def perform? (g : Grove) : Deed → Option Grove
  | .background => some (g.grow background)
  | .detached milliseconds => some (g.grow (detached milliseconds))
  | .withTimeout parent milliseconds =>
    g.scopes[parent]?.map fun s => g.grow (s.withTimeout milliseconds)
  | .child parent => g.scopes[parent]?.map fun s => g.grow s.child
  | .cancel scope => g.scopes[scope]?.map fun s => { g with clock := s.cancel g.clock }

/-- Time passes up to an instant. -/
def await (g : Grove) (instant : Nat) : Grove := { g with clock := g.clock.advance instant }

def performAll? (g : Grove) : Chronicle → Option Grove
  | [] => some g
  | (instant, deed) :: later => do (← (g.await instant).perform? deed).performAll? later

/-- What is true of the scopes after the deeds of a chronicle. -/
structure Tells (chronicle : Chronicle) (g : Grove) : Prop where
  made : g.scopes.length = chronicle.origins.length
  /-- The deadline is the earliest of the times that the scope and its ancestors were given. -/
  deadline : ∀ i s, g.scopes[i]? = some s →
    IsEarliest {d | Bounds chronicle.origins i d} s.deadline
  /-- It is never later than that of an ancestor. -/
  tightens : ∀ i j s t d, g.scopes[i]? = some s → g.scopes[j]? = some t →
    Under chronicle.origins i j → t.deadline = some d → ∃ d' ≤ d, s.deadline = some d'
  /-- A scope is cancelled with its ancestors, and with no others. -/
  cancelled : ∀ i s, g.scopes[i]? = some s →
    (s.isCancelled g.clock = true ↔ ∃ j, Under chronicle.origins i j ∧ chronicle.Cancels j)
  /-- One that was derived from no other has nothing to do with any other. -/
  alone : ∀ i s o, g.scopes[i]? = some s → chronicle.origins[i]? = some o → o.parent = none →
    s.deadline = o.bound ∧ (s.isCancelled g.clock = true ↔ chronicle.Cancels i)

/-! ## What is kept of the tokens -/

/-- From `base` on, tokens are those of the scopes: each scope has one of its own and those of its
ancestors, and what is cancelled is what the chronicle says. -/
structure Keeps (base : Token) (past : Chronicle) (g : Grove) : Prop where
  made : g.scopes.length = past.origins.length
  grown : Grown past.origins
  alarms : ∀ a ∈ g.clock.alarms, a.token < base
  base_le : base ≤ g.clock.fresh
  tokens : ∀ s ∈ g.scopes, ∀ t ∈ s.tokens, base ≤ t ∧ t < g.clock.fresh
  own : ∀ s ∈ g.scopes, ∃ t, s.tokens.head? = some t
  lineage : ∀ i j s u t, g.scopes[i]? = some s → g.scopes[j]? = some u →
    u.tokens.head? = some t → (t ∈ s.tokens ↔ Under past.origins i j)
  subjects : ∀ j, past.Cancels j → j < g.scopes.length
  cancelled : ∀ t, base ≤ t → (t ∈ g.clock.cancelled ↔
    ∃ j s, g.scopes[j]? = some s ∧ s.tokens.head? = some t ∧ past.Cancels j)
  deadline : ∀ i s, g.scopes[i]? = some s → IsEarliest {d | Bounds past.origins i d} s.deadline

section Keeps

variable {base : Token} {past : Chronicle} {g : Grove}

theorem Keeps.tells (h : Keeps base past g) : g.Tells past := by
  have cancelled (i : Nat) (s : Scope) (found : g.scopes[i]? = some s) :
      s.isCancelled g.clock = true ↔ ∃ j, Under past.origins i j ∧ past.Cancels j := by
    rw [isCancelled, Clock.anyCancelled, List.any_eq_true]
    constructor
    · rintro ⟨t, mem, cancelled⟩
      have base_le := (h.tokens s (List.mem_of_getElem? found) t mem).1
      obtain ⟨j, u, found', own, told⟩ := (h.cancelled t base_le).mp (by simpa using cancelled)
      exact ⟨j, (h.lineage i j s u t found found' own).mp mem, told⟩
    · rintro ⟨j, above, told⟩
      obtain ⟨u, found'⟩ : ∃ u, g.scopes[j]? = some u :=
        ⟨_, List.getElem?_eq_getElem (h.subjects j told)⟩
      obtain ⟨t, own⟩ := h.own u (List.mem_of_getElem? found')
      have mem := (h.lineage i j s u t found found' own).mpr above
      have base_le := (h.tokens s (List.mem_of_getElem? found) t mem).1
      refine ⟨t, mem, ?_⟩
      simpa using (h.cancelled t base_le).mpr ⟨j, u, found', own, told⟩
  refine ⟨h.made, h.deadline, fun i j s t d found found' above given => ?tightens, cancelled,
    fun i s o found found' root => ⟨?bound, ?cancels⟩⟩
  case tightens =>
    have bound : Bounds past.origins j d := by
      have earliest := h.deadline j t found'
      rw [given] at earliest
      exact earliest.1
    exact (h.deadline i s found).le_of_mem (bound.of_under above)
  case bound =>
    have same : {d | Bounds past.origins i d} = {d | o.bound = some d} :=
      Set.ext fun d => bounds_root_iff found' root
    exact (h.deadline i s found).unique (same ▸ isEarliest_single o.bound)
  case cancels =>
    rw [cancelled i s found]
    constructor
    · rintro ⟨j, above, told⟩
      exact above.eq_of_root found' root ▸ told
    · exact fun told => ⟨i, .refl i, told⟩

/-- The alarms that ring are those of other scopes. -/
theorem Keeps.await (h : Keeps base past g) (instant : Nat) :
    Keeps base past (g.await instant) where
  made := h.made
  grown := h.grown
  alarms a mem := h.alarms a (List.mem_filter.mp mem).1
  base_le := h.base_le
  tokens := h.tokens
  own := h.own
  lineage := h.lineage
  subjects := h.subjects
  cancelled t base_le := by
    refine Iff.trans ?_ (h.cancelled t base_le)
    refine ⟨fun mem => ?_, fun mem => List.mem_append_right _ mem⟩
    rcases List.mem_append.mp mem with rung | mem
    · obtain ⟨a, set, rfl⟩ := List.mem_map.mp rung
      exact absurd base_le (Nat.not_le_of_lt (h.alarms a (List.mem_filter.mp set).1))
    · exact mem
  deadline := h.deadline

theorem Keeps.cancel (h : Keeps base past g) {i : Nat} {s : Scope}
    (found : g.scopes[i]? = some s) (instant : Nat) :
    Keeps base (past ++ [(instant, .cancel i)]) { g with clock := s.cancel g.clock } := by
  obtain ⟨t, own⟩ := h.own s (List.mem_of_getElem? found)
  obtain ⟨rest, tokens⟩ : ∃ rest, s.tokens = t :: rest := List.head?_eq_some_iff.mp own
  have known := h.tokens s (List.mem_of_getElem? found) t (List.mem_of_mem_head? own)
  have same : Chronicle.origins (past ++ [(instant, .cancel i)]) = past.origins :=
    Chronicle.origins_concat.trans (List.append_nil _)
  have clock : s.cancel g.clock = g.clock.cancel t := by rw [Scope.cancel, tokens]
  have fresh : (g.clock.cancel t).fresh = g.clock.fresh := Nat.max_eq_left known.2
  rw [clock]
  constructor <;> try rw [same]
  case made => exact h.made
  case grown => exact h.grown
  case alarms => exact h.alarms
  case base_le => exact fresh ▸ h.base_le
  case tokens => exact fresh ▸ h.tokens
  case own => exact h.own
  case lineage => exact h.lineage
  case deadline => exact h.deadline
  case subjects =>
    intro j told
    rcases Chronicle.cancels_concat.mp told with told | last
    · exact h.subjects j told
    · obtain rfl := Deed.cancel.inj last
      exact (List.getElem?_eq_some_iff.mp found).1
  case cancelled =>
    intro t' base_le
    refine List.mem_cons.trans (Iff.trans (or_congr_right (h.cancelled t' base_le)) ?_)
    constructor
    · rintro (rfl | ⟨j, u, found', own', told⟩)
      · exact ⟨i, s, found, own, Chronicle.cancels_concat.mpr (.inr rfl)⟩
      · exact ⟨j, u, found', own', Chronicle.cancels_concat.mpr (.inl told)⟩
    · rintro ⟨j, u, found', own', told⟩
      rcases Chronicle.cancels_concat.mp told with told | last
      · exact .inr ⟨j, u, found', own', told⟩
      · obtain rfl := Deed.cancel.inj last
        obtain rfl := Option.some.inj (found.symm.trans found')
        exact .inl (Option.some.inj (own'.symm.trans own))

/-- The scope is a new one: it has a token of its own, and of the old ones it has its parent's. -/
structure Sprouts (g : Grove) (o : Origin) (s : Scope) (c : Clock) : Prop where
  own : ∃ t, s.tokens.head? = some t ∧ g.clock.fresh ≤ t
  inherited : ∀ t < g.clock.fresh, t ∈ s.tokens ↔
    ∃ p parent, o.parent = some p ∧ g.scopes[p]? = some parent ∧ t ∈ parent.tokens
  lt_fresh : ∀ t ∈ s.tokens, t < c.fresh
  fresh_le : g.clock.fresh ≤ c.fresh
  cancelled : c.cancelled = g.clock.cancelled
  alarms : c.alarms = g.clock.alarms
  deadline : s.deadline = earlier ((o.parent.bind (g.scopes[·]?)).bind Scope.deadline) o.bound

section Sprout

variable {o : Origin} {s : Scope} {c : Clock}

theorem Keeps.sprout_earliest (h : Keeps base past g) (sprouts : Sprouts g o s c)
    (below : ∀ p ∈ o.parent, p < past.origins.length) :
    IsEarliest {d | Bounds (past.origins ++ [o]) past.origins.length d} s.deadline := by
  have split : {d | Bounds (past.origins ++ [o]) past.origins.length d} =
      {d | ∃ p, o.parent = some p ∧ Bounds past.origins p d} ∪ {d | o.bound = some d} :=
    Set.ext fun d => bounds_last_iff h.grown below
  rw [split, sprouts.deadline]
  refine IsEarliest.earlier ?_ (isEarliest_single o.bound)
  cases derived : o.parent with
  | none => exact Set.eq_empty_of_forall_notMem fun d ⟨p, same, _⟩ => nomatch same
  | some p =>
    have old : p < g.scopes.length := h.made ▸ below p derived
    have inherited : {d | ∃ q, some p = some q ∧ Bounds past.origins q d} =
        {d | Bounds past.origins p d} := by simp
    rw [inherited, Option.bind_some, List.getElem?_eq_getElem old]
    exact h.deadline p _ (List.getElem?_eq_getElem old)

theorem Keeps.sprout_lineage (h : Keeps base past g) (sprouts : Sprouts g o s c)
    (below : ∀ p ∈ o.parent, p < past.origins.length) {i j : Nat} {s' u : Scope} {t : Token}
    (found : (g.scopes ++ [s])[i]? = some s') (found' : (g.scopes ++ [s])[j]? = some u)
    (own : u.tokens.head? = some t) :
    t ∈ s'.tokens ↔ Under (past.origins ++ [o]) i j := by
  have known (u : Scope) (mem : u ∈ g.scopes) (t : Token) (own : u.tokens.head? = some t) :
      t < g.clock.fresh := (h.tokens u mem t (List.mem_of_mem_head? own)).2
  rcases getElem?_concat found with here | ⟨rfl, rfl⟩
  · have old := (List.getElem?_eq_some_iff.mp here).1
    rw [under_concat_iff h.grown (h.made ▸ old)]
    rcases getElem?_concat found' with found' | ⟨rfl, rfl⟩
    · exact h.lineage i j s' u t here found' own
    · -- The new scope is above no old one.
      obtain ⟨t', own', late⟩ := sprouts.own
      obtain rfl := Option.some.inj (own.symm.trans own')
      refine iff_of_false (fun mem => ?_) (fun above => ?_)
      · exact Nat.not_lt_of_le late (h.tokens s' (List.mem_of_getElem? here) t mem).2
      · exact Nat.not_le_of_lt old (above.le h.grown)
  · rcases getElem?_concat found' with found' | ⟨rfl, rfl⟩
    · have old := (List.getElem?_eq_some_iff.mp found').1
      rw [sprouts.inherited t (known u (List.mem_of_getElem? found') t own), h.made,
        under_last_iff h.grown below, or_iff_right (h.made ▸ Nat.ne_of_lt old)]
      refine exists_congr fun p => ⟨?_, ?_⟩
      · rintro ⟨parent, derived, there, mem⟩
        exact ⟨derived, (h.lineage p j parent u t there found' own).mp mem⟩
      · rintro ⟨derived, above⟩
        have there := List.getElem?_eq_getElem (h.made ▸ below p derived)
        exact ⟨_, derived, there, (h.lineage p j _ u t there found' own).mpr above⟩
    · exact iff_of_true (List.mem_of_mem_head? own) (.refl _)

theorem Keeps.sprout (h : Keeps base past g) (sprouts : Sprouts g o s c)
    (below : ∀ p ∈ o.parent, p < past.origins.length) {instant : Nat} {deed : Deed}
    (origin : deed.origin? instant = some o) :
    Keeps base (past ++ [(instant, deed)]) ⟨g.scopes ++ [s], c⟩ := by
  have origins : Chronicle.origins (past ++ [(instant, deed)]) = past.origins ++ [o] := by
    rw [Chronicle.origins_concat, origin]
    rfl
  have cancels (j : Nat) : Chronicle.Cancels (past ++ [(instant, deed)]) j ↔ past.Cancels j := by
    rw [Chronicle.cancels_concat, or_iff_left]
    rintro rfl
    cases origin
  have old_or_new {i : Nat} {s' : Scope} (found : (g.scopes ++ [s])[i]? = some s')
      (old : i < g.scopes.length) : g.scopes[i]? = some s' :=
    (List.getElem?_append_left old).symm.trans found
  constructor <;> try rw [origins]
  case made => simp [h.made]
  case grown => exact h.grown.concat below
  case alarms => exact sprouts.alarms ▸ h.alarms
  case base_le => exact h.base_le.trans sprouts.fresh_le
  case tokens =>
    intro s' mem t there
    rcases List.mem_append.mp mem with mem | new
    · have known := h.tokens s' mem t there
      exact ⟨known.1, Nat.lt_of_lt_of_le known.2 sprouts.fresh_le⟩
    · obtain rfl := List.mem_singleton.mp new
      refine ⟨?_, sprouts.lt_fresh t there⟩
      rcases Nat.lt_or_ge t g.clock.fresh with old | late
      · obtain ⟨p, parent, -, found, there⟩ := (sprouts.inherited t old).mp there
        exact (h.tokens parent (List.mem_of_getElem? found) t there).1
      · exact h.base_le.trans late
  case own =>
    intro s' mem
    rcases List.mem_append.mp mem with mem | new
    · exact h.own s' mem
    · obtain rfl := List.mem_singleton.mp new
      obtain ⟨t, own, -⟩ := sprouts.own
      exact ⟨t, own⟩
  case lineage => exact fun i j s' u t => h.sprout_lineage sprouts below
  case subjects =>
    intro j told
    have old := h.subjects j ((cancels j).mp told)
    simp only [List.length_append, List.length_singleton]
    omega
  case cancelled =>
    intro t base_le
    rw [show c.cancelled = _ from sprouts.cancelled, h.cancelled t base_le]
    constructor
    · rintro ⟨j, u, found, own, told⟩
      refine ⟨j, u, ?_, own, (cancels j).mpr told⟩
      rwa [List.getElem?_append_left (h.subjects j told)]
    · rintro ⟨j, u, found, own, told⟩
      have told := (cancels j).mp told
      exact ⟨j, u, old_or_new found (h.subjects j told), own, told⟩
  case deadline =>
    intro i s' found
    rcases getElem?_concat found with found | ⟨rfl, rfl⟩
    · have same : {d | Bounds (past.origins ++ [o]) i d} = {d | Bounds past.origins i d} :=
        Set.ext fun d =>
          bounds_concat_iff h.grown (h.made ▸ (List.getElem?_eq_some_iff.mp found).1)
      exact same ▸ h.deadline i s' found
    · exact h.made ▸ h.sprout_earliest sprouts below

end Sprout

end Keeps

theorem keeps_nil (c : Clock) : Keeps c.fresh [] ⟨[], c⟩ where
  made := rfl
  grown _ _ _ := nofun
  alarms := c.alarms_lt
  base_le := Nat.le_refl _
  tokens _ := nofun
  own _ := nofun
  lineage _ _ _ _ _ := nofun
  subjects _ := nofun
  cancelled t base_le :=
    iff_of_false (fun mem => Nat.not_le_of_lt (c.cancelled_lt t mem) base_le)
      fun ⟨_, _, found, _⟩ => nomatch found
  deadline _ _ := nofun

theorem sprouts_background (g : Grove) :
    Sprouts g ⟨none, none⟩ (background g.clock).1 (background g.clock).2 where
  own := ⟨_, rfl, Nat.le_refl _⟩
  inherited _ old :=
    iff_of_false (fun mem => Nat.ne_of_lt old (List.mem_singleton.mp mem))
      fun ⟨_, _, found, _⟩ => nomatch found
  lt_fresh _ mem := List.mem_singleton.mp mem ▸ Nat.lt_succ_self _
  fresh_le := Nat.le_succ _
  cancelled := rfl
  alarms := rfl
  deadline := rfl

/-- The scope that a detached one is derived from is not among those that are made. -/
theorem sprouts_detached (g : Grove) (milliseconds : Nat) :
    Sprouts g ⟨none, some (g.clock.now + milliseconds)⟩ (detached milliseconds g.clock).1
      (detached milliseconds g.clock).2 := by
  have two (t : Token) (mem : t ∈ (detached milliseconds g.clock).1.tokens) :
      t = g.clock.fresh + 1 ∨ t = g.clock.fresh :=
    (List.mem_cons.mp mem).imp_right List.mem_singleton.mp
  refine ⟨⟨_, rfl, Nat.le_succ _⟩, fun t old => ?inherited, fun t mem => ?lt_fresh,
    Nat.le_add_right _ 2, rfl, rfl, rfl⟩
  case inherited =>
    refine iff_of_false (fun mem => ?_) fun ⟨_, _, found, _⟩ => nomatch found
    rcases two t mem with rfl | rfl
    · exact Nat.not_succ_lt_self old
    · exact Nat.lt_irrefl _ old
  case lt_fresh =>
    rcases two t mem with rfl | rfl
    · exact Nat.lt_succ_self _
    · exact Nat.lt_add_of_pos_right (by decide : 0 < 2)

theorem sprouts_derive {g : Grove} {p : Nat} {parent : Scope} (found : g.scopes[p]? = some parent)
    (known : ∀ t ∈ parent.tokens, t < g.clock.fresh) (bound : Option Nat) :
    Sprouts g ⟨some p, bound⟩ (derive parent.tokens (earlier parent.deadline bound) g.clock).1
      (derive parent.tokens (earlier parent.deadline bound) g.clock).2 where
  own := ⟨_, rfl, Nat.le_refl _⟩
  inherited t old := by
    refine List.mem_cons.trans ((or_iff_right (Nat.ne_of_lt old)).trans ⟨?_, ?_⟩)
    · exact fun mem => ⟨p, parent, rfl, found, mem⟩
    · rintro ⟨p', parent', same, found', mem⟩
      obtain rfl := Option.some.inj same
      obtain rfl := Option.some.inj (found.symm.trans found')
      exact mem
  lt_fresh t mem := by
    rcases List.mem_cons.mp mem with rfl | mem
    · exact Nat.lt_succ_self _
    · exact Nat.lt_succ_of_lt (known t mem)
  fresh_le := Nat.le_succ _
  cancelled := rfl
  alarms := rfl
  deadline := by simp [derive, Clock.issue, found]

/-! ## A whole chronicle -/

section Chronicle

variable {base : Token} {past : Chronicle} {g : Grove}

/-- What is done to the scopes that are there keeps what is kept. -/
theorem Keeps.perform (h : Keeps base past g) {deed : Deed}
    (known : ∀ i ∈ deed.subject?, i < past.origins.length) :
    ∃ g', g.perform? deed = some g' ∧ g'.clock.now = g.clock.now ∧
      Keeps base (past ++ [(g.clock.now, deed)]) g' := by
  have subject (i : Nat) (mem : i ∈ deed.subject?) :
      ∃ s, g.scopes[i]? = some s ∧ ∀ t ∈ s.tokens, t < g.clock.fresh := by
    have there := List.getElem?_eq_getElem (h.made ▸ known i mem)
    exact ⟨_, there, fun t mem => (h.tokens _ (List.mem_of_getElem? there) t mem).2⟩
  cases deed with
  | background => exact ⟨_, rfl, rfl, h.sprout (sprouts_background g) (fun _ => nofun) rfl⟩
  | detached milliseconds =>
    exact ⟨_, rfl, rfl, h.sprout (sprouts_detached g milliseconds) (fun _ => nofun) rfl⟩
  | withTimeout p milliseconds =>
    obtain ⟨parent, found, old⟩ := subject p rfl
    refine ⟨g.grow (parent.withTimeout milliseconds), ?_, rfl, ?_⟩
    · rw [perform?, found, Option.map_some]
    · exact h.sprout (sprouts_derive found old _) known rfl
  | child p =>
    obtain ⟨parent, found, old⟩ := subject p rfl
    refine ⟨g.grow parent.child, ?_, rfl, ?_⟩
    · rw [perform?, found, Option.map_some]
    · have sprouts := sprouts_derive found old none
      rw [show earlier parent.deadline none = parent.deadline from by
        cases parent.deadline <;> rfl] at sprouts
      exact h.sprout sprouts known rfl
  | cancel i =>
    obtain ⟨s, found, -⟩ := subject i rfl
    refine ⟨{ g with clock := s.cancel g.clock }, ?_, ?_, h.cancel found g.clock.now⟩
    · rw [perform?, found, Option.map_some]
    · rw [Scope.cancel]
      split <;> rfl

theorem Keeps.performAll (later : Chronicle) (h : Keeps base past g)
    (orderly : later.Orderly g.clock.now past.origins.length) :
    ∃ g', g.performAll? later = some g' ∧ Keeps base (past ++ later) g' := by
  induction later generalizing past g with
  | nil => exact ⟨g, rfl, (List.append_nil past).symm ▸ h⟩
  | cons entry later ih =>
    obtain ⟨instant, deed⟩ := entry
    obtain ⟨on, known, orderly⟩ := orderly
    have now : (g.await instant).clock.now = instant := Nat.max_eq_right on
    obtain ⟨g₁, performed, same, h₁⟩ := (h.await instant).perform known
    rw [now] at same h₁
    have made : (Chronicle.origins (past ++ [(instant, deed)])).length =
        past.origins.length + (deed.origin? instant).toList.length := by
      rw [Chronicle.origins_concat, List.length_append]
    obtain ⟨g', performedAll, h'⟩ := ih h₁ (by rwa [same, made])
    refine ⟨g', ?_, ?_⟩
    · rw [performAll?, performed]
      exact performedAll
    · rwa [List.append_assoc] at h'

end Chronicle

end Grove

/-- However scopes are made and cancelled as time goes on, a derived one never outlasts the one it
was derived from, and what is cancelled is what descends from a scope that was. -/
theorem derived_scopes_tighten (c : Clock) (chronicle : Chronicle)
    (orderly : chronicle.Orderly c.now 0) :
    ∃ g, (Grove.mk [] c).performAll? chronicle = some g ∧ g.Tells chronicle := by
  obtain ⟨g, performed, kept⟩ := (Grove.keeps_nil c).performAll chronicle orderly
  exact ⟨g, performed, kept.tells⟩

/-- Scopes derived before and after a cancellation, next to one that stands alone. -/
def saplings : Chronicle :=
  [(0, .background), (1, .withTimeout 0 100), (2, .detached 7), (2, .child 1), (5, .cancel 1),
    (6, .withTimeout 3 500), (6, .withTimeout 0 10), (9, .child 2)]

theorem derived_scopes_tighten_of_saplings :
    saplings.Orderly 0 0 ∧
      ∃ g, (Grove.mk [] .start).performAll? saplings = some g ∧ g.Tells saplings :=
  ⟨by decide, derived_scopes_tighten .start saplings (by decide)⟩

end Scope

end Recovery
