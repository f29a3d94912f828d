import Recovery.Proofs.Watch.Feed
/-!
# The history of an object

A server keeps the changes of an object in the order of their versions. A watch delivers those that
are later than the version it was opened at, and bookmarks that skip none.
-/
set_option autoImplicit false

namespace Recovery

variable {α : Type}

inductive Fate where
  | added
  | modified
  | deleted
deriving Repr, DecidableEq

/-- What has become of the object, and with which version. -/
structure Change (α : Type) where
  version : Nat
  fate : Fate
  object : α

namespace Change

def event (c : Change α) : WatchEvent α :=
  match c.fate with
  | .added => .added c.object
  | .modified => .modified c.object
  | .deleted => .deleted c.object

/-- The object that there is after the change. -/
def object? (c : Change α) : Option α :=
  match c.fate with
  | .added | .modified => some c.object
  | .deleted => none

/-- Changes in order fall into those up to a version and those after it. -/
theorem filter_between {changes : List (Change α)} {v r s : Nat}
    (ordered : changes.Pairwise fun c d => c.version < d.version) (hr : v ≤ r) (hs : r ≤ s) :
    changes.filter (fun c => decide (v < c.version ∧ c.version ≤ s)) =
      changes.filter (fun c => decide (v < c.version ∧ c.version ≤ r)) ++
        changes.filter (fun c => decide (r < c.version ∧ c.version ≤ s)) := by
  induction changes with
  | nil => rfl
  | cons c changes ih =>
    obtain ⟨first, ordered⟩ := List.pairwise_cons.mp ordered
    have ih := ih ordered
    by_cases late : r < c.version
    · have none : changes.filter (fun c => decide (v < c.version ∧ c.version ≤ r)) = [] := by
        rw [List.filter_eq_nil_iff]
        intro d hd
        have := first d hd
        simp only [decide_eq_true_eq]
        omega
      rw [none, List.nil_append] at ih
      simp only [List.filter_cons, ih, none]
      have : v < c.version := by omega
      have : ¬ c.version ≤ r := by omega
      simp [*]
    · have : ¬ r < c.version := late
      have : c.version ≤ r := by omega
      have : c.version ≤ s := by omega
      simp only [List.filter_cons, ih]
      by_cases early : v < c.version <;> simp [*]

end Change

/-! ## Histories -/

/-- What has become of an object so far. Every change has a later version than the one before it,
and objects carry the label of their version. -/
structure History (α : Type) [Resource α] where
  changes : List (Change α)
  /-- The version that the server has come to. -/
  now : Nat
  label : Nat → String
  reached : ∀ c ∈ changes, c.version ≤ now
  distinct : ∀ v r, label v = label r → v = r
  ordered : changes.Pairwise fun c d => c.version < d.version
  labelled : ∀ c ∈ changes,
    (Resource.metadata c.object).resourceVersion = some (label c.version)

namespace History

variable [Resource α] (h : History α)

/-- The changes after one version and up to another one. -/
def between (v r : Nat) : List (Change α) :=
  h.changes.filter fun c => decide (v < c.version ∧ c.version ≤ r)

/-- The objects that were added or modified after one version and up to another one. -/
def upserts (v r : Nat) : List α := (h.between v r).filterMap Change.object?

/-- What there is of the object as of a version. -/
def state (v : Nat) : List α :=
  ((h.changes.filter (·.version ≤ v)).getLast?.bind Change.object?).toList

/-- The first change after a version. -/
def next? (v : Nat) : Option (Change α) := h.changes.find? (v < ·.version)

/-- What a watch may deliver that has come to a version. It may end, break off or report an error
anywhere. -/
inductive Feeds : Nat → List (Delivery α) → Prop where
  | ends (v : Nat) : Feeds v []
  | fails (v delay : Nat) (fault : Fault) (rest : List (Delivery α)) :
    Feeds v (⟨delay, .error fault⟩ :: rest)
  | refuses (v delay : Nat) (status : ErrorStatus) (rest : List (Delivery α)) :
    Feeds v (⟨delay, .ok (.error status)⟩ :: rest)
  | change {v : Nat} (delay : Nat) {c : Change α} {rest : List (Delivery α)} :
    h.next? v = some c → Feeds c.version rest → Feeds v (⟨delay, .ok c.event⟩ :: rest)
  | bookmark {v b : Nat} (delay : Nat) {rest : List (Delivery α)} :
    v ≤ b → b ≤ h.now → h.between v b = [] → Feeds b rest →
    Feeds v (⟨delay, .ok (.bookmark (h.label b))⟩ :: rest)

theorem between_self (v : Nat) : h.between v v = [] := by
  rw [between, List.filter_eq_nil_iff]
  intro c _
  simp only [decide_eq_true_eq]
  omega

theorem between_append {v r s : Nat} (hr : v ≤ r) (hs : r ≤ s) :
    h.between v s = h.between v r ++ h.between r s :=
  Change.filter_between h.ordered hr hs

theorem next?_spec {v : Nat} {c : Change α} (next : h.next? v = some c) :
    c ∈ h.changes ∧ v < c.version ∧ h.between v c.version = [c] := by
  obtain ⟨late, before, after, split, early⟩ := List.find?_eq_some_iff_append.mp next
  have ordered := h.ordered
  rw [split] at ordered
  obtain ⟨-, ordered, -⟩ := List.pairwise_append.mp ordered
  have later := (List.pairwise_cons.mp ordered).1
  have late : v < c.version := by simpa using late
  refine ⟨by rw [split]; simp, late, ?_⟩
  have none_before :
      before.filter (fun d => decide (v < d.version ∧ d.version ≤ c.version)) = [] := by
    rw [List.filter_eq_nil_iff]
    intro d hd
    have := early d hd
    simp only [Bool.not_eq_eq_eq_not, Bool.not_true, decide_eq_false_iff_not] at this
    simp only [decide_eq_true_eq]
    omega
  have none_after :
      after.filter (fun d => decide (v < d.version ∧ d.version ≤ c.version)) = [] := by
    rw [List.filter_eq_nil_iff]
    intro d hd
    have := later d hd
    simp only [decide_eq_true_eq]
    omega
  rw [between, split, List.filter_append, List.filter_cons, none_before, none_after]
  simp [late]

theorem upserts_self (v : Nat) : h.upserts v v = [] := by
  rw [upserts, between_self, List.filterMap_nil]

theorem upserts_append {v r s : Nat} (hr : v ≤ r) (hs : r ≤ s) :
    h.upserts v s = h.upserts v r ++ h.upserts r s := by
  rw [upserts, between_append h hr hs, List.filterMap_append, upserts, upserts]

theorem upserts_next {v : Nat} {c : Change α} (next : h.next? v = some c) :
    h.upserts v c.version = c.object?.toList := by
  obtain ⟨-, -, between⟩ := h.next?_spec next
  rw [upserts, between, List.filterMap_cons, List.filterMap_nil]
  cases c.object? <;> rfl

/-- What is seen of a feed is what was added or modified up to the version seen last. A deletion
moves the watch on but not the version seen: no object is between the two. -/
theorem Feeds.seen {v u : Nat} {deliveries : List (Delivery α)} (feeds : h.Feeds u deliveries)
    (hu : v ≤ u) (gap : h.upserts v u = []) :
    ∃ r, v ≤ r ∧ Feed.lastSeen (h.label v) deliveries = h.label r ∧
      Feed.objects deliveries = h.upserts v r := by
  induction feeds generalizing v with
  | ends | fails | refuses => exact ⟨v, Nat.le_refl v, rfl, (h.upserts_self v).symm⟩
  | @change u delay c rest next _ ih =>
    obtain ⟨mem, late, -⟩ := h.next?_spec next
    have label := h.labelled c mem
    have upto : h.upserts v c.version = c.object?.toList := by
      rw [upserts_append h hu (Nat.le_of_lt late), gap, List.nil_append, upserts_next h next]
    have hc : v ≤ c.version := Nat.le_trans hu (Nat.le_of_lt late)
    obtain ⟨version, fate, object⟩ := c
    cases fate with
    | added | modified =>
      obtain ⟨r, hr, seen, objects⟩ := ih (Nat.le_refl version) (h.upserts_self version)
      refine ⟨r, Nat.le_trans hc hr, ?_, ?_⟩
      · rw [← seen]
        simp only [Change.event, Feed.lastSeen]
        rw [label, Option.getD_some]
      · rw [upserts_append h hc hr, upto, ← objects]
        rfl
    | deleted =>
      obtain ⟨r, hr, seen, objects⟩ := ih hc upto
      exact ⟨r, hr, seen, objects⟩
  | @bookmark u b delay rest hb _ none _ ih =>
    obtain ⟨r, hr, seen, objects⟩ := ih (Nat.le_refl b) (h.upserts_self b)
    have upto : h.upserts v b = [] := by
      rw [upserts_append h hu hb, gap, upserts, none]
      rfl
    have hvb : v ≤ b := Nat.le_trans hu hb
    refine ⟨r, Nat.le_trans hvb hr, seen, ?_⟩
    rw [upserts_append h hvb hr, upto, List.nil_append]
    exact objects

/-! ## Histories that grow -/

/-- The history has gone on, and only later changes have come to it. -/
structure Grows (h h' : History α) : Prop where
  now_le : h.now ≤ h'.now
  label : h'.label = h.label
  changes : ∃ more, h'.changes = h.changes ++ more ∧ ∀ c ∈ more, h.now < c.version

namespace Grows

variable {h h' : History α}

theorem refl (h : History α) : h.Grows h :=
  ⟨Nat.le_refl _, rfl, [], (List.append_nil _).symm, nofun⟩

theorem state (grows : h.Grows h') {v : Nat} (hv : v ≤ h.now) : h'.state v = h.state v := by
  obtain ⟨more, changes, later⟩ := grows.changes
  have none : more.filter (·.version ≤ v) = [] := by
    rw [List.filter_eq_nil_iff]
    intro c hc
    have := later c hc
    simp only [decide_eq_true_eq]
    omega
  rw [History.state, changes, List.filter_append, none, List.append_nil, History.state]

theorem between_nil (grows : h.Grows h') {v b : Nat} (hb : b ≤ h.now) (none : h.between v b = []) :
    h'.between v b = [] := by
  obtain ⟨more, changes, later⟩ := grows.changes
  rw [History.between] at none
  rw [History.between, changes, List.filter_append, none, List.nil_append, List.filter_eq_nil_iff]
  intro c hc
  have := later c hc
  simp only [decide_eq_true_eq]
  omega

theorem next? (grows : h.Grows h') {v : Nat} {c : Change α} (next : h.next? v = some c) :
    h'.next? v = some c := by
  obtain ⟨more, changes, -⟩ := grows.changes
  rw [History.next?] at next
  rw [History.next?, changes, List.find?_append, next, Option.some_or]

theorem feeds (grows : h.Grows h') {v : Nat} {deliveries : List (Delivery α)}
    (feeds : h.Feeds v deliveries) : h'.Feeds v deliveries := by
  induction feeds with
  | ends v => exact .ends v
  | fails v delay fault rest => exact .fails v delay fault rest
  | refuses v delay status rest => exact .refuses v delay status rest
  | change delay next _ ih => exact .change delay (grows.next? next) ih
  | bookmark delay hvb hb none _ ih =>
    rw [← grows.label]
    exact .bookmark delay hvb (Nat.le_trans hb grows.now_le) (grows.between_nil hb none) ih

end Grows

end History

end Recovery
