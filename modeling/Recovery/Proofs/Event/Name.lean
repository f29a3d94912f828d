import Recovery.Event
import Recovery.Proofs.Instant.Order
import Recovery.Proofs.Text.Bytes
/-!
# Names of runs

The time in a full name has a fixed width, so that a full name holds the name of the recipe and the
second of the start and nothing else, whatever the recipe is called. Under one recipe the full names
are ordered by their bytes as the runs are ordered in time.
-/
set_option autoImplicit false

namespace Recovery

theorem Instant.IsPlain.ascii {t : Instant} (plain : t.IsPlain) {mark c : Char}
    (ascii : mark.toNat < 128) (member : c ∈ t.chars mark .omitted) : c.toNat < 128 := by
  have digit : ∀ {width n}, c ∈ padded width n → c.toNat < 128 := fun member =>
    Nat.lt_of_le_of_lt (Text.digit_bounds (isDigit_of_mem_padded member)).2 (by decide)
  rw [plain.chars_eq] at member
  simp only [List.mem_append, List.mem_cons, List.not_mem_nil, or_false] at member
  rcases member with h | rfl | h | rfl | h | rfl | h | rfl | h | rfl | h | rfl
  all_goals first
    | exact digit h
    | exact ascii
    | decide

/-! ## Full names -/

namespace Event

theorem toList_fullName (e : Event) :
    e.fullName.toList = e.name.toList ++ '-' :: e.startTime.chars '-' .omitted := by
  simp [fullName]

theorem bytes_fullName (e : Event) :
    Text.bytes e.fullName = Text.bytes (e.name ++ "-") ++
      (e.startTime.chars '-' .omitted).flatMap String.utf8EncodeChar := by
  rw [fullName, Text.bytes_append, Text.bytes_ofList]

variable {a b : Event}

theorem fullName_congr (plain : a.startTime.IsPlain) (plain' : b.startTime.IsPlain)
    (names : a.name = b.name) (seconds : a.startTime.seconds = b.startTime.seconds) :
    a.fullName = b.fullName := by
  rw [fullName, fullName, names, plain.chars_congr plain' seconds]

theorem bytes_fullName_lt (plain : a.startTime.IsPlain) (plain' : b.startTime.IsPlain)
    (names : a.name = b.name) (earlier : a.startTime.seconds < b.startTime.seconds) :
    Text.bytes a.fullName < Text.bytes b.fullName := by
  have ascii : '-'.toNat < 128 := by decide
  rw [bytes_fullName, bytes_fullName, names]
  apply List.append_left_lt
  apply Text.flatMap_lt_of_ascii
  · exact fun c => plain.ascii ascii
  · exact fun c => plain'.ascii ascii
  · exact plain.chars_lt plain' earlier '-'

theorem bytes_fullName_lt_iff (plain : a.startTime.IsPlain) (plain' : b.startTime.IsPlain)
    (names : a.name = b.name) :
    Text.bytes a.fullName < Text.bytes b.fullName ↔ a.startTime.seconds < b.startTime.seconds := by
  constructor
  · intro before
    rcases Int.lt_trichotomy a.startTime.seconds b.startTime.seconds with
      earlier | same | later
    · exact earlier
    · rw [fullName_congr plain plain' names same] at before
      exact absurd before (List.lt_irrefl _)
    · have after := bytes_fullName_lt plain' plain names.symm later
      exact absurd after (List.lt_asymm before)
  · exact bytes_fullName_lt plain plain' names

theorem fullName_eq_iff (plain : a.startTime.IsPlain) (plain' : b.startTime.IsPlain) :
    a.fullName = b.fullName ↔ a.name = b.name ∧ a.startTime.seconds = b.startTime.seconds := by
  constructor
  · intro same
    -- both times are of one length, so the texts are cut at the same place
    have texts := congrArg String.toList same
    rw [toList_fullName, toList_fullName] at texts
    have lengths : ('-' :: a.startTime.chars '-' .omitted).length =
        ('-' :: b.startTime.chars '-' .omitted).length := by
      rw [List.length_cons, List.length_cons, plain.length_chars, plain'.length_chars]
    have names : a.name = b.name := String.toList_inj.mp (List.append_inj' texts lengths).1
    refine ⟨names, ?_⟩
    rcases Int.lt_trichotomy a.startTime.seconds b.startTime.seconds with
      earlier | equal | later
    · have before := bytes_fullName_lt plain plain' names earlier
      rw [same] at before
      exact absurd before (List.lt_irrefl _)
    · exact equal
    · have before := bytes_fullName_lt plain' plain names.symm later
      rw [same] at before
      exact absurd before (List.lt_irrefl _)
  · exact fun ⟨names, seconds⟩ => fullName_congr plain plain' names seconds

/-- Runs in the order of their full names are in the order of their starts, and the other way
round. -/
theorem sorted_fullName_iff {name : String} {runs : List Event}
    (plain : ∀ e ∈ runs, e.startTime.IsPlain) (named : ∀ e ∈ runs, e.name = name) :
    runs.Pairwise (fun a b => Text.bytes a.fullName ≤ Text.bytes b.fullName) ↔
      runs.Pairwise (fun a b => a.startTime.seconds ≤ b.startTime.seconds) := by
  apply List.Pairwise.iff_of_mem
  intro a b member member'
  have names := (named b member').trans (named a member).symm
  have order := bytes_fullName_lt_iff (plain b member') (plain a member) names
  rw [← List.not_lt, order, Int.not_lt]

/-- A full name tells the recipe and the second of the start, and nothing else; under one recipe
full names are ordered as the seconds of the starts, so that runs sorted by name are sorted in
time. -/
theorem fullName_identifies_and_orders (runs : List Event)
    (plain : ∀ e ∈ runs, e.startTime.IsPlain) :
    (∀ a ∈ runs, ∀ b ∈ runs,
      (a.fullName = b.fullName ↔
        a.name = b.name ∧ a.startTime.seconds = b.startTime.seconds) ∧
      (a.name = b.name →
        (Text.bytes a.fullName < Text.bytes b.fullName ↔
          a.startTime.seconds < b.startTime.seconds))) ∧
    ∀ name, (∀ e ∈ runs, e.name = name) →
      (runs.Pairwise (fun a b => Text.bytes a.fullName ≤ Text.bytes b.fullName) ↔
        runs.Pairwise (fun a b => a.startTime.seconds ≤ b.startTime.seconds)) := by
  constructor
  · intro a member b member'
    exact ⟨fullName_eq_iff (plain a member) (plain b member'),
      bytes_fullName_lt_iff (plain a member) (plain b member')⟩
  · intro name named
    exact sorted_fullName_iff plain named

theorem nightly_fullNames :
    (start "nightly" ⟨0, 0⟩).fullName = (start "nightly" ⟨0, 999999999⟩).fullName ∧
      Text.bytes (start "nightly" ⟨-1, 999999999⟩).fullName <
        Text.bytes (start "nightly" ⟨0, 0⟩).fullName := by
  have laws := fullName_identifies_and_orders
    [start "nightly" ⟨-1, 999999999⟩, start "nightly" ⟨0, 0⟩, start "nightly" ⟨0, 999999999⟩]
    (by
      simp only [List.forall_mem_cons, List.not_mem_nil, false_implies, implies_true, and_true]
      exact ⟨⟨by decide, by decide, by decide⟩, ⟨by decide, by decide, by decide⟩,
        ⟨by decide, by decide, by decide⟩⟩)
  have same := laws.1 (start "nightly" ⟨0, 0⟩) (by simp) (start "nightly" ⟨0, 999999999⟩) (by simp)
  have order := laws.1 (start "nightly" ⟨-1, 999999999⟩) (by simp) (start "nightly" ⟨0, 0⟩)
    (by simp)
  exact ⟨same.1.mpr ⟨rfl, rfl⟩, (order.2 rfl).mpr (by decide)⟩

end Event

end Recovery
