import Recovery.Proofs.Instant.Text
/-!
# The order of texts of instants

In the years 0 to 9999 the texts without parts of seconds are all of one length, and they come in
the order of their seconds: every number in them has a fixed width, and the greater part of the time
stands before the smaller one.
-/
set_option autoImplicit false

namespace Recovery

namespace Instant

/-! ## Numbers of one width -/

/-- Of two rows of digits of one length the one with the smaller value comes first. -/
theorem lt_of_foldl_lt {xs ys : List Char} (same : xs.length = ys.length)
    (digits : ∀ c ∈ xs, c.isDigit = true) (digits' : ∀ c ∈ ys, c.isDigit = true) {n : Nat}
    (h : xs.foldl (fun n d => n * 10 + (d.toNat - '0'.toNat)) n <
      ys.foldl (fun n d => n * 10 + (d.toNat - '0'.toNat)) n) : xs < ys := by
  induction xs generalizing ys n with
  | nil =>
    cases ys with
    | nil => exact absurd h (Nat.lt_irrefl _)
    | cons y ys => cases same
  | cons x xs ih =>
    cases ys with
    | nil => cases same
    | cons y ys =>
      have x_digit := Text.digit_bounds (digits x List.mem_cons_self)
      have y_digit := Text.digit_bounds (digits' y List.mem_cons_self)
      have rest := fun c member => digits c (List.mem_cons_of_mem x member)
      have rest' := fun c member => digits' c (List.mem_cons_of_mem y member)
      rw [List.length_cons, List.length_cons, Nat.succ_inj] at same
      rw [List.foldl_cons, List.foldl_cons] at h
      rw [List.cons_lt_cons_iff]
      rcases Nat.lt_trichotomy x.toNat y.toNat with before | equal | after
      · exact .inl before
      · have heads : x = y := Char.toNat_inj.mp equal
        subst heads
        exact .inr ⟨rfl, ih same rest rest' h⟩
      -- a greater first digit outweighs whatever comes after it
      · have low := Text.le_foldl_digits xs (n * 10 + (x.toNat - '0'.toNat))
        have high := Text.foldl_digits_lt rest' (n * 10 + (y.toNat - '0'.toNat))
        have weight := Nat.mul_le_mul_right (10 ^ xs.length)
          (show n * 10 + (y.toNat - '0'.toNat) + 1 ≤ n * 10 + (x.toNat - '0'.toNat) by omega)
        rw [← same] at high
        omega

theorem append_lt_append {xs ys : List Char} (same : xs.length = ys.length) (h : xs < ys)
    (as bs : List Char) : xs ++ as < ys ++ bs := by
  induction xs generalizing ys with
  | nil =>
    cases ys with
    | nil => exact absurd h (List.lt_irrefl _)
    | cons y ys => cases same
  | cons x xs ih =>
    cases ys with
    | nil => cases same
    | cons y ys =>
      rw [List.length_cons, List.length_cons, Nat.succ_inj] at same
      rw [List.cons_lt_cons_iff] at h
      rw [List.cons_append, List.cons_append, List.cons_lt_cons_iff]
      rcases h with before | ⟨heads, after⟩
      · exact .inl before
      · exact .inr ⟨heads, ih same after⟩

/-- Of two texts that begin with numbers of one width the one with the smaller number comes first,
and if the numbers are the same, what follows them decides. -/
theorem padded_append_lt {width n m : Nat} (pos : 0 < width) (fits : n < 10 ^ width)
    (fits' : m < 10 ^ width) {as bs : List Char} (h : n < m ∨ n = m ∧ as < bs) :
    padded width n ++ as < padded width m ++ bs := by
  rcases h with before | ⟨same, after⟩
  · apply append_lt_append
    · rw [length_padded fits pos, length_padded fits' pos]
    · apply lt_of_foldl_lt (n := 0)
      · rw [length_padded fits pos, length_padded fits' pos]
      · exact fun c => isDigit_of_mem_padded
      · exact fun c => isDigit_of_mem_padded
      · rwa [foldl_padded, foldl_padded]
  · rw [same]
    exact List.append_left_lt after

theorem mark_lt {mark : Char} {as bs : List Char} (h : as < bs) : mark :: as < mark :: bs :=
  List.cons_lt_cons_iff.mpr (.inr ⟨rfl, h⟩)

/-! ## Whole seconds -/

theorem before_of_lt {t u : Instant} (h : t.seconds < u.seconds) :
    t.date.Before u.date ∨ t.date = u.date ∧ t.secondOfDay < u.secondOfDay := by
  have day_pos : (0 : Int) < secondsPerDay := by decide
  have sum := seconds_eq t
  have sum' := seconds_eq u
  have inDay := secondOfDay_lt t
  have inDay' := secondOfDay_lt u
  rcases Int.lt_trichotomy (t.seconds.fdiv secondsPerDay) (u.seconds.fdiv secondsPerDay) with
    before | same | after
  · exact .inl (Date.ofDays_before before)
  · have dates : t.date = u.date := congrArg Date.ofDays same
    rw [dates] at sum
    exact .inr ⟨dates, by omega⟩
  · have days : u.date.toDays < t.date.toDays := by
      rw [date, date, Date.toDays_ofDays, Date.toDays_ofDays]
      exact after
    unfold secondsPerDay at *
    omega

namespace IsPlain

variable {t u : Instant}

theorem yearText_eq (plain : t.IsPlain) : yearText t.date.year = padded 4 t.date.year.toNat :=
  if_pos ⟨plain.year_nonneg, plain.year_le⟩

theorem leaps_eq (plain : t.IsPlain) : t.nanos / nanosPerSecond = 0 :=
  Nat.div_eq_of_lt plain.nanos_lt

theorem chars_eq (plain : t.IsPlain) (mark : Char) :
    t.chars mark .omitted =
      padded 4 t.date.year.toNat ++ '-' :: (padded 2 t.date.month ++ '-' ::
        (padded 2 t.date.day ++ 'T' :: (padded 2 (t.secondOfDay / 3600) ++ mark ::
          (padded 2 (t.secondOfDay / 60 % 60) ++ mark ::
            (padded 2 (t.secondOfDay % 60) ++ ['Z']))))) := by
  simp [chars, plain.yearText_eq, plain.leaps_eq, Fraction.text]

theorem year_lt (plain : t.IsPlain) : t.date.year.toNat < 10 ^ 4 := by
  have := plain.year_nonneg
  have := plain.year_le
  omega

theorem length_chars (plain : t.IsPlain) (mark : Char) : (t.chars mark .omitted).length = 20 := by
  have inDay := secondOfDay_lt t
  unfold secondsPerDay at inDay
  obtain ⟨month_lt, day_lt⟩ := plain.isReadable.date_fits
  have two : ∀ n, n < 100 → (padded 2 n).length = 2 := fun n fits =>
    length_padded (show n < 10 ^ 2 from fits) (by decide)
  simp only [plain.chars_eq, List.length_append, List.length_cons, List.length_nil,
    length_padded plain.year_lt (by decide), two _ month_lt, two _ day_lt,
    two (t.secondOfDay / 3600) (by omega), two (t.secondOfDay / 60 % 60) (by omega),
    two (t.secondOfDay % 60) (by omega)]

/-- Two instants in the same second have the same text. -/
theorem chars_congr (plain : t.IsPlain) (plain' : u.IsPlain) (same : t.seconds = u.seconds)
    (mark : Char) : t.chars mark .omitted = u.chars mark .omitted := by
  rw [plain.chars_eq, plain'.chars_eq]
  simp only [date, secondOfDay, same]

/-- The text of an earlier second comes first. -/
theorem chars_lt (plain : t.IsPlain) (plain' : u.IsPlain) (h : t.seconds < u.seconds)
    (mark : Char) : t.chars mark .omitted < u.chars mark .omitted := by
  have inDay := secondOfDay_lt t
  have inDay' := secondOfDay_lt u
  unfold secondsPerDay at inDay inDay'
  have year_lt := plain.year_lt
  have year_lt' := plain'.year_lt
  have year_nonneg := plain.year_nonneg
  obtain ⟨month_lt, day_lt⟩ := plain.isReadable.date_fits
  obtain ⟨month_lt', day_lt'⟩ := plain'.isReadable.date_fits
  have field : ∀ {n m : Nat} {as bs : List Char}, n < 100 → m < 100 → (n < m ∨ n = m ∧ as < bs) →
      padded 2 n ++ as < padded 2 m ++ bs := fun {n m} _ _ fits fits' =>
    padded_append_lt (by decide) (show n < 10 ^ 2 from fits) (show m < 10 ^ 2 from fits')
  rw [plain.chars_eq, plain'.chars_eq]
  rcases before_of_lt h with before | ⟨dates, later⟩
  · unfold Date.Before at before
    apply padded_append_lt (by decide) year_lt year_lt'
    refine before.imp (by omega) fun ⟨years, before⟩ => ⟨by omega, mark_lt ?_⟩
    apply field month_lt month_lt'
    refine before.imp_right fun ⟨months, before⟩ => ⟨months, mark_lt ?_⟩
    exact field day_lt day_lt' (.inl before)
  · rw [dates]
    refine List.append_left_lt (mark_lt ?_)
    refine List.append_left_lt (mark_lt ?_)
    refine List.append_left_lt (mark_lt ?_)
    by_cases hours : t.secondOfDay / 3600 = u.secondOfDay / 3600
    · rw [hours]
      refine List.append_left_lt (mark_lt ?_)
      by_cases minutes : t.secondOfDay / 60 % 60 = u.secondOfDay / 60 % 60
      · rw [minutes]
        refine List.append_left_lt (mark_lt ?_)
        exact field (by omega) (by omega) (.inl (by omega))
      · exact field (by omega) (by omega) (.inl (by omega))
    · exact field (by omega) (by omega) (.inl (by omega))

end IsPlain

end Instant

end Recovery
