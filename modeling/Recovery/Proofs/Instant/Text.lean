import Recovery.Proofs.Instant.Calendar
import Recovery.Proofs.Text.Digits
/-!
# The text of an instant

Each part of the text is read up to the mark that follows it, so that what is written is read back,
except for the parts of a second that are not written.
-/
set_option autoImplicit false

namespace Recovery

namespace Instant

/-! ## Numbers -/

theorem isDigit_of_mem_padded {width n : Nat} {c : Char} (member : c ∈ padded width n) :
    c.isDigit = true := by
  simp only [padded, List.mem_append, List.mem_replicate] at member
  rcases member with ⟨-, rfl⟩ | digit
  · rfl
  · exact Text.isDigit_of_mem_toDigits digit

theorem length_padded {width n : Nat} (small : n < 10 ^ width) (some_digit : 0 < width) :
    (padded width n).length = width := by
  have short := (Nat.length_toDigits_le_iff (by decide : 1 < 10) some_digit).mpr small
  simp only [padded, List.length_append, List.length_replicate]
  omega

theorem padded_ne_nil (width n : Nat) : padded width n ≠ [] := by
  simp [padded, Nat.toDigits_ne_nil]

theorem foldl_padded (width n : Nat) :
    (padded width n).foldl (fun n d => n * 10 + (d.toNat - '0'.toNat)) 0 = n :=
  Text.foldl_zeros_toDigits _ n

theorem takeWhile_padded (width n : Nat) {mark : Char} (rest : List Char)
    (stop : mark.isDigit = false) :
    (padded width n ++ mark :: rest).takeWhile Char.isDigit = padded width n := by
  rw [List.takeWhile_append_of_pos fun c member => isDigit_of_mem_padded member,
    List.takeWhile_cons_of_neg (by simp [stop]), List.append_nil]

theorem number?_padded {most : Option Nat} {width n : Nat} {mark : Char} (rest : List Char)
    (stop : mark.isDigit = false) (fits : ∀ m ∈ most, (padded width n).length ≤ m) :
    number? most (padded width n ++ mark :: rest) = some (n, mark :: rest) := by
  have all : (most.map (padded width n).take).getD (padded width n) = padded width n := by
    cases most with
    | none => rfl
    | some m => exact List.take_of_length_le (fits m rfl)
  have some_digit : (padded width n).isEmpty = false := by
    simp [padded_ne_nil]
  unfold number?
  simp only [takeWhile_padded width n rest stop, all, some_digit, foldl_padded,
    List.drop_left, Bool.false_eq_true, if_false]

/-! ## Parts -/

theorem skipBlanks_cons {c : Char} (rest : List Char) (visible : Text.isBlank c = false) :
    skipBlanks (c :: rest) = c :: rest :=
  List.dropWhile_cons_of_neg (by simp [visible])

theorem skipBlanks_padded (width n : Nat) (rest : List Char) :
    skipBlanks (padded width n ++ rest) = padded width n ++ rest := by
  obtain ⟨c, digits, digits_eq⟩ := List.exists_cons_of_ne_nil (padded_ne_nil width n)
  have digit : c.isDigit = true := isDigit_of_mem_padded (digits_eq ▸ List.mem_cons_self)
  rw [digits_eq, List.cons_append, skipBlanks_cons _ (Text.not_isBlank_of_isDigit digit)]

theorem literal?_cons {mark : Char} (rest : List Char) (visible : Text.isBlank mark = false) :
    literal? mark (mark :: rest) = some rest := by
  simp [literal?, skipBlanks_cons rest visible]

theorem two?_padded {n : Nat} {mark : Char} (rest : List Char) (stop : mark.isDigit = false)
    (small : n < 100) : two? (padded 2 n ++ mark :: rest) = some (n, mark :: rest) := by
  rw [two?, skipBlanks_padded]
  apply number?_padded rest stop
  rintro m ⟨⟩
  have two : n < 10 ^ 2 := small
  exact Nat.le_of_eq (length_padded two (by decide))

theorem year?_unsigned (cs : List Char) (digit : ∀ c ∈ cs.head?, c.isDigit = true) :
    year? cs = (number? (some 4) cs).map fun (n, rest) => ((n : Int), rest) := by
  cases cs with
  | nil => rfl
  | cons c rest =>
    have visible := Text.not_isBlank_of_isDigit (digit c rfl)
    unfold year?
    rw [skipBlanks_cons rest visible]
    split
    next sign => exact absurd (digit c rfl) (by rw [(List.cons.inj sign).1]; decide)
    next sign => exact absurd (digit c rfl) (by rw [(List.cons.inj sign).1]; decide)
    next => rfl

theorem year?_yearText (year : Int) (rest : List Char) :
    year? (yearText year ++ '-' :: rest) = some (year, '-' :: rest) := by
  unfold yearText
  by_cases plain : 0 ≤ year ∧ year ≤ 9999
  · have four : number? (some 4) (padded 4 year.toNat ++ '-' :: rest) =
        some (year.toNat, '-' :: rest) := by
      apply number?_padded rest rfl
      rintro m ⟨⟩
      have four : year.toNat < 10 ^ 4 := by omega
      exact Nat.le_of_eq (length_padded four (by decide))
    obtain ⟨c, digits, digits_eq⟩ := List.exists_cons_of_ne_nil (padded_ne_nil 4 year.toNat)
    have digit : c.isDigit = true := isDigit_of_mem_padded (digits_eq ▸ List.mem_cons_self)
    rw [if_pos plain, year?_unsigned, four, Option.map_some]
    · simp only [Int.toNat_of_nonneg plain.1]
    · rw [digits_eq]
      rintro _ ⟨⟩
      exact digit
  · have unbounded : number? none (padded 4 year.natAbs ++ '-' :: rest) =
        some (year.natAbs, '-' :: rest) :=
      number?_padded rest rfl fun m absurd => nomatch absurd
    rw [if_neg plain]
    by_cases negative : year < 0
    · rw [if_pos negative, year?, List.cons_append, skipBlanks_cons _ rfl]
      simp only [unbounded, Option.map_some, Option.some.injEq, Prod.mk.injEq, and_true]
      omega
    · rw [if_neg negative, year?, List.cons_append, skipBlanks_cons _ rfl]
      simp only [unbounded, Option.map_some, Option.some.injEq, Prod.mk.injEq, and_true]
      omega

theorem offset?_utc : offset? ['Z'] = some (0, []) := rfl

theorem fraction?_padded {width n : Nat} (pos : 0 < width) (short : width ≤ 9)
    (fits : n < 10 ^ width) {mark : Char} (rest : List Char) (stop : mark.isDigit = false) :
    fraction? ('.' :: (padded width n ++ mark :: rest)) =
      some (n * 10 ^ (9 - width), mark :: rest) := by
  have number : number? (some 9) (padded width n ++ mark :: rest) = some (n, mark :: rest) := by
    apply number?_padded rest stop
    rintro m ⟨⟩
    rw [length_padded fits pos]
    exact short
  have dropped : (padded width n ++ mark :: rest).drop (padded width n).length = mark :: rest :=
    List.drop_left
  rw [length_padded fits pos] at dropped
  simp only [fraction?, number, Option.map_some, takeWhile_padded width n rest stop,
    length_padded fits pos, Nat.pow_eq, dropped]

/-- The fewest digits that are exact lose nothing. -/
theorem fraction?_fewest {nanos : Nat} (nanos_lt : nanos < nanosPerSecond) :
    fraction? (Fraction.fewest.text nanos ++ ['Z']) = some (nanos, ['Z']) := by
  unfold nanosPerSecond at nanos_lt
  simp only [Fraction.text]
  by_cases whole : nanos = 0
  · rw [if_pos whole, whole]
    rfl
  by_cases millis : nanos % 1000000 = 0
  · rw [if_neg whole, if_pos millis, List.cons_append,
      fraction?_padded (by decide) (by decide) (by omega) [] rfl]
    congr 2
    omega
  by_cases micros : nanos % 1000 = 0
  · rw [if_neg whole, if_neg millis, if_pos micros, List.cons_append,
      fraction?_padded (by decide) (by decide) (by omega) [] rfl]
    congr 2
    omega
  · rw [if_neg whole, if_neg millis, if_neg micros, List.cons_append,
      fraction?_padded (by decide) (by decide) (by omega) [] rfl, Nat.pow_zero, Nat.mul_one]

/-! ## The whole text -/

theorem seconds_eq (t : Instant) :
    t.date.toDays * secondsPerDay + t.secondOfDay = t.seconds := by
  have day_pos : (0 : Int) < secondsPerDay := by decide
  have whole := Int.mul_fdiv_add_fmod t.seconds secondsPerDay
  have fmod_nonneg := Int.fmod_nonneg_of_pos t.seconds day_pos
  rw [date, Date.toDays_ofDays, secondOfDay, Int.mul_comm, Int.toNat_of_nonneg fmod_nonneg]
  exact whole

theorem secondOfDay_lt (t : Instant) : t.secondOfDay < secondsPerDay := by
  have day_pos : (0 : Int) < secondsPerDay := by decide
  have fmod_lt := Int.fmod_lt_of_pos t.seconds day_pos
  unfold secondOfDay
  omega

theorem Fraction.text_append_zone (f : Fraction) (nanos : Nat) :
    ∃ mark rest, f.text nanos ++ ['Z'] = mark :: rest ∧ mark.isDigit = false := by
  cases f with
  | omitted => exact ⟨'Z', [], rfl, rfl⟩
  | micros => exact ⟨'.', _, rfl, rfl⟩
  | fewest =>
    simp only [Fraction.text]
    by_cases whole : nanos = 0
    · simp [whole]
    · by_cases millis : nanos % 1000000 = 0
      · simp [whole, millis]
      · by_cases micros : nanos % 1000 = 0 <;> simp [whole, millis, micros]

/-- What every instant is like that is read from a text. -/
structure IsReadable (t : Instant) : Prop where
  date_isValid : t.date.isValid = true
  nanos_lt : t.nanos < 2 * nanosPerSecond
  /-- Leap seconds are inserted at the ends of minutes. -/
  leap : t.isLeap = true → t.secondOfDay % 60 = 59

/-- In the years 0 to 9999 and in no leap second. -/
structure IsPlain (t : Instant) : Prop where
  year_nonneg : 0 ≤ t.date.year
  year_le : t.date.year ≤ 9999
  nanos_lt : t.nanos < nanosPerSecond

theorem IsPlain.isReadable {t : Instant} (plain : t.IsPlain) : t.IsReadable := by
  obtain ⟨year_nonneg, year_le, nanos_lt⟩ := plain
  have low : -262143 ≤ t.date.year := by omega
  have high : t.date.year ≤ 262142 := by omega
  have doubled : nanosPerSecond ≤ 2 * nanosPerSecond := by decide
  refine ⟨Date.isValid_ofDays low high, Nat.lt_of_lt_of_le nanos_lt doubled, ?_⟩
  intro leap
  have late : nanosPerSecond ≤ t.nanos := by simpa [isLeap] using leap
  exact absurd nanos_lt (Nat.not_lt_of_le late)

theorem IsReadable.date_fits {t : Instant} (readable : t.IsReadable) :
    t.date.month < 100 ∧ t.date.day < 100 := by
  have valid := readable.date_isValid
  simp only [Date.isValid, Bool.and_eq_true, decide_eq_true_eq] at valid
  obtain ⟨⟨⟨_, month_le⟩, _⟩, day_le⟩ := valid
  have days_le : Date.daysInMonth t.date.year t.date.month ≤ 31 := by
    unfold Date.daysInMonth
    repeat' split
    all_goals decide
  omega

/-- The shown second is one more in a leap second, and is read as the one before it. -/
theorem IsReadable.second {t : Instant} (readable : t.IsReadable) :
    let shown := t.secondOfDay % 60 + t.nanos / nanosPerSecond
    shown ≤ 60 ∧ (shown = 60 ↔ t.isLeap = true) ∧ min shown 59 = t.secondOfDay % 60 := by
  obtain ⟨_, nanos_lt, leap⟩ := readable
  unfold isLeap at leap ⊢
  unfold nanosPerSecond at *
  simp only [decide_eq_true_eq] at leap ⊢
  by_cases late : 1000000000 ≤ t.nanos
  · have last := leap late
    omega
  · omega

theorem read?_text {t : Instant} (readable : t.IsReadable) {f : Fraction} {kept : Nat}
    (fraction : fraction? (f.text (t.nanos % nanosPerSecond) ++ ['Z']) = some (kept, ['Z'])) :
    read? (text f t) =
      some ⟨t.seconds, kept + if t.isLeap then nanosPerSecond else 0⟩ := by
  obtain ⟨month_lt, day_lt⟩ := readable.date_fits
  obtain ⟨second_le, leap_iff, second_eq⟩ := readable.second
  obtain ⟨mark, rest, zone_eq, stop⟩ := f.text_append_zone (t.nanos % nanosPerSecond)
  have valid := readable.date_isValid
  have sum := seconds_eq t
  have inDay := secondOfDay_lt t
  generalize shown_eq : t.secondOfDay % 60 + t.nanos / nanosPerSecond = shown at *
  rw [text, read?, String.toList_ofList, chars]
  simp only [List.append_assoc, List.cons_append, shown_eq]
  have hour_lt : t.secondOfDay / 3600 < 100 := by
    unfold secondsPerDay at inDay
    omega
  have minute_lt : t.secondOfDay / 60 % 60 < 100 := by omega
  have second_lt : shown < 100 := by omega
  refine Option.bind_eq_some_iff.mpr ⟨_, year?_yearText _ _, ?_⟩
  refine Option.bind_eq_some_iff.mpr ⟨_, literal?_cons _ rfl, ?_⟩
  refine Option.bind_eq_some_iff.mpr ⟨_, two?_padded _ rfl month_lt, ?_⟩
  refine Option.bind_eq_some_iff.mpr ⟨_, literal?_cons _ rfl, ?_⟩
  refine Option.bind_eq_some_iff.mpr ⟨_, two?_padded _ rfl day_lt, ?_⟩
  refine Option.bind_eq_some_iff.mpr ⟨_, rfl, ?_⟩
  refine Option.bind_eq_some_iff.mpr ⟨_, two?_padded _ rfl hour_lt, ?_⟩
  refine Option.bind_eq_some_iff.mpr ⟨_, literal?_cons _ rfl, ?_⟩
  refine Option.bind_eq_some_iff.mpr ⟨_, two?_padded _ rfl minute_lt, ?_⟩
  refine Option.bind_eq_some_iff.mpr ⟨_, literal?_cons _ rfl, ?_⟩
  rw [zone_eq] at fraction ⊢
  refine Option.bind_eq_some_iff.mpr ⟨_, two?_padded _ stop second_lt, ?_⟩
  refine Option.bind_eq_some_iff.mpr ⟨_, fraction, ?_⟩
  refine Option.bind_eq_some_iff.mpr ⟨_, offset?_utc, ?_⟩
  have sum_eq : t.date.toDays * secondsPerDay + (t.secondOfDay / 3600 * 3600 +
      t.secondOfDay / 60 % 60 * 60 + min shown 59 : Nat) - 0 * 60 = t.seconds := by
    omega
  have accepted : ((skipBlanks []).isEmpty &&
      (⟨t.date.year, t.date.month, t.date.day⟩ : Date).isValid &&
      decide (t.secondOfDay / 3600 < 24) && decide (t.secondOfDay / 60 % 60 < 60) &&
      decide (shown ≤ 60) && decide (Int.natAbs 0 < 1440)) = true := by
    unfold secondsPerDay at inDay
    simp only [Bool.and_eq_true, decide_eq_true_eq]
    refine ⟨⟨⟨⟨⟨rfl, valid⟩, ?_⟩, ?_⟩, second_le⟩, ?_⟩ <;> omega
  have date_eq : ∀ nanos, Instant.date ⟨t.seconds, nanos⟩ = t.date := fun _ => rfl
  rw [if_pos accepted, sum_eq, date_eq, if_pos valid]
  simp only [leap_iff]

/-- With the fewest digits every part of the instant is read back. -/
theorem read?_text_fewest {t : Instant} (readable : t.IsReadable) :
    read? (text .fewest t) = some t := by
  have nanos_lt : t.nanos % nanosPerSecond < nanosPerSecond := Nat.mod_lt _ (by decide)
  have leap_lt := readable.nanos_lt
  rw [read?_text readable (fraction?_fewest nanos_lt)]
  have nanos_eq :
      (t.nanos % nanosPerSecond + if t.isLeap then nanosPerSecond else 0) = t.nanos := by
    simp only [isLeap, decide_eq_true_eq]
    unfold nanosPerSecond at *
    split <;> omega
  rw [nanos_eq]

/-! ## What is read -/

theorem fraction?_lt {cs rest : List Char} {nanos : Nat}
    (read : fraction? cs = some (nanos, rest)) : nanos < nanosPerSecond := by
  unfold fraction? at read
  split at read
  next tail =>
    simp only [Option.map_eq_some_iff, Prod.exists, Prod.mk.injEq] at read
    obtain ⟨n, _, number, rfl, _⟩ := read
    simp only [number?, Option.map_some, Option.getD_some] at number
    split at number
    · contradiction
    · obtain ⟨n_eq, _⟩ := Prod.mk.inj (Option.some.inj number)
      have digits : ∀ c ∈ (tail.takeWhile Char.isDigit).take 9, c.isDigit = true :=
        fun c member => List.all_eq_true.mp List.all_takeWhile c (List.mem_of_mem_take member)
      have small := Text.foldl_digits_lt digits 0
      rw [n_eq, Nat.zero_add, Nat.one_mul, List.length_take] at small
      have scaled := Nat.mul_lt_mul_of_pos_right small
        (Nat.pow_pos (n := 9 - (tail.takeWhile Char.isDigit).length) (by decide : 0 < 10))
      apply Nat.lt_of_lt_of_le scaled
      rw [← Nat.pow_add, nanosPerSecond, show 1000000000 = 10 ^ 9 from rfl]
      exact Nat.pow_le_pow_right (by decide : 0 < 10) (by omega)
  next =>
    obtain ⟨rfl, _⟩ := Prod.mk.inj (Option.some.inj read)
    decide

theorem secondOfDay_mod (t : Instant) : (t.secondOfDay % 60 : Int) = t.seconds % 60 := by
  have sum := seconds_eq t
  unfold secondsPerDay at sum
  omega

theorem isReadable_of_read? {s : String} {t : Instant} (read : read? s = some t) :
    t.IsReadable := by
  obtain ⟨⟨year, _⟩, -, read⟩ := Option.bind_eq_some_iff.mp read
  obtain ⟨_, -, read⟩ := Option.bind_eq_some_iff.mp read
  obtain ⟨⟨month, _⟩, -, read⟩ := Option.bind_eq_some_iff.mp read
  obtain ⟨_, -, read⟩ := Option.bind_eq_some_iff.mp read
  obtain ⟨⟨day, _⟩, -, read⟩ := Option.bind_eq_some_iff.mp read
  obtain ⟨_, -, read⟩ := Option.bind_eq_some_iff.mp read
  obtain ⟨⟨hour, _⟩, -, read⟩ := Option.bind_eq_some_iff.mp read
  obtain ⟨_, -, read⟩ := Option.bind_eq_some_iff.mp read
  obtain ⟨⟨minute, _⟩, -, read⟩ := Option.bind_eq_some_iff.mp read
  obtain ⟨_, -, read⟩ := Option.bind_eq_some_iff.mp read
  obtain ⟨⟨second, _⟩, -, read⟩ := Option.bind_eq_some_iff.mp read
  obtain ⟨⟨nanos, _⟩, fraction, read⟩ := Option.bind_eq_some_iff.mp read
  obtain ⟨⟨offset, _⟩, -, read⟩ := Option.bind_eq_some_iff.mp read
  simp only [Option.ite_none_right_eq_some, Option.some.injEq] at read
  obtain ⟨accepted, valid, rfl⟩ := read
  have nanos_lt := fraction?_lt fraction
  constructor
  · exact valid
  · simp only
    split <;> omega
  · intro leap
    simp only [isLeap, decide_eq_true_eq] at leap
    by_cases last : second = 60
    · have mod := secondOfDay_mod ⟨(⟨year, month, day⟩ : Date).toDays * secondsPerDay +
        (hour * 3600 + minute * 60 + min second 59 : Nat) - offset * 60, nanos + nanosPerSecond⟩
      simp only [last, if_true] at mod ⊢
      unfold secondsPerDay at mod ⊢
      omega
    · rw [if_neg last] at leap
      omega

/-- Whole seconds are written as they were read, however they were spelled. -/
theorem read?_text_omitted {s : String} {t : Instant} (read : read? s = some t) :
    ∃ t', read? (text .omitted t) = some t' ∧ text .omitted t' = text .omitted t := by
  have readable := isReadable_of_read? read
  have nanos_lt := readable.nanos_lt
  have zone : fraction? (Fraction.omitted.text (t.nanos % nanosPerSecond) ++ ['Z']) =
      some (0, ['Z']) := rfl
  have again := read?_text readable zone
  refine ⟨_, again, ?_⟩
  have leap_eq : (0 + if t.isLeap then nanosPerSecond else 0) / nanosPerSecond =
      t.nanos / nanosPerSecond := by
    simp only [isLeap, decide_eq_true_eq]
    unfold nanosPerSecond at *
    split <;> omega
  simp only [text, chars, date, secondOfDay, Fraction.text, leap_eq]

end Instant

end Recovery
