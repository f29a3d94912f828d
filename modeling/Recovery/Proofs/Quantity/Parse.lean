import Mathlib.Algebra.Order.Field.Rat
import Mathlib.Algebra.Order.Floor.Div
import Mathlib.Tactic.FieldSimp
import Recovery.Proofs.Quantity.Split
import Recovery.Proofs.Result
import Recovery.Proofs.Text.Bytes
/-!
# What a quantity stands for

A text is accepted if it is spelled as a quantity and every value on the way to its size is below
the limit. It then stands for its exact value, rounded up to whole bytes.
-/
set_option autoImplicit false

namespace Recovery

namespace Quantity

/-! ## The size -/

section Size

variable {whole frac : List Char} {scale : Scale}

/-- The number that the digits spell, times the scale. -/
def exact (whole frac : List Char) (scale : Scale) : ℚ :=
  (digitsValue whole + digitsValue frac / 10 ^ frac.length) *
    (scale.numerator / scale.denominator)

/-- Every value on the way to the size is below the limit. -/
structure Fits (whole frac : List Char) (scale : Scale) : Prop where
  scale_fits : scale.Fits
  digits_lt : digitsValue (whole ++ frac) < limit
  places_lt : 10 ^ frac.length < limit
  numerator_lt : digitsValue (whole ++ frac) * scale.numerator < limit
  denominator_lt : 10 ^ frac.length * scale.denominator < limit

theorem digitsValue_append (whole frac : List Char) :
    digitsValue (whole ++ frac) = digitsValue whole * 10 ^ frac.length + digitsValue frac := by
  rw [digitsValue, List.foldl_append, Text.foldl_digits_eq]
  rfl

theorem exact_eq (positive : 0 < scale.denominator) :
    exact whole frac scale = ((digitsValue (whole ++ frac) * scale.numerator : ℕ) : ℚ) /
      ((10 ^ frac.length * scale.denominator : ℕ) : ℚ) := by
  have denominator_ne : (scale.denominator : ℚ) ≠ 0 := by exact_mod_cast positive.ne'
  rw [exact, digitsValue_append]
  push_cast
  field_simp

theorem divideUp_isLeast (n : Nat) {d : Nat} (positive : 0 < d) :
    IsLeast {m : ℕ | (n : ℚ) / d ≤ m} (divideUp n d) := by
  have positive' : (0 : ℚ) < d := by exact_mod_cast positive
  have least : ∀ m : ℕ, (n : ℚ) / d ≤ m ↔ divideUp n d ≤ m := by
    intro m
    rw [divideUp, ← Nat.ceilDiv_eq_add_pred_div, ceilDiv_le_iff_le_smul positive,
      div_le_iff₀ positive', smul_eq_mul, Nat.mul_comm]
    exact_mod_cast Iff.rfl
  exact ⟨(least _).mpr le_rfl, fun m above => (least m).mp above⟩

theorem below?_eq_some_iff {n m : Nat} : below? n = some m ↔ m = n ∧ n < limit := by
  unfold below?
  split
  next below => simp [below, eq_comm]
  next above => simp [above]

theorem bytes?_eq_some_iff (short : frac.length < 2 ^ 32) (scale_fits : scale.Fits) {n : Nat} :
    bytes? whole frac scale = some n ↔ Fits whole frac scale ∧
      n = divideUp (digitsValue (whole ++ frac) * scale.numerator)
        (10 ^ frac.length * scale.denominator) := by
  have places_eq : places frac = frac.length := Nat.mod_eq_of_lt short
  simp only [bytes?, places_eq, Option.bind_eq_bind, Option.bind_eq_some_iff, below?_eq_some_iff,
    tenTo?_eq_some_iff]
  constructor
  · rintro ⟨_, ⟨rfl, digits_lt⟩, _, ⟨rfl, places_lt⟩, _, ⟨rfl, numerator_lt⟩, _,
      ⟨rfl, denominator_lt⟩, found⟩
    exact ⟨⟨scale_fits, digits_lt, places_lt, numerator_lt, denominator_lt⟩,
      (Option.some.inj found).symm⟩
  · rintro ⟨fits, rfl⟩
    exact ⟨_, ⟨rfl, fits.digits_lt⟩, _, ⟨rfl, fits.places_lt⟩, _, ⟨rfl, fits.numerator_lt⟩, _,
      ⟨rfl, fits.denominator_lt⟩, rfl⟩

theorem divideUp_lt {n d : Nat} (positive : 0 < d) (below : n < limit) : divideUp n d < limit := by
  have rounded : divideUp n d ≤ n := by
    rw [divideUp, ← Nat.ceilDiv_eq_add_pred_div, ceilDiv_le_iff_le_smul positive, smul_eq_mul]
    exact Nat.le_mul_of_pos_left n positive
  exact Nat.lt_of_le_of_lt rounded below

end Size

theorem Suffix.denominator_pos {suffix : List Char} {scale : Scale}
    (suffixed : Suffix suffix scale) : 0 < scale.denominator := by
  cases suffixed with
  | negative mark_eq some_digit all_digits => exact Nat.pow_pos (by decide)
  | _ => exact Nat.one_pos

/-! ## Whole quantities -/

/-- The text is spelled as a quantity with these digits and this scale. -/
def Spells (q whole frac : List Char) (scale : Scale) : Prop :=
  ∃ number suffix, q = number ++ suffix ∧ Number number whole frac ∧ Suffix suffix scale

/-- What is calculated for a scale and digits that were cut off never leaves 128 bits, wraps or
divides by zero. -/
structure Calculates (whole frac : List Char) (scale : Scale) : Prop where
  scale_fits : scale.Fits
  places_eq : places frac = frac.length
  divisor_pos : 0 < 10 ^ frac.length * scale.denominator
  size_lt : ∀ n, bytes? whole frac scale = some n → n < limit

variable {quantity : String}

def trimmed (quantity : String) : List Char := Text.trimBy Text.isBlank quantity.toList

theorem length_trimmed_le (quantity : String) :
    (trimmed quantity).length ≤ quantity.utf8ByteSize := by
  have front := (List.dropWhile_sublist (l := quantity.toList) Text.isBlank).length_le
  have back := (List.dropWhile_sublist (l := (quantity.toList.dropWhile Text.isBlank).reverse)
    Text.isBlank).length_le
  rw [List.length_reverse] at back
  rw [trimmed, Text.trimBy, Text.trimEndBy, List.length_reverse]
  exact back.trans (front.trans (Text.length_toList_le quantity))

theorem length_splitPoint_le (number : List Char) :
    (splitPoint number).2.length ≤ number.length := by
  have dropped := (List.dropWhile_sublist (l := number) (· != '.')).length_le
  simp only [splitPoint, List.length_drop]
  omega

theorem calculates_of_split? (short : quantity.utf8ByteSize < 2 ^ 32) {number : List Char}
    {scale : Scale} (split : split? (trimmed quantity) = some (number, some scale)) :
    Calculates (splitPoint number).1 (splitPoint number).2 scale := by
  obtain ⟨suffix, q_eq, suffixed, fits⟩ := split?_sound split
  have number_le : number.length ≤ (trimmed quantity).length := by
    rw [q_eq, List.length_append]
    exact Nat.le_add_right _ _
  have frac_short : (splitPoint number).2.length < 2 ^ 32 :=
    Nat.lt_of_le_of_lt ((length_splitPoint_le number).trans
      (number_le.trans (length_trimmed_le quantity))) short
  have divisor_pos : 0 < 10 ^ (splitPoint number).2.length * scale.denominator :=
    Nat.mul_pos (Nat.pow_pos (by decide)) suffixed.denominator_pos
  refine ⟨fits, Nat.mod_eq_of_lt frac_short, divisor_pos, ?_⟩
  intro n found
  obtain ⟨all_fit, rfl⟩ := (bytes?_eq_some_iff frac_short fits).mp found
  exact divideUp_lt divisor_pos all_fit.numerator_lt

theorem parse_eq_ok_iff {n : Nat} : parse quantity = .ok n ↔ ∃ whole frac scale,
    Spells (trimmed quantity) whole frac scale ∧ scale.Fits ∧
      bytes? whole frac scale = some n := by
  constructor
  · intro parsed
    unfold parse at parsed
    dsimp only at parsed
    split at parsed
    next empty => cases parsed
    split at parsed
    next => cases parsed
    next => cases parsed
    next number scale split =>
      obtain ⟨suffix, q_eq, suffixed, fits⟩ := split?_sound split
      split at parsed
      next missing => cases parsed
      next some_digit =>
        split at parsed
        next invalid => cases parsed
        next valid =>
          split at parsed
          next size found =>
            cases parsed
            simp only [Bool.and_eq_true, List.isEmpty_iff] at some_digit
            simp only [Bool.or_eq_true, Bool.not_eq_true', not_or, Bool.not_eq_false,
              List.all_eq_true] at valid
            have spelled := number_iff.mpr ⟨rfl, valid.1, valid.2, some_digit⟩
            exact ⟨_, _, scale, ⟨number, suffix, q_eq, spelled, suffixed⟩, fits, found⟩
          next => cases parsed
  · rintro ⟨whole, frac, scale, ⟨number, suffix, q_eq, spelled, suffixed⟩, fits, found⟩
    obtain ⟨point, digits, places, some_digit⟩ := number_iff.mp spelled
    have split := split?_complete spelled suffixed fits
    rw [← q_eq] at split
    have some_char : (trimmed quantity).isEmpty = false := by
      rw [q_eq, List.isEmpty_eq_false_iff, ne_eq, List.append_eq_nil_iff]
      exact fun none => spelled.ne_nil none.1
    have not_missing : (whole.isEmpty && frac.isEmpty) = false := by
      simpa using some_digit
    have valid : (!whole.all Char.isDigit || !frac.all Char.isDigit) = false := by
      rw [List.all_eq_true.mpr digits, List.all_eq_true.mpr places]
      rfl
    unfold trimmed at split some_char
    rw [parse]
    simp only [split, some_char, point, not_missing, valid, found, Bool.false_eq_true, if_false]

theorem Spells.frac_short (short : quantity.utf8ByteSize < 2 ^ 32) {whole frac : List Char}
    {scale : Scale} (spells : Spells (trimmed quantity) whole frac scale) :
    frac.length < 2 ^ 32 := by
  obtain ⟨number, suffix, q_eq, spelled, -⟩ := spells
  have frac_eq : (splitPoint number).2 = frac := by rw [(number_iff.mp spelled).1]
  have frac_le := length_splitPoint_le number
  have q_le := length_trimmed_le quantity
  rw [q_eq, List.length_append] at q_le
  rw [frac_eq] at frac_le
  omega

theorem parseBytes_eq_ok_iff_parse {n : Nat} :
    parseBytes quantity = .ok n ↔ parse quantity = .ok n :=
  mapError_eq_ok_iff

theorem parseBytes_eq_ok_iff (short : quantity.utf8ByteSize < 2 ^ 32) {n : Nat} :
    parseBytes quantity = .ok n ↔ ∃ whole frac scale,
      Spells (trimmed quantity) whole frac scale ∧ Fits whole frac scale ∧
        IsLeast {m : ℕ | exact whole frac scale ≤ m} n := by
  rw [parseBytes_eq_ok_iff_parse, parse_eq_ok_iff]
  refine exists_congr fun whole => exists_congr fun frac => exists_congr fun scale =>
    and_congr_right fun spells => ?_
  have positive : 0 < scale.denominator := by
    obtain ⟨_, _, _, _, suffixed⟩ := spells
    exact suffixed.denominator_pos
  have least := divideUp_isLeast (digitsValue (whole ++ frac) * scale.numerator)
    (Nat.mul_pos (Nat.pow_pos (n := frac.length) (by decide : 0 < 10)) positive)
  rw [← exact_eq positive] at least
  constructor
  · rintro ⟨fits, found⟩
    obtain ⟨all_fit, rfl⟩ := (bytes?_eq_some_iff (spells.frac_short short) fits).mp found
    exact ⟨all_fit, least⟩
  · rintro ⟨all_fit, least'⟩
    have same := least'.unique least
    exact ⟨all_fit.scale_fits,
      (bytes?_eq_some_iff (spells.frac_short short) all_fit.scale_fits).mpr ⟨all_fit, same⟩⟩

theorem parseBytes_cases (quantity : String) : (∃ n, parseBytes quantity = .ok n) ∨
    ∃ message, parseBytes quantity = .error (.validation "quantity" message) := by
  rw [parseBytes]
  cases parse quantity with
  | ok n => exact .inl ⟨n, rfl⟩
  | error refusal => exact .inr ⟨refusal.message, rfl⟩

/-- A quantity is accepted if and only if it is spelled as one and fits, and then stands for the
least number of bytes that is not below its exact value. All others are invalid, and nothing is
calculated that overflows, wraps or divides by zero. -/
theorem parseBytes_exact (quantity : String) (short : quantity.utf8ByteSize < 2 ^ 32) :
    (∀ n, parseBytes quantity = .ok n ↔ ∃ whole frac scale,
      Spells (trimmed quantity) whole frac scale ∧ Fits whole frac scale ∧
        IsLeast {m : ℕ | exact whole frac scale ≤ m} n) ∧
    ((∃ n, parseBytes quantity = .ok n) ∨
      ∃ message, parseBytes quantity = .error (.validation "quantity" message)) ∧
    ∀ number scale, split? (trimmed quantity) = some (number, some scale) →
      Calculates (splitPoint number).1 (splitPoint number).2 scale :=
  ⟨fun _ => parseBytes_eq_ok_iff short, parseBytes_cases quantity,
    fun _ _ => calculates_of_split? short⟩

/-- A quarter of a byte counts as a whole one. -/
theorem parseBytes_quarter : parseBytes " 2.5e-1" = .ok 1 := by
  have digit : ∀ d : Char, d.isDigit = true → Digits [d] := fun d digit c member =>
    List.mem_singleton.mp member ▸ digit
  have spells : Spells (trimmed " 2.5e-1") ['2'] ['5'] ⟨1, 10⟩ := by
    have number : Number ['2', '.', '5'] ['2'] ['5'] :=
      .point (digit '2' rfl) (List.cons_ne_nil _ _) (digit '5' rfl)
    have suffix : Suffix ['e', '-', '1'] ⟨1, 10 ^ digitsValue ['1']⟩ :=
      .negative (.inl rfl) (List.cons_ne_nil _ _) (digit '1' rfl)
    exact ⟨_, _, by decide, number, suffix⟩
  have fits : Fits ['2'] ['5'] ⟨1, 10⟩ :=
    ⟨⟨by decide, by decide⟩, by decide, by decide, by decide, by decide⟩
  have least : IsLeast {m : ℕ | exact ['2'] ['5'] ⟨1, 10⟩ ≤ m} 1 := by
    rw [exact_eq (by decide)]
    exact divideUp_isLeast _ (by decide)
  exact ((parseBytes_exact " 2.5e-1" (by decide)).1 1).mpr
    ⟨['2'], ['5'], ⟨1, 10⟩, spells, fits, least⟩

end Quantity

end Recovery
