import Recovery.Proofs.Quantity.Grammar
/-!
# Cutting off the suffix

What is cut off a text is a suffix, and of a text that is spelled as a quantity it is the suffix of
the quantity, although binary suffixes, exponents and decimal suffixes are tried one after another
and begin or end alike.
-/
set_option autoImplicit false

namespace Recovery

namespace Quantity

variable {number whole frac suffix q : List Char} {scale : Scale}

theorem Number.chars (spelled : Number number whole frac) :
    ∀ c ∈ number, c.isDigit = true ∨ c = '.' := by
  cases spelled with
  | whole digits some_digit => exact fun c member => .inl (digits c member)
  | point digits some_digit places =>
    intro c member
    rw [List.mem_append, List.mem_cons] at member
    rcases member with member | point | member
    · exact .inl (digits c member)
    · exact .inr point
    · exact .inl (places c member)
  | bare places some_place =>
    intro c member
    rw [List.mem_cons] at member
    rcases member with point | member
    · exact .inr point
    · exact .inl (places c member)

theorem Number.ne_nil (spelled : Number number whole frac) : number ≠ [] := by
  cases spelled with
  | whole digits some_digit => exact some_digit
  | point digits some_digit places => exact List.append_ne_nil_of_left_ne_nil some_digit _
  | bare places some_place => exact List.cons_ne_nil _ _

theorem Number.plain (spelled : Number number whole frac) : ∀ c ∈ number, isMark c = false := by
  intro c member
  rcases spelled.chars c member with digit | rfl
  · rw [Bool.eq_false_iff, ne_eq, isMark_iff]
    rintro (rfl | rfl) <;> cases digit
  · rfl

/-- Both parts of a scale are below the limit. -/
structure Scale.Fits (scale : Scale) : Prop where
  numerator_lt : scale.numerator < limit
  denominator_lt : scale.denominator < limit

theorem tenTo?_eq_some_iff {power n : Nat} :
    tenTo? power = some n ↔ n = 10 ^ power ∧ 10 ^ power < limit := by
  unfold tenTo?
  have bound : power ≤ 38 ↔ 10 ^ power < limit := by
    constructor
    · intro small
      exact Nat.lt_of_le_of_lt (Nat.pow_le_pow_right (by decide) small)
        (by decide : 10 ^ 38 < limit)
    · intro below
      apply Nat.le_of_not_lt
      intro great
      have least : 10 ^ 39 ≤ 10 ^ power := Nat.pow_le_pow_right (by decide) great
      have above : limit ≤ 10 ^ 39 := by decide
      omega
  by_cases small : power ≤ 38
  · rw [if_pos small, Option.some.injEq, Nat.pow_eq, eq_comm]
    exact (and_iff_left (bound.mp small)).symm
  · rw [if_neg small]
    constructor
    · nofun
    · exact fun ⟨_, below⟩ => absurd (bound.mpr below) small

theorem suffix_of_exponentScale? {mark : Char} {exponent : List Char}
    (mark_eq : mark = 'e' ∨ mark = 'E') (found : exponentScale? exponent = some (some scale)) :
    Suffix (mark :: exponent) scale ∧ scale.Fits := by
  have one_lt : 1 < limit := by decide
  cases sign : signed exponent with
  | mk negative digits =>
    simp only [exponentScale?, sign] at found
    split at found
    next refused => cases found
    next accepted =>
      simp only [Bool.or_eq_true, List.isEmpty_iff, Bool.not_eq_true', not_or,
        Bool.not_eq_false, List.all_eq_true] at accepted
      obtain ⟨some_digit, all_digits⟩ := accepted
      obtain ⟨power, ten, scale_eq⟩ := Option.map_eq_some_iff.mp (Option.some.inj found)
      obtain ⟨rfl, below⟩ := tenTo?_eq_some_iff.mp ten
      rcases signed_eq sign with ⟨rfl, rfl⟩ | ⟨rfl, rfl | rfl⟩
      · cases scale_eq
        exact ⟨.negative mark_eq some_digit all_digits, one_lt, below⟩
      · cases scale_eq
        exact ⟨.exponent mark_eq (.inr rfl) some_digit all_digits, below, one_lt⟩
      · cases scale_eq
        exact ⟨.exponent mark_eq (.inl rfl) some_digit all_digits, below, one_lt⟩

theorem splitExponent?_sound (split : splitExponent? q = some (number, some scale)) :
    ∃ suffix, q = number ++ suffix ∧ Suffix suffix scale ∧ scale.Fits := by
  unfold splitExponent? at split
  split at split
  next => cases split
  next mark exponent dropped =>
    obtain ⟨scale', found, same⟩ := Option.map_eq_some_iff.mp split
    cases same
    have is_mark := List.head_dropWhile_not (!isMark ·)
      (by rw [dropped]; exact List.cons_ne_nil _ _)
    simp only [dropped, List.head_cons, Bool.not_eq_false'] at is_mark
    obtain ⟨suffixed, fits⟩ := suffix_of_exponentScale? (isMark_iff.mp is_mark) found
    refine ⟨mark :: exponent, ?_, suffixed, fits⟩
    rw [← dropped, List.takeWhile_append_dropWhile]

theorem split?_sound (split : split? q = some (number, some scale)) :
    ∃ suffix, q = number ++ suffix ∧ Suffix suffix scale ∧ scale.Fits := by
  have one_lt : 1 < limit := by decide
  unfold split? at split
  split at split
  next number' power binary =>
    cases split
    obtain ⟨suffix, listed, q_eq⟩ := splitTable?_eq_some binary
    have fits : ∀ entry ∈ binarySuffixes, 1024 ^ entry.2 < limit := by decide
    exact ⟨_, q_eq, suffix_of_binary listed, fits _ listed, one_lt⟩
  split at split
  next exponent =>
    cases split
    exact splitExponent?_sound exponent
  split at split
  next number' power decimal =>
    cases split
    obtain ⟨suffix, listed, q_eq⟩ := splitTable?_eq_some decimal
    have fits : ∀ entry ∈ decimalSuffixes, 1000 ^ entry.2 < limit := by decide
    exact ⟨_, q_eq, suffix_of_decimal listed, fits _ listed, one_lt⟩
  split at split
  next =>
    cases split
    exact ⟨[], (List.append_nil _).symm, .none, one_lt, one_lt⟩
  next => cases split

theorem Number.last_ne (spelled : Number number whole frac) {c : Char}
    (no_digit : c.isDigit = false) (no_point : c ≠ '.') : number.getLast? ≠ some c := by
  intro last
  rcases spelled.chars c (List.mem_of_getLast? last) with digit | point
  · rw [no_digit] at digit
    cases digit
  · exact no_point point

/-- An exponent ends in a digit, so that it has no binary suffix. -/
theorem last_ne_of_digits {digits : List Char} (some_digit : digits ≠ [])
    (all_digits : Digits digits) (before : List Char) :
    (before ++ digits).getLast? ≠ some 'i' := by
  rw [getLast?_append_of_ne_nil some_digit]
  intro last
  exact nomatch all_digits 'i' (List.mem_of_getLast? last)

theorem split?_of_exponent {exponent : List Char} {found : Option Scale}
    (spelled : Number number whole frac) {mark : Char} (mark_eq : mark = 'e' ∨ mark = 'E')
    (last : (number ++ mark :: exponent).getLast? ≠ some 'i')
    (read : exponentScale? exponent = some found) :
    split? (number ++ mark :: exponent) = some (number, found) := by
  have is_mark := isMark_iff.mpr mark_eq
  rw [split?, splitTable?_binary_of_last last]
  simp only [splitExponent?_append spelled.plain is_mark, read, Option.map_some]

theorem split?_complete (spelled : Number number whole frac) (suffixed : Suffix suffix scale)
    (fits : scale.Fits) : split? (number ++ suffix) = some (number, some scale) := by
  cases suffixed with
  | none =>
    have binary := splitTable?_binary_of_last (spelled.last_ne (c := 'i') rfl (by decide))
    have decimal : splitTable? decimalSuffixes number = none := by
      have letters : ∀ entry ∈ decimalSuffixes, entry.1.toList ≠ [] ∧
          entry.1.toList.getLast?.all (fun c => !c.isDigit && c != '.') = true := by decide
      apply splitTable?_of_last
      intro entry member
      obtain ⟨some_char, letter⟩ := letters entry member
      rw [List.getLast?_eq_some_getLast some_char] at letter ⊢
      simp only [Option.all_some, Bool.and_eq_true, Bool.not_eq_true', bne_iff_ne] at letter
      exact ⟨some_char, spelled.last_ne letter.1 letter.2⟩
    have plain : (number.all fun c => c.isDigit || c == '.') = true := by
      simpa using spelled.chars
    rw [List.append_nil, split?, binary]
    simp only [splitExponent?_of_no_mark spelled.plain, decimal, plain, if_true]
  | binary listed =>
    have found := uniform_binary.splitTable? (binary_listed listed) number
    rw [String.toList_ofList] at found
    rw [split?, found]
    rfl
  | @decimal letter power listed =>
    obtain ⟨listed, letter_ne⟩ := decimal_listed listed
    have found := uniform_decimal.splitTable? listed number
    rw [String.toList_ofList] at found
    have last : (number ++ [letter]).getLast? ≠ some 'i' := by
      simpa using letter_ne
    have no_exponent : splitExponent? (number ++ [letter]) = none := by
      by_cases is_mark : isMark letter = true
      · rw [splitExponent?_append spelled.plain is_mark]
        rfl
      · apply splitExponent?_of_no_mark
        intro c member
        rcases List.mem_append.mp member with inside | last
        · exact spelled.plain c inside
        · rw [List.mem_singleton.mp last]
          exact Bool.eq_false_iff.mpr is_mark
    rw [split?, splitTable?_binary_of_last last]
    simp only [no_exponent, found]
    rfl
  | @exponent mark sign digits mark_eq plus some_digit all_digits =>
    have unsigned : signed (sign ++ digits) = (false, digits) := by
      rcases plus with rfl | rfl
      · exact all_digits.signed
      · rfl
    have read := exponentScale?_of_signed unsigned some_digit all_digits
    rw [tenTo?_eq_some_iff.mpr ⟨rfl, fits.numerator_lt⟩] at read
    have last := last_ne_of_digits some_digit all_digits (number ++ mark :: sign)
    rw [List.append_assoc, List.cons_append] at last
    exact split?_of_exponent spelled mark_eq last read
  | @negative mark digits mark_eq some_digit all_digits =>
    have minus : signed ('-' :: digits) = (true, digits) := rfl
    have read := exponentScale?_of_signed minus some_digit all_digits
    rw [tenTo?_eq_some_iff.mpr ⟨rfl, fits.denominator_lt⟩] at read
    have last := last_ne_of_digits some_digit all_digits (number ++ [mark, '-'])
    rw [List.append_assoc] at last
    exact split?_of_exponent spelled mark_eq last read

end Quantity

end Recovery
