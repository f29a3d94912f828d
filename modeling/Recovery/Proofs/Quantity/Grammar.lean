import Recovery.Proofs.Text.Digits
import Recovery.Quantity
/-!
# How quantities are spelled

A quantity is a number with a suffix. Suffixes begin alike, and a number may end where an exponent
begins; still there is at most one way to cut a text, and it is the one in which it is read.
-/
set_option autoImplicit false

namespace Recovery

namespace Quantity

def Digits (cs : List Char) : Prop := ∀ c ∈ cs, c.isDigit = true

/-- A number with its digits before and after the point. -/
inductive Number : List Char → List Char → List Char → Prop where
  | whole {whole : List Char} (digits : Digits whole) (some_digit : whole ≠ []) :
      Number whole whole []
  | point {whole frac : List Char} (digits : Digits whole) (some_digit : whole ≠ [])
      (places : Digits frac) : Number (whole ++ '.' :: frac) whole frac
  | bare {frac : List Char} (places : Digits frac) (some_place : frac ≠ []) :
      Number ('.' :: frac) [] frac

/-- A suffix with its scale. An `E` alone is a decimal suffix. -/
inductive Suffix : List Char → Scale → Prop where
  | none : Suffix [] ⟨1, 1⟩
  | binary {letter : Char} {power : Nat}
      (listed : ['K', 'M', 'G', 'T', 'P', 'E'][power]? = some letter) :
      Suffix [letter, 'i'] ⟨1024 ^ (power + 1), 1⟩
  | decimal {letter : Char} {power : Nat}
      (listed : ['k', 'M', 'G', 'T', 'P', 'E'][power]? = some letter) :
      Suffix [letter] ⟨1000 ^ (power + 1), 1⟩
  | exponent {mark : Char} {sign digits : List Char} (mark_eq : mark = 'e' ∨ mark = 'E')
      (plus : sign = [] ∨ sign = ['+']) (some_digit : digits ≠ []) (all_digits : Digits digits) :
      Suffix (mark :: (sign ++ digits)) ⟨10 ^ digitsValue digits, 1⟩
  | negative {mark : Char} {digits : List Char} (mark_eq : mark = 'e' ∨ mark = 'E')
      (some_digit : digits ≠ []) (all_digits : Digits digits) :
      Suffix (mark :: '-' :: digits) ⟨1, 10 ^ digitsValue digits⟩

/-! ## Numbers -/

theorem ne_point {cs : List Char} (no_point : '.' ∉ cs) : ∀ c ∈ cs, (c != '.') = true := by
  intro c member
  apply bne_iff_ne.mpr
  rintro rfl
  exact no_point member

theorem splitPoint_of_not_mem {number : List Char} (no_point : '.' ∉ number) :
    splitPoint number = (number, []) := by
  have dropped : (number ++ []).dropWhile (· != '.') = [] :=
    List.dropWhile_append_of_pos (ne_point no_point)
  have taken : (number ++ []).takeWhile (· != '.') = number ++ [] :=
    List.takeWhile_append_of_pos (ne_point no_point)
  rw [List.append_nil] at dropped taken
  rw [splitPoint, taken, dropped, List.drop_nil]

theorem splitPoint_append {whole : List Char} (no_point : '.' ∉ whole) (frac : List Char) :
    splitPoint (whole ++ '.' :: frac) = (whole, frac) := by
  rw [splitPoint, List.takeWhile_append_of_pos (ne_point no_point),
    List.dropWhile_append_of_pos (ne_point no_point)]
  simp

theorem Digits.no_point {cs : List Char} (digits : Digits cs) : '.' ∉ cs := by
  intro member
  have digit := digits '.' member
  cases digit

theorem number_iff {number whole frac : List Char} :
    Number number whole frac ↔ splitPoint number = (whole, frac) ∧ Digits whole ∧ Digits frac ∧
      ¬ (whole = [] ∧ frac = []) := by
  constructor
  · intro spelled
    cases spelled with
    | whole digits some_digit =>
      exact ⟨splitPoint_of_not_mem digits.no_point, digits, nofun, fun none => some_digit none.1⟩
    | point digits some_digit places =>
      exact ⟨splitPoint_append digits.no_point frac, digits, places, fun none => some_digit none.1⟩
    | bare places some_place =>
      exact ⟨splitPoint_append List.not_mem_nil frac, nofun, places, fun none => some_place none.2⟩
  · rintro ⟨split, digits, places, some_digit⟩
    by_cases point : '.' ∈ number
    · obtain ⟨before, after, rfl, no_point⟩ := List.eq_append_cons_of_mem point
      rw [splitPoint_append no_point] at split
      cases split
      by_cases none : whole = []
      · subst none
        exact .bare places fun no_place => some_digit ⟨rfl, no_place⟩
      · exact .point digits none places
    · rw [splitPoint_of_not_mem point] at split
      cases split
      exact .whole digits fun none => some_digit ⟨none, rfl⟩

/-! ## Suffixes from a table -/

theorem getLast?_append_of_ne_nil {ends : List Char} (some_char : ends ≠ []) (before : List Char) :
    (before ++ ends).getLast? = ends.getLast? := by
  rw [List.getLast?_append, List.getLast?_eq_some_getLast some_char, Option.some_or]

theorem beforeSuffix?_eq_some_iff {suffix : String} {q number : List Char} :
    beforeSuffix? suffix q = some number ↔ q = number ++ suffix.toList := by
  unfold beforeSuffix?
  constructor
  · intro found
    split at found
    · next ends =>
      obtain ⟨before, rfl⟩ := List.isSuffixOf_iff_suffix.mp ends
      rw [List.length_append, Nat.add_sub_cancel, List.take_left] at found
      cases found
      rfl
    · cases found
  · rintro rfl
    have ends : suffix.toList.isSuffixOf (number ++ suffix.toList) = true :=
      List.isSuffixOf_iff_suffix.mpr (List.suffix_append _ _)
    rw [if_pos ends, List.length_append, Nat.add_sub_cancel, List.take_left]

theorem splitTable?_eq_some {table : List (String × Nat)} {q number : List Char} {power : Nat}
    (found : splitTable? table q = some (number, power)) :
    ∃ suffix, (suffix, power) ∈ table ∧ q = number ++ suffix.toList := by
  obtain ⟨⟨suffix, power⟩, member, found⟩ := List.exists_of_findSome?_eq_some found
  obtain ⟨before, cut, same⟩ := Option.map_eq_some_iff.mp found
  cases same
  exact ⟨suffix, member, beforeSuffix?_eq_some_iff.mp cut⟩

theorem splitTable?_eq_none {table : List (String × Nat)} {q : List Char}
    (none : ∀ entry ∈ table, ¬ entry.1.toList <:+ q) : splitTable? table q = Option.none := by
  apply List.findSome?_eq_none_iff.mpr
  intro entry member
  rw [Option.map_eq_none_iff, Option.eq_none_iff_forall_ne_some]
  intro number cut
  exact none entry member ⟨number, (beforeSuffix?_eq_some_iff.mp cut).symm⟩

/-- All suffixes of a table are of one length, and none is listed twice. -/
structure Uniform (table : List (String × Nat)) (length : Nat) : Prop where
  length_eq : ∀ entry ∈ table, entry.1.toList.length = length
  once : ∀ entry ∈ table, ∀ other ∈ table, entry.1 = other.1 → entry = other

theorem Uniform.splitTable? {table : List (String × Nat)} {length : Nat}
    (uniform : Uniform table length) {suffix : String} {power : Nat}
    (listed : (suffix, power) ∈ table) (number : List Char) :
    splitTable? table (number ++ suffix.toList) = some (number, power) := by
  cases found : Quantity.splitTable? table (number ++ suffix.toList) with
  | none =>
    have none := List.findSome?_eq_none_iff.mp found _ listed
    rw [Option.map_eq_none_iff, (beforeSuffix?_eq_some_iff.mpr rfl)] at none
    cases none
  | some split =>
    obtain ⟨number', power'⟩ := split
    obtain ⟨suffix', listed', same⟩ := splitTable?_eq_some found
    have lengths := (uniform.length_eq _ listed).trans (uniform.length_eq _ listed').symm
    obtain ⟨numbers, suffixes⟩ := List.append_inj' same lengths
    have entries := uniform.once _ listed _ listed' (String.toList_inj.mp suffixes)
    cases entries
    rw [numbers]

theorem uniform_binary : Uniform binarySuffixes 2 := ⟨by simp [binarySuffixes], by decide⟩

theorem uniform_decimal : Uniform decimalSuffixes 1 := ⟨by simp [decimalSuffixes], by decide⟩

theorem suffix_of_binary {suffix : String} {power : Nat}
    (listed : (suffix, power) ∈ binarySuffixes) : Suffix suffix.toList ⟨1024 ^ power, 1⟩ := by
  simp only [binarySuffixes, List.mem_cons, Prod.mk.injEq, List.not_mem_nil, or_false] at listed
  rcases listed with ⟨rfl, rfl⟩ | ⟨rfl, rfl⟩ | ⟨rfl, rfl⟩ | ⟨rfl, rfl⟩ | ⟨rfl, rfl⟩ | ⟨rfl, rfl⟩
  all_goals
    simp only [String.reduceToList]
    exact .binary rfl

theorem suffix_of_decimal {suffix : String} {power : Nat}
    (listed : (suffix, power) ∈ decimalSuffixes) : Suffix suffix.toList ⟨1000 ^ power, 1⟩ := by
  simp only [decimalSuffixes, List.mem_cons, Prod.mk.injEq, List.not_mem_nil, or_false] at listed
  rcases listed with ⟨rfl, rfl⟩ | ⟨rfl, rfl⟩ | ⟨rfl, rfl⟩ | ⟨rfl, rfl⟩ | ⟨rfl, rfl⟩ | ⟨rfl, rfl⟩
  all_goals
    simp only [String.reduceToList]
    exact .decimal rfl

theorem binary_listed {letter : Char} {power : Nat}
    (listed : ['K', 'M', 'G', 'T', 'P', 'E'][power]? = some letter) :
    (String.ofList [letter, 'i'], power + 1) ∈ binarySuffixes := by
  rcases power with _ | _ | _ | _ | _ | _ | power <;> cases listed <;> decide

theorem decimal_listed {letter : Char} {power : Nat}
    (listed : ['k', 'M', 'G', 'T', 'P', 'E'][power]? = some letter) :
    (String.ofList [letter], power + 1) ∈ decimalSuffixes ∧ letter ≠ 'i' := by
  rcases power with _ | _ | _ | _ | _ | _ | power <;> cases listed <;> decide

theorem splitTable?_of_last {table : List (String × Nat)} {q : List Char}
    (last : ∀ entry ∈ table, entry.1.toList ≠ [] ∧ q.getLast? ≠ entry.1.toList.getLast?) :
    splitTable? table q = none := by
  apply splitTable?_eq_none
  rintro entry member ⟨before, rfl⟩
  obtain ⟨some_char, other⟩ := last entry member
  exact other (getLast?_append_of_ne_nil some_char before)

theorem splitTable?_binary_of_last {q : List Char} (last : q.getLast? ≠ some 'i') :
    splitTable? binarySuffixes q = none := by
  have ends : ∀ entry ∈ binarySuffixes, entry.1.toList ≠ [] ∧
      entry.1.toList.getLast? = some 'i' := by decide
  exact splitTable?_of_last fun entry member =>
    ⟨(ends entry member).1, (ends entry member).2 ▸ last⟩

/-! ## Exponents -/

theorem isMark_iff {c : Char} : isMark c = true ↔ c = 'e' ∨ c = 'E' := by
  simp [isMark]

theorem Digits.signed {digits : List Char} (all_digits : Digits digits) :
    signed digits = (false, digits) := by
  unfold Quantity.signed
  split
  next rest => exact nomatch all_digits '+' List.mem_cons_self
  next rest => exact nomatch all_digits '-' List.mem_cons_self
  next => rfl

theorem signed_eq {exponent digits : List Char} {negative : Bool}
    (sign : signed exponent = (negative, digits)) :
    negative = true ∧ exponent = '-' :: digits ∨
      negative = false ∧ (exponent = '+' :: digits ∨ exponent = digits) := by
  unfold signed at sign
  split at sign <;> cases sign
  · exact .inr ⟨rfl, .inl rfl⟩
  · exact .inl ⟨rfl, rfl⟩
  · exact .inr ⟨rfl, .inr rfl⟩

theorem exponentScale?_of_signed {exponent digits : List Char} {negative : Bool}
    (sign : signed exponent = (negative, digits)) (some_digit : digits ≠ [])
    (all_digits : Digits digits) :
    exponentScale? exponent = some ((tenTo? (digitsValue digits)).map fun power =>
      if negative then ⟨1, power⟩ else ⟨power, 1⟩) := by
  have accepted : (digits.isEmpty || !digits.all Char.isDigit) = false := by
    rw [List.isEmpty_eq_false_iff.mpr some_digit, List.all_eq_true.mpr all_digits]
    rfl
  rw [exponentScale?, sign]
  simp only [accepted, Bool.false_eq_true, if_false]

theorem splitExponent?_of_no_mark {number : List Char} (plain : ∀ c ∈ number, isMark c = false) :
    splitExponent? number = none := by
  have before : ∀ c ∈ number, (!isMark c) = true := by simpa using plain
  have dropped : (number ++ []).dropWhile (!isMark ·) = [] := List.dropWhile_append_of_pos before
  rw [List.append_nil] at dropped
  rw [splitExponent?, dropped]

theorem splitExponent?_append {number : List Char} (plain : ∀ c ∈ number, isMark c = false)
    {mark : Char} (is_mark : isMark mark = true) (exponent : List Char) :
    splitExponent? (number ++ mark :: exponent) = (exponentScale? exponent).map (number, ·) := by
  have before : ∀ c ∈ number, (!isMark c) = true := by simpa using plain
  have dropped : (number ++ mark :: exponent).dropWhile (!isMark ·) = mark :: exponent := by
    rw [List.dropWhile_append_of_pos before]
    simp [is_mark]
  have taken : (number ++ mark :: exponent).takeWhile (!isMark ·) = number := by
    rw [List.takeWhile_append_of_pos before]
    simp [is_mark]
  rw [splitExponent?, dropped, taken]

end Quantity

end Recovery
