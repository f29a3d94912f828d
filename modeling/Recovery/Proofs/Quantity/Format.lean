import Recovery.Proofs.Quantity.Parse
/-!
# Sizes that are written are read back

A size is written with the largest unit that divides it, and so nothing of it is lost: the quantity
stands for the size again.
-/
set_option autoImplicit false

namespace Recovery

namespace Quantity

variable {quantity : String} {n : Nat}

/-- Every size that is read is below the limit. -/
theorem lt_limit_of_parseBytes (parsed : parseBytes quantity = .ok n) : n < limit := by
  obtain ⟨whole, frac, scale, ⟨_, _, -, -, suffixed⟩, -, found⟩ :=
    parse_eq_ok_iff.mp (parseBytes_eq_ok_iff_parse.mp parsed)
  simp only [bytes?, Option.bind_eq_bind, Option.bind_eq_some_iff, below?_eq_some_iff,
    tenTo?_eq_some_iff] at found
  obtain ⟨_, -, _, ⟨rfl, -⟩, _, ⟨rfl, numerator_lt⟩, _, ⟨rfl, -⟩, found⟩ := found
  cases found
  exact divideUp_lt (Nat.mul_pos (Nat.pow_pos (by decide)) suffixed.denominator_pos) numerator_lt

/-! ## The unit of a size -/

/-- The suffixes of the units. A number without one counts bytes, and each unit is 1024 times the
one before it. -/
def unitNames : List String := ["", "Ki", "Mi", "Gi", "Ti", "Pi", "Ei"]

/-- A size may be written in this unit: it is a multiple of it and not nothing, unless it is counted
in bytes. -/
def Measures (power n : Nat) : Prop :=
  power = 0 ∨ power < unitNames.length ∧ 1024 ^ power ≤ n ∧ 1024 ^ power ∣ n

theorem Measures.dvd {power : Nat} (measures : Measures power n) : 1024 ^ power ∣ n := by
  rcases measures with rfl | ⟨-, -, divides⟩
  · exact one_dvd n
  · exact divides

theorem binarySuffixes_descend :
    binarySuffixes.reverse.Pairwise fun larger smaller => smaller.2 < larger.2 := by decide

theorem unitNames_of_binary : ∀ entry ∈ binarySuffixes, 0 < entry.2 ∧
    unitNames[entry.2]? = some entry.1 := by decide

theorem exists_binary {power : Nat} (some_power : power ≠ 0) (listed : power < unitNames.length) :
    ∃ suffix, (suffix, power) ∈ binarySuffixes.reverse := by
  have all_listed : ∀ k < unitNames.length, k ≠ 0 → k ∈ binarySuffixes.reverse.map Prod.snd := by
    decide
  obtain ⟨entry, member, rfl⟩ := List.mem_map.mp (all_listed power listed some_power)
  exact ⟨entry.1, member⟩

/-- A size is written in the largest unit that it may be written in. -/
theorem format_eq (n : Nat) : ∃ power suffix, IsGreatest {k | Measures k n} power ∧
    unitNames[power]? = some suffix ∧ format n = toString (n / 1024 ^ power) ++ suffix := by
  unfold format
  split
  next suffix power found =>
    obtain ⟨fits, before, after, split, skipped⟩ := List.find?_eq_some_iff_append.mp found
    have listed : (suffix, power) ∈ binarySuffixes :=
      List.mem_reverse.mp (List.mem_of_find?_eq_some found)
    obtain ⟨-, named⟩ := unitNames_of_binary _ listed
    simp only [Bool.and_eq_true, decide_eq_true_eq, beq_iff_eq, Nat.pow_eq] at fits
    have measures : Measures power n := .inr ⟨(List.getElem?_eq_some_iff.mp named).1, fits.1,
      Nat.dvd_of_mod_eq_zero fits.2⟩
    refine ⟨power, suffix, ⟨measures, ?_⟩, named, rfl⟩
    rintro k (rfl | ⟨small, le, divides⟩)
    · exact Nat.zero_le power
    · by_contra above
      obtain ⟨name, member⟩ := exists_binary (by omega) small
      have descends := binarySuffixes_descend
      rw [split] at member descends
      -- a larger unit stands before the one that is found, so it was tried and did not fit
      rcases List.mem_append.mp member with earlier | later
      · have unfit := skipped _ earlier
        simp [le, Nat.mod_eq_zero_of_dvd divides] at unfit
      · have rest := (List.pairwise_append.mp descends).2.1
        rcases List.mem_cons.mp later with same | later
        · cases same
          exact above le_rfl
        · exact above (List.rel_of_pairwise_cons rest later).le
  next none =>
    refine ⟨0, "", ⟨.inl rfl, ?_⟩, rfl, ?_⟩
    · rintro k (rfl | ⟨small, le, divides⟩)
      · exact le_rfl
      · by_contra above
        obtain ⟨name, member⟩ := exists_binary (by omega) small
        have unfit := List.find?_eq_none.mp none _ member
        simp [le, Nat.mod_eq_zero_of_dvd divides] at unfit
    · rw [Nat.pow_zero, Nat.div_one, String.append_empty]

/-! ## Reading what was written -/

/-- A suffix that is added to a number is not mistaken for anything else. -/
theorem suffix_of_unitNames {power : Nat} {suffix : String}
    (named : unitNames[power]? = some suffix) : Suffix suffix.toList ⟨1024 ^ power, 1⟩ ∧
      ∀ c ∈ suffix.toList.getLast?, Text.isBlank c = false := by
  have all_visible : ∀ name ∈ unitNames,
      name.toList.getLast?.all (!Text.isBlank ·) = true := by decide
  refine ⟨?_, fun c last => ?_⟩
  · cases power with
    | zero =>
      cases named
      exact .none
    | succ power =>
      have listed : ∀ k < unitNames.length, k ≠ 0 → ∀ name, unitNames[k]? = some name →
          (name, k) ∈ binarySuffixes := by decide
      have small := (List.getElem?_eq_some_iff.mp named).1
      exact suffix_of_binary (listed _ small (Nat.succ_ne_zero power) suffix named)
  · simpa using (Option.all_eq_true _ _).mp (all_visible _ (List.mem_of_getElem? named)) c last

/-- A whole number with a suffix is spelled as a quantity. -/
theorem spells_toString_append {suffix : String} {scale : Scale}
    (suffixed : Suffix suffix.toList scale)
    (visible : ∀ c ∈ suffix.toList.getLast?, Text.isBlank c = false) (n : Nat) :
    Spells (trimmed (toString n ++ suffix)) (Nat.toDigits 10 n) [] scale := by
  have spelled : (toString n ++ suffix).toList = Nat.toDigits 10 n ++ suffix.toList := by
    rw [String.toList_append, Nat.toString_eq_ofList_toDigits, String.toList_ofList]
  have digits : Digits (Nat.toDigits 10 n) := fun c => Text.isDigit_of_mem_toDigits
  have trimmed_eq : trimmed (toString n ++ suffix) = Nat.toDigits 10 n ++ suffix.toList := by
    rw [trimmed, spelled]
    apply Text.trimBy_eq_self
    · intro c first
      rw [List.head?_append_of_ne_nil _ Nat.toDigits_ne_nil] at first
      exact Text.not_isBlank_of_isDigit (digits c (List.mem_of_mem_head? first))
    · intro c last
      rw [List.getLast?_append] at last
      obtain last | ⟨-, last⟩ := Option.or_eq_some_iff.mp last
      · exact visible c last
      · exact Text.not_isBlank_of_isDigit (digits c (List.mem_of_mem_getLast? last))
  exact ⟨_, _, trimmed_eq, .whole digits Nat.toDigits_ne_nil, suffixed⟩

theorem digitsValue_toDigits (n : Nat) : digitsValue (Nat.toDigits 10 n) = n :=
  Text.foldl_toDigits n

/-- A whole number with the suffix of a unit is the number of bytes in so many units. -/
theorem parseBytes_toString_append {unit : Nat} {suffix : String}
    (suffixed : Suffix suffix.toList ⟨unit, 1⟩)
    (visible : ∀ c ∈ suffix.toList.getLast?, Text.isBlank c = false) (fits : unit < limit)
    (positive : 0 < unit) (below : n * unit < limit) :
    parseBytes (toString n ++ suffix) = .ok (n * unit) := by
  have value : digitsValue (Nat.toDigits 10 n ++ []) = n := by
    rw [List.append_nil, digitsValue_toDigits]
  have number_lt : n < limit := Nat.lt_of_le_of_lt (Nat.le_mul_of_pos_right n positive) below
  have all_fit : Fits (Nat.toDigits 10 n) [] ⟨unit, 1⟩ := by
    have one_lt : 1 < limit := by decide
    refine ⟨⟨fits, one_lt⟩, ?_, one_lt, ?_, one_lt⟩
    · rwa [value]
    · rwa [value]
  have found : bytes? (Nat.toDigits 10 n) [] ⟨unit, 1⟩ = some (n * unit) := by
    refine (bytes?_eq_some_iff (by decide) all_fit.scale_fits).mpr ⟨all_fit, ?_⟩
    rw [value]
    simp [divideUp]
  exact parseBytes_eq_ok_iff_parse.mpr (parse_eq_ok_iff.mpr
    ⟨_, _, _, spells_toString_append suffixed visible n, all_fit.scale_fits, found⟩)

theorem parseBytes_format (below : n < limit) : parseBytes (format n) = .ok n := by
  obtain ⟨power, suffix, ⟨measures, -⟩, named, written⟩ := format_eq n
  obtain ⟨suffixed, visible⟩ := suffix_of_unitNames named
  have whole : n / 1024 ^ power * 1024 ^ power = n := Nat.div_mul_cancel measures.dvd
  have fits : 1024 ^ power < limit := by
    have small := (List.getElem?_eq_some_iff.mp named).1
    exact Nat.lt_of_le_of_lt (Nat.pow_le_pow_right (by decide) (Nat.le_of_lt_succ small))
      (by decide)
  have read := parseBytes_toString_append (n := n / 1024 ^ power) suffixed visible fits
    (Nat.pow_pos (by decide))
  rw [whole] at read
  rw [written]
  exact read below

/-! ## What a quantity denotes -/

/-- The quantity is spelled as a number of bytes of this value. -/
def Denotes (quantity : String) (value : ℚ) : Prop :=
  ∃ whole frac scale, Spells (trimmed quantity) whole frac scale ∧ exact whole frac scale = value

theorem denotes_format (n : Nat) : Denotes (format n) n := by
  obtain ⟨power, suffix, ⟨measures, -⟩, named, written⟩ := format_eq n
  obtain ⟨suffixed, visible⟩ := suffix_of_unitNames named
  rw [written]
  refine ⟨_, _, _, spells_toString_append suffixed visible _, ?_⟩
  have whole : ((n / 1024 ^ power : ℕ) : ℚ) * (1024 ^ power : ℕ) = n := by
    exact_mod_cast Nat.div_mul_cancel measures.dvd
  rw [← whole, exact, digitsValue_toDigits]
  simp [digitsValue]

/-- However long its fraction is, a quantity never stands for more than it is read as. -/
theorem exact_le_of_bytes? {whole frac : List Char} {scale : Scale}
    (positive : 0 < scale.denominator) (found : bytes? whole frac scale = some n) :
    exact whole frac scale ≤ n := by
  simp only [bytes?, Option.bind_eq_bind, Option.bind_eq_some_iff, below?_eq_some_iff,
    tenTo?_eq_some_iff] at found
  obtain ⟨_, ⟨rfl, -⟩, _, ⟨rfl, -⟩, _, ⟨rfl, -⟩, _, ⟨rfl, -⟩, found⟩ := found
  cases found
  have counted : 0 < 10 ^ places frac * scale.denominator :=
    Nat.mul_pos (Nat.pow_pos (by decide)) positive
  -- no more digits are counted than there are
  have fewer : 10 ^ places frac * scale.denominator ≤ 10 ^ frac.length * scale.denominator :=
    Nat.mul_le_mul_right _ (Nat.pow_le_pow_right (by decide) (Nat.mod_le _ _))
  rw [exact_eq positive]
  refine le_trans ?_ (divideUp_isLeast _ counted).1
  exact div_le_div_of_nonneg_left (Nat.cast_nonneg _) (by exact_mod_cast counted)
    (by exact_mod_cast fewer)

/-- A quantity that is accepted stands for no more than it is read as. If the digits of its fraction
can be counted, it is read as the least number of bytes that is not below its value. -/
theorem exact_of_parseBytes (parsed : parseBytes quantity = .ok n) :
    ∃ whole frac scale, Spells (trimmed quantity) whole frac scale ∧ exact whole frac scale ≤ n ∧
      (frac.length < 2 ^ 32 → IsLeast {m : ℕ | exact whole frac scale ≤ m} n) := by
  obtain ⟨whole, frac, scale, spells, fits, found⟩ :=
    parse_eq_ok_iff.mp (parseBytes_eq_ok_iff_parse.mp parsed)
  have positive : 0 < scale.denominator := by
    obtain ⟨_, _, _, _, suffixed⟩ := spells
    exact suffixed.denominator_pos
  refine ⟨whole, frac, scale, spells, exact_le_of_bytes? positive found, fun short => ?_⟩
  obtain ⟨-, rfl⟩ := (bytes?_eq_some_iff short fits).mp found
  rw [exact_eq positive]
  exact divideUp_isLeast _ (Nat.mul_pos (Nat.pow_pos (by decide)) positive)

/-- What is written is read back, and it is written in the largest unit that the size is a multiple
of; so no two sizes are written alike. A quantity that is accepted, written anew, denotes the whole
number of bytes that it is rounded up to. -/
theorem format_reads_back :
    (∀ n < limit, parseBytes (format n) = .ok n) ∧
    (∀ n, ∃ power suffix, IsGreatest {k | Measures k n} power ∧
      unitNames[power]? = some suffix ∧ format n = toString (n / 1024 ^ power) ++ suffix) ∧
    (∀ m < limit, ∀ n < limit, format m = format n → m = n) ∧
    ∀ quantity n, parseBytes quantity = .ok n →
      parseBytes (format n) = .ok n ∧ Denotes (format n) n ∧
      ∃ whole frac scale, Spells (trimmed quantity) whole frac scale ∧
        exact whole frac scale ≤ n ∧
        (frac.length < 2 ^ 32 → IsLeast {m : ℕ | exact whole frac scale ≤ m} n) := by
  refine ⟨fun n => parseBytes_format, format_eq, fun m m_lt n n_lt same => ?_,
    fun quantity n parsed => ?_⟩
  · have read := parseBytes_format m_lt
    rw [same, parseBytes_format n_lt] at read
    exact (Except.ok.inj read).symm
  · exact ⟨parseBytes_format (lt_limit_of_parseBytes parsed), denotes_format n,
      exact_of_parseBytes parsed⟩

/-- The greatest size, and one and a half gibibytes, which are written in mebibytes. -/
theorem format_reads_back_of_greatest :
    parseBytes (format (limit - 1)) = .ok (limit - 1) ∧
      parseBytes "1.5Gi" = .ok 1610612736 ∧ format 1610612736 = "1536Mi" ∧
      parseBytes "1536Mi" = .ok 1610612736 ∧ Denotes "1536Mi" (1610612736 : ℕ) := by
  obtain ⟨reads_back, -, -, rewrites⟩ := format_reads_back
  have greatest : limit - 1 < limit := by decide
  have parsed : parseBytes "1.5Gi" = .ok 1610612736 := rfl
  have written : format 1610612736 = "1536Mi" := by decide +kernel
  obtain ⟨read, denotes, -⟩ := rewrites "1.5Gi" 1610612736 parsed
  rw [written] at read denotes
  exact ⟨reads_back _ greatest, parsed, written, read, denotes⟩

end Quantity

end Recovery
