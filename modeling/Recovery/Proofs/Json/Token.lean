import Recovery.Json.Printer
import Recovery.Json.Token
import Recovery.Proofs.Text.Digits
/-!
# The tokens of written values

Each part of a written document is cut off as one token, with the value it was written for.
-/
set_option autoImplicit false

namespace Recovery

namespace Json

namespace Token

theorem all_cons {c : Char} (tail : List Char) (visible : isBlank c = false) :
    all (c :: tail) = (head c tail).1 :: all (head c tail).2 := by
  rw [all, visible]
  simp

/-! ## Marks and words -/

theorem head_mark {c : Char} {token : Token} (mark : mark? c = some token) (tail : List Char) :
    head c tail = (token, tail) := by
  rw [head, mark]

theorem all_mark {c : Char} {token : Token} (mark : mark? c = some token)
    (visible : isBlank c = false) (tail : List Char) : all (c :: tail) = token :: all tail := by
  rw [all_cons tail visible, head_mark mark]

theorem all_openArray (tail : List Char) : all ('[' :: tail) = .openArray :: all tail :=
  all_mark rfl rfl tail

theorem all_closeArray (tail : List Char) : all (']' :: tail) = .closeArray :: all tail :=
  all_mark rfl rfl tail

theorem all_openObject (tail : List Char) : all ('\x7b' :: tail) = .openObject :: all tail :=
  all_mark rfl rfl tail

theorem all_closeObject (tail : List Char) : all ('\x7d' :: tail) = .closeObject :: all tail :=
  all_mark rfl rfl tail

theorem all_comma (tail : List Char) : all (',' :: tail) = .comma :: all tail :=
  all_mark rfl rfl tail

theorem all_colon (tail : List Char) : all (':' :: tail) = .colon :: all tail :=
  all_mark rfl rfl tail

theorem wordToken_append (word : String) (value : Json) (tail : List Char) :
    wordToken word value (word.toList ++ tail) = (.atom (some value), tail) := by
  have found : word.toList.isPrefixOf (word.toList ++ tail) = true :=
    List.isPrefixOf_iff_prefix.mpr (List.prefix_append _ _)
  rw [wordToken, if_pos found, ← String.length_toList, List.drop_left]

theorem all_word (word : String) {value : Json} {c : Char} {cs : List Char}
    (spelled : word.toList = c :: cs) (visible : isBlank c = false)
    (chosen : ∀ tail, head c tail = wordToken word value (c :: tail)) (tail : List Char) :
    all (word.toList ++ tail) = .atom (some value) :: all tail := by
  have cut : head c (cs ++ tail) = (.atom (some value), tail) := by
    rw [chosen, ← List.cons_append, ← spelled, wordToken_append]
  rw [spelled, List.cons_append, all_cons _ visible, cut]

theorem all_null (tail : List Char) :
    all ("null".toList ++ tail) = .atom (some .null) :: all tail :=
  have spelled : "null".toList = ['n', 'u', 'l', 'l'] := by simp
  all_word "null" spelled (by decide) (fun _ => rfl) tail

theorem all_bool (b : Bool) (tail : List Char) :
    all ((render (.bool b)).toList ++ tail) = .atom (some (.bool b)) :: all tail := by
  cases b with
  | false =>
    have spelled : "false".toList = ['f', 'a', 'l', 's', 'e'] := by simp
    exact all_word "false" spelled (by decide) (fun _ => rfl) tail
  | true =>
    have spelled : "true".toList = ['t', 'r', 'u', 'e'] := by simp
    exact all_word "true" spelled (by decide) (fun _ => rfl) tail

/-! ## Strings -/

theorem hexDigit?_hexDigit : ∀ n < 16, hexDigit? (hexDigit n) = some n := by decide

theorem scan_escape {c e : Char} (short : shortEscape? c = some e) (not_unit : c ≠ 'u')
    (done rest : List Char) :
    scan true .plain done ('\\' :: c :: rest) = scan true .plain (e :: done) rest := by
  simp [scan, not_unit, short]

theorem scan_control {c : Char} (control : c.toNat < 0x20) (done rest : List Char) :
    scan true .plain done ('\\' :: 'u' :: '0' :: '0' :: hexDigit (c.toNat / 16) ::
      hexDigit (c.toNat % 16) :: rest) = scan true .plain (c :: done) rest := by
  have zero : hexDigit? '0' = some 0 := rfl
  have high := hexDigit?_hexDigit (c.toNat / 16) (by omega)
  have low := hexDigit?_hexDigit (c.toNat % 16) (by omega)
  have value : ((0 * 16 + 0) * 16 + 0) * 16 + c.toNat / 16 = c.toNat / 16 := by omega
  have unit : c.toNat / 16 * 16 + c.toNat % 16 = c.toNat := by omega
  have whole : ofUnit true c.toNat none = some ([c], .plain) := by
    have below : ¬ (0xD800 ≤ c.toNat ∧ c.toNat ≤ 0xDBFF) := by omega
    have below' : ¬ (0xDC00 ≤ c.toNat ∧ c.toNat ≤ 0xDFFF) := by omega
    simp [ofUnit, below, below', Char.ofNat_toNat]
  simp [scan, zero, high, low, unit, whole]

/-- Whatever a character is written as, it is read as that character. -/
theorem scan_escapeChar (c : Char) (done rest : List Char) :
    scan true .plain done (escapeChar c ++ rest) = scan true .plain (c :: done) rest := by
  unfold escapeChar
  -- the characters that have a short escape
  iterate 7
    split
    · next same =>
      rw [same]
      exact scan_escape rfl (by decide) done rest
  split
  · next control => exact scan_control control done rest
  · next not_quote not_backslash _ _ _ _ _ not_control =>
    simp [scan, not_quote, not_backslash, not_control]

theorem scan_flatMap_escapeChar (cs done rest : List Char) :
    scan true .plain done (cs.flatMap escapeChar ++ '"' :: rest) =
      .ok (done.reverse ++ cs, rest) := by
  induction cs generalizing done with
  | nil => simp [scan]
  | cons c cs ih =>
    rw [List.flatMap_cons, List.append_assoc, scan_escapeChar, ih, List.reverse_cons,
      List.append_assoc, List.singleton_append]

theorem toList_quote (s : String) :
    (quote s).toList = '"' :: (s.toList.flatMap escapeChar ++ ['"']) := by
  simp [quote]

theorem all_quote (s : String) (tail : List Char) :
    all ((quote s).toList ++ tail) = .text (some s) :: all tail := by
  have scanned := scan_flatMap_escapeChar s.toList [] tail
  have cut : head '"' (s.toList.flatMap escapeChar ++ '"' :: tail) = (.text (some s), tail) := by
    rw [head, show mark? '"' = none from rfl]
    simp [string, scanned]
  rw [toList_quote, List.cons_append, List.append_assoc, List.singleton_append,
    all_cons _ rfl, cut]

/-! ## Whole numbers -/

/-- What may follow a value: no number goes on there. -/
def Ends (rest : List Char) : Prop := ∀ c ∈ rest.head?, c = ',' ∨ c = ']' ∨ c = '\x7d'

theorem Ends.nil : Ends [] := nofun

theorem Ends.cons {c : Char} (rest : List Char) (mark : c = ',' ∨ c = ']' ∨ c = '\x7d') :
    Ends (c :: rest) := by
  rintro _ ⟨⟩
  exact mark

theorem Ends.digits {rest : List Char} (ends : Ends rest) (n : Nat) :
    digits (Nat.toDigits 10 n ++ rest) = .ok (Nat.toDigits 10 n, rest) := by
  have all_digits : ∀ c ∈ Nat.toDigits 10 n, c.isDigit = true := fun _ =>
    Text.isDigit_of_mem_toDigits
  have stops : rest.takeWhile Char.isDigit = [] ∧ rest.dropWhile Char.isDigit = rest := by
    cases rest with
    | nil => exact ⟨rfl, rfl⟩
    | cons c rest =>
      have mark : c.isDigit = false := by
        rcases ends c rfl with rfl | rfl | rfl <;> rfl
      simp [mark]
  have taken : (Nat.toDigits 10 n ++ rest).takeWhile Char.isDigit = Nat.toDigits 10 n := by
    rw [List.takeWhile_append_of_pos all_digits, stops.1, List.append_nil]
  have dropped : (Nat.toDigits 10 n ++ rest).dropWhile Char.isDigit = rest := by
    rw [List.dropWhile_append_of_pos all_digits, stops.2]
  simp [Token.digits, taken, dropped, Nat.toDigits_ne_nil]

theorem Ends.fraction {rest : List Char} (ends : Ends rest) : fraction rest = .ok ([], rest) := by
  cases rest with
  | nil => rfl
  | cons c rest => rcases ends c rfl with rfl | rfl | rfl <;> rfl

theorem Ends.exponent {rest : List Char} (ends : Ends rest) :
    exponent rest = .ok (([], []), rest) := by
  cases rest with
  | nil => rfl
  | cons c rest => rcases ends c rfl with rfl | rfl | rfl <;> rfl

theorem Ends.unsigned {rest : List Char} (ends : Ends rest) (minus : Bool) (n : Nat) :
    unsigned minus (Nat.toDigits 10 n ++ rest) =
      .ok (⟨minus, Nat.toDigits 10 n, [], ([], [])⟩, rest) := by
  have no_zero : ¬ ((Nat.toDigits 10 n).head? = some '0' ∧ (Nat.toDigits 10 n).length > 1) :=
    fun ⟨zero, several⟩ => Text.toDigits_head_ne_zero several zero
  rw [Token.unsigned, ends.digits]
  simp only [if_neg no_zero, ends.fraction, ends.exponent]
  rfl

theorem decimalValue_toDigits (n : Nat) : decimalValue (Nat.toDigits 10 n) = n :=
  Text.foldl_toDigits n

theorem not_isTooGreat {minus : Bool} {n : Nat} (word : n ≤ 18446744073709551615) :
    (⟨minus, Nat.toDigits 10 n, [], ([], [])⟩ : Numeral).isTooGreat = false := by
  have short : (Nat.toDigits 10 n).length ≤ 20 :=
    (Nat.length_toDigits_le_iff (by decide) (by decide)).mpr (by omega)
  have places : ((Nat.toDigits 10 n).length : Int) < 309 := by omega
  simp [Numeral.isTooGreat, Token.isTooGreat, decimalValue_toDigits, places,
    show decimalValue [] = 0 from rfl]

theorem value?_toDigits (minus : Bool) {n : Nat} (proper : minus = true → n ≠ 0)
    (word : isWord (if minus then -(n : Int) else n) = true) :
    (⟨minus, Nat.toDigits 10 n, [], ([], [])⟩ : Numeral).value? =
      some (.integer (if minus then -(n : Int) else n)) := by
  have small : n ≤ 18446744073709551615 := by
    simp only [isWord, Bool.and_eq_true, decide_eq_true_eq] at word
    split at word <;> omega
  have signed : (minus && Nat.toDigits 10 n == ['0']) = false := by
    cases minus with
    | false => rfl
    | true =>
      simp only [Bool.true_and, beq_eq_false_iff_ne]
      intro zero
      have value := decimalValue_toDigits n
      rw [zero] at value
      exact proper rfl value.symm
  have whole : (⟨minus, Nat.toDigits 10 n, [], ([], [])⟩ : Numeral).whole? =
      some (if minus then -(n : Int) else n) := by
    simp only [Numeral.whole?, List.isEmpty_nil, Bool.true_and, signed, Bool.not_false, if_true,
      decimalValue_toDigits]
  rw [Numeral.value?, not_isTooGreat small, whole, Option.filter_some_pos word]
  rfl

theorem head_number {c : Char} (start : c = '-' ∨ c.isDigit = true) (tail : List Char) :
    head c tail = numberToken (c :: tail) := by
  have other : ∀ d : Char, d ≠ '-' → d.isDigit = false → c ≠ d := by
    rintro _ not_minus no_digit rfl
    rcases start with minus | digit
    · exact not_minus minus
    · rw [no_digit] at digit
      cases digit
  have number : (c == '-' || c.isDigit) = true := by simpa using start
  have no_mark : mark? c = none := by
    simp [mark?, other '[' (by decide) rfl, other ']' (by decide) rfl,
      other '\x7b' (by decide) rfl, other '\x7d' (by decide) rfl, other ',' (by decide) rfl,
      other ':' (by decide) rfl]
  rw [head, no_mark]
  simp only [if_neg (other '"' (by decide) rfl), if_neg (other 'n' (by decide) rfl),
    if_neg (other 't' (by decide) rfl), if_neg (other 'f' (by decide) rfl)]
  exact if_pos number

theorem all_number {c : Char} (start : c = '-' ∨ c.isDigit = true) {cs tail : List Char}
    {n : Numeral} {j : Json} (read : numeral (c :: cs) = .ok (n, tail))
    (value : n.value? = some j) :
    all (c :: cs) = .atom (some j) :: all tail := by
  have visible : isBlank c = false := by
    rcases start with rfl | digit
    · rfl
    · have bounds := Text.digit_bounds digit
      have low : '0'.toNat ≤ c.toNat := bounds.1
      simp only [isBlank, Bool.or_eq_false_iff, beq_eq_false_iff_ne]
      refine ⟨⟨⟨?_, ?_⟩, ?_⟩, ?_⟩ <;> (rintro rfl; revert low; decide)
  rw [all_cons _ visible, head_number start, numberToken, read]
  simp only [value]

theorem all_integer {n : Int} (word : isWord n = true) {tail : List Char} (ends : Ends tail) :
    all ((toString n).toList ++ tail) = .atom (some (.integer n)) :: all tail := by
  cases n with
  | ofNat n =>
    have some_digit : Nat.toDigits 10 n ≠ [] := Nat.toDigits_ne_nil
    obtain ⟨c, cs, digits_eq⟩ := List.exists_cons_of_ne_nil some_digit
    have digit : c.isDigit = true := Text.isDigit_of_mem_toDigits (digits_eq ▸ List.mem_cons_self)
    have spelled : (toString (Int.ofNat n)).toList = Nat.toDigits 10 n := String.toList_ofList
    have unsigned : numeral (c :: cs ++ tail) = unsigned false (c :: cs ++ tail) := by
      rw [List.cons_append, numeral]
      intro rest minus
      rw [(List.cons.inj minus).1] at digit
      cases digit
    have read := ends.unsigned false n
    have value := value?_toDigits false (n := n) nofun word
    rw [digits_eq, ← unsigned] at read
    rw [spelled, digits_eq]
    apply all_number (.inr digit) read
    rw [← digits_eq]
    exact value
  | negSucc n =>
    have spelled : (toString (Int.negSucc n)).toList = '-' :: Nat.toDigits 10 (n + 1) := by
      show ("-" ++ String.ofList (Nat.toDigits 10 (n + 1))).toList = _
      simp
    have read := ends.unsigned true (n + 1)
    have value := value?_toDigits true (n := n + 1) (fun _ => Nat.succ_ne_zero n) word
    rw [spelled]
    exact all_number (.inl rfl) read value

end Token

end Json

end Recovery
