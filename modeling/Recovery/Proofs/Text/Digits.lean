import Mathlib.Algebra.Group.Nat.Defs
import Recovery.Text.Blank
/-!
# Decimal digits

A number is read from its digits one after another, the first one first.
-/
set_option autoImplicit false

namespace Recovery

namespace Text

theorem digit_bounds {c : Char} (digit : c.isDigit = true) :
    '0'.toNat ≤ c.toNat ∧ c.toNat ≤ '9'.toNat := by
  simp only [Char.isDigit, Bool.and_eq_true, decide_eq_true_eq] at digit
  exact digit

theorem not_isBlank_of_isDigit {c : Char} (digit : c.isDigit = true) : isBlank c = false := by
  have bounds := digit_bounds digit
  have low : 48 ≤ c.toNat := bounds.1
  have high : c.toNat ≤ 57 := bounds.2
  simp only [isBlank, Bool.or_eq_false_iff, Bool.and_eq_false_iff, beq_eq_false_iff_ne,
    decide_eq_false_iff_not]
  omega

theorem digit_sub_lt {c : Char} (digit : c.isDigit = true) : c.toNat - '0'.toNat < 10 := by
  have bounds := digit_bounds digit
  have nine : '9'.toNat = '0'.toNat + 9 := rfl
  omega

theorem foldl_digits_lt {cs : List Char} (digits : ∀ c ∈ cs, c.isDigit = true) (n : Nat) :
    cs.foldl (fun n d => n * 10 + (d.toNat - '0'.toNat)) n < (n + 1) * 10 ^ cs.length := by
  induction cs generalizing n with
  | nil => simp
  | cons c cs ih =>
    have digit := digit_sub_lt (digits c List.mem_cons_self)
    have rest := ih (fun d member => digits d (List.mem_cons_of_mem c member))
      (n * 10 + (c.toNat - '0'.toNat))
    have step : n * 10 + (c.toNat - '0'.toNat) + 1 ≤ (n + 1) * 10 := by omega
    have grown := Nat.mul_le_mul_right (10 ^ cs.length) step
    rw [List.foldl_cons, List.length_cons, Nat.pow_succ', ← Nat.mul_assoc]
    exact Nat.lt_of_lt_of_le rest grown

theorem foldl_digits_eq (cs : List Char) (n : Nat) :
    cs.foldl (fun n d => n * 10 + (d.toNat - '0'.toNat)) n =
      n * 10 ^ cs.length + cs.foldl (fun n d => n * 10 + (d.toNat - '0'.toNat)) 0 := by
  induction cs generalizing n with
  | nil => simp
  | cons c cs ih =>
    rw [List.foldl_cons, List.foldl_cons, ih, ih (0 * 10 + (c.toNat - '0'.toNat)),
      List.length_cons, Nat.pow_succ', Nat.add_mul, Nat.mul_assoc, Nat.zero_mul, Nat.zero_add,
      Nat.add_assoc]

theorem le_foldl_digits (cs : List Char) (n : Nat) :
    n * 10 ^ cs.length ≤ cs.foldl (fun n d => n * 10 + (d.toNat - '0'.toNat)) n := by
  rw [foldl_digits_eq]
  exact Nat.le_add_right _ _

/-- What a number is written as is read as the number, zeros before it included. -/
theorem foldl_zeros_toDigits (zeros n : Nat) :
    (List.replicate zeros '0' ++ Nat.toDigits 10 n).foldl
      (fun n d => n * 10 + (d.toNat - '0'.toNat)) 0 = n := by
  have flip : (fun n (d : Char) => n * 10 + (d.toNat - '0'.toNat)) =
      fun n d => 10 * n + (d.toNat - '0'.toNat) := by
    funext n d
    rw [Nat.mul_comm]
  rw [flip, ← Nat.ofDigitChars_eq_foldl, Nat.ofDigitChars_append,
    Nat.ofDigitChars_replicate_zero, Nat.mul_zero, Nat.ofDigitChars_ten_toDigits]

theorem foldl_toDigits (n : Nat) :
    (Nat.toDigits 10 n).foldl (fun n d => n * 10 + (d.toNat - '0'.toNat)) 0 = n :=
  foldl_zeros_toDigits 0 n

theorem isDigit_of_mem_toDigits {n : Nat} {c : Char} (member : c ∈ Nat.toDigits 10 n) :
    c.isDigit = true :=
  Nat.isDigit_of_mem_toDigits (by decide) (by decide) member

/-- No number of several digits begins with a zero. -/
theorem toDigits_head_ne_zero {n : Nat} (several : 1 < (Nat.toDigits 10 n).length) :
    (Nat.toDigits 10 n).head? ≠ some '0' := by
  intro zero
  obtain ⟨tail, digits_eq⟩ := List.head?_eq_some_iff.mp zero
  have read := foldl_toDigits n
  have digits : ∀ c ∈ tail, c.isDigit = true := fun c member =>
    isDigit_of_mem_toDigits (digits_eq ▸ List.mem_cons_of_mem _ member)
  have small := foldl_digits_lt digits 0
  rw [digits_eq, List.length_cons] at several
  rw [digits_eq, List.foldl_cons, Nat.zero_mul, Nat.sub_self, Nat.zero_add] at read
  rw [read, Nat.zero_add, Nat.one_mul] at small
  have short := (Nat.length_toDigits_le_iff (by decide) (by omega)).mpr small
  rw [digits_eq, List.length_cons] at short
  omega

end Text

end Recovery
