/-!
# Blanks

The code points with the Unicode property `White_Space`.
-/
set_option autoImplicit false

namespace Recovery.Text

def isBlank (c : Char) : Bool :=
  let n := c.toNat
  (0x09 ≤ n && n ≤ 0x0D) || n == 0x20 || n == 0x85 || n == 0xA0 || n == 0x1680 ||
    (0x2000 ≤ n && n ≤ 0x200A) || n == 0x2028 || n == 0x2029 || n == 0x202F || n == 0x205F ||
    n == 0x3000

theorem isBlank_of_isWhitespace {c : Char} (h : c.isWhitespace = true) : isBlank c = true := by
  simp only [Char.isWhitespace, Bool.or_eq_true, decide_eq_true_eq] at h
  rcases h with ((rfl | rfl) | rfl) | rfl <;> rfl

def trimEndBy (inClass : Char → Bool) (cs : List Char) : List Char :=
  (cs.reverse.dropWhile inClass).reverse

def trimBy (inClass : Char → Bool) (cs : List Char) : List Char :=
  trimEndBy inClass (cs.dropWhile inClass)

section Trim

variable {inClass : Char → Bool} {cs : List Char}

theorem dropWhile_eq_self (first : ∀ c ∈ cs.head?, inClass c = false) :
    cs.dropWhile inClass = cs := by
  cases cs with
  | nil => rfl
  | cons c cs => exact List.dropWhile_cons_of_neg (by simp [first c rfl])

/-- Nothing is trimmed where both ends are out of the class. -/
theorem trimBy_eq_self (first : ∀ c ∈ cs.head?, inClass c = false)
    (last : ∀ c ∈ cs.getLast?, inClass c = false) : trimBy inClass cs = cs := by
  have last' : ∀ c ∈ cs.reverse.head?, inClass c = false := by
    rw [List.head?_reverse]
    exact last
  rw [trimBy, trimEndBy, dropWhile_eq_self first, dropWhile_eq_self last', List.reverse_reverse]

end Trim

end Recovery.Text
