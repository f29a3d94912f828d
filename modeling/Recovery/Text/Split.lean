/-!
# Splitting texts

The parts of a text between separators, and the two halves around the first one.
-/
set_option autoImplicit false

namespace Recovery.Text

/-- The parts between the characters in a class; one part if there is none. -/
def split (isSeparator : Char → Bool) : List Char → List (List Char)
  | [] => [[]]
  | c :: cs =>
    if isSeparator c then [] :: split isSeparator cs
    else
      match split isSeparator cs with
      | [] => [[c]]
      | first :: rest => (c :: first) :: rest

theorem split_ne_nil (isSeparator : Char → Bool) (cs : List Char) : split isSeparator cs ≠ [] := by
  cases cs with
  | nil => simp [split]
  | cons c cs =>
    rw [split]
    split
    · simp
    · split <;> simp

theorem split_of_none {isSeparator : Char → Bool} {cs : List Char}
    (h : ∀ c ∈ cs, isSeparator c = false) : split isSeparator cs = [cs] := by
  induction cs with
  | nil => rfl
  | cons c cs ih =>
    rw [split, h c (by simp), ih fun d hd => h d (by simp [hd])]
    rfl

/-- What stands before the first `c`, and what stands after it if there is one. -/
def splitOnce (c : Char) : List Char → List Char × Option (List Char)
  | [] => ([], none)
  | d :: cs =>
    if d = c then ([], some cs)
    else
      let (before, after) := splitOnce c cs
      (d :: before, after)

end Recovery.Text
