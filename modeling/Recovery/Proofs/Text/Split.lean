import Recovery.Proofs.Text.Trim
import Recovery.Text.Split
/-!
# Parts of texts

The parts of a text that is put together from others, and what separators at its ends add to them:
nothing but empty parts.
-/
set_option autoImplicit false

namespace Recovery

namespace Text

variable {isSeparator : Char → Bool} {cs front back : List Char}

/-- A separator splits a text, whatever stands before it. -/
theorem split_append_cons {c : Char} (before after : List Char) (separates : isSeparator c = true) :
    split isSeparator (before ++ c :: after) =
      split isSeparator before ++ split isSeparator after := by
  induction before with
  | nil => simp [split, separates]
  | cons d before ih =>
    obtain ⟨first, rest, parts⟩ := List.exists_cons_of_ne_nil (split_ne_nil isSeparator before)
    rw [List.cons_append, split, split, ih, parts]
    split <;> rfl

theorem eq_nil_of_mem_split {part : List Char} (separators : ∀ c ∈ cs, isSeparator c = true)
    (member : part ∈ split isSeparator cs) : part = [] := by
  induction cs with
  | nil => exact List.mem_singleton.mp member
  | cons c cs ih =>
    rw [split, if_pos (separators c List.mem_cons_self)] at member
    rcases List.mem_cons.mp member with rfl | later
    · rfl
    · exact ih (fun d mem => separators d (List.mem_cons_of_mem c mem)) later

/-- The parts of a text that have something in them. -/
def words (isSeparator : Char → Bool) (cs : List Char) : List (List Char) :=
  (split isSeparator cs).filter fun part => !part.isEmpty

theorem words_append_separators (separators : ∀ c ∈ back, isSeparator c = true) :
    words isSeparator (cs ++ back) = words isSeparator cs := by
  cases back with
  | nil => rw [List.append_nil]
  | cons c back =>
    have later := fun d mem => separators d (List.mem_cons_of_mem c mem)
    have none : (split isSeparator back).filter (fun part => !part.isEmpty) = [] := by
      refine List.filter_eq_nil_iff.mpr fun part member => ?_
      rw [eq_nil_of_mem_split later member]
      exact Bool.false_ne_true
    rw [words, split_append_cons cs back (separators c List.mem_cons_self), List.filter_append,
      none, List.append_nil, words]

theorem words_separators_append (separators : ∀ c ∈ front, isSeparator c = true) :
    words isSeparator (front ++ cs) = words isSeparator cs := by
  induction front with
  | nil => rfl
  | cons c front ih =>
    rw [List.cons_append, words, split, if_pos (separators c List.mem_cons_self),
      List.filter_cons_of_neg (by simp)]
    exact ih fun d mem => separators d (List.mem_cons_of_mem c mem)

theorem words_trimBy (isSeparator : Char → Bool) (cs : List Char) :
    words isSeparator (trimBy isSeparator cs) = words isSeparator cs := by
  have surrounds : Surrounds isSeparator cs (trimBy isSeparator cs) := trimBy_eq_iff.mp rfl
  obtain ⟨front, back, whole, before, after⟩ := surrounds.whole
  calc words isSeparator (trimBy isSeparator cs)
      = words isSeparator (front ++ trimBy isSeparator cs) := (words_separators_append before).symm
    _ = words isSeparator (front ++ trimBy isSeparator cs ++ back) :=
        (words_append_separators after).symm
    _ = words isSeparator cs := by rw [← whole]

end Text

end Recovery
