import Mathlib.Data.List.DropRight
import Recovery.Text.Blank
/-!
# What trimming takes and leaves

Only characters of the class are taken off, and none of them is left at an end.
-/
set_option autoImplicit false

namespace Recovery

namespace Text

variable {inClass : Char → Bool} {cs front back : List Char}

theorem trimEndBy_isPrefix (inClass : Char → Bool) (cs : List Char) : trimEndBy inClass cs <+: cs :=
  List.rdropWhile_prefix inClass cs

theorem trimEndBy_ne_nil (outside : ∃ c ∈ cs, inClass c = false) : trimEndBy inClass cs ≠ [] := by
  intro trimmed
  obtain ⟨c, member, outside⟩ := outside
  have inside : inClass c = true := List.rdropWhile_eq_nil_iff.mp trimmed c member
  exact Bool.eq_false_iff.mp outside inside

theorem getLast?_trimEndBy : ∀ c ∈ (trimEndBy inClass cs).getLast?, inClass c = false := by
  intro c last
  rw [trimEndBy, List.getLast?_reverse] at last
  have outside := List.head?_dropWhile_not inClass cs.reverse
  rwa [Option.mem_def.mp last] at outside

theorem trimBy_subset (inClass : Char → Bool) (cs : List Char) : trimBy inClass cs ⊆ cs :=
  List.Subset.trans (trimEndBy_isPrefix inClass _).subset (List.dropWhile_suffix inClass).subset

theorem trimBy_ne_nil (outside : ∃ c ∈ cs, inClass c = false) : trimBy inClass cs ≠ [] := by
  apply trimEndBy_ne_nil
  obtain ⟨c, member, outside⟩ := outside
  rw [← List.takeWhile_append_dropWhile (p := inClass) (l := cs), List.mem_append] at member
  refine ⟨c, member.resolve_left fun taken => ?_, outside⟩
  exact Bool.eq_false_iff.mp outside (List.mem_takeWhile_imp taken)

theorem trimEndBy_eq_self (last : ∀ c ∈ cs.getLast?, inClass c = false) :
    trimEndBy inClass cs = cs := by
  have first : ∀ c ∈ cs.reverse.head?, inClass c = false := by
    rw [List.head?_reverse]
    exact last
  rw [trimEndBy, dropWhile_eq_self first, List.reverse_reverse]

theorem trimEndBy_append (inside : ∀ c ∈ back, inClass c = true) :
    trimEndBy inClass (cs ++ back) = trimEndBy inClass cs := by
  have reversed : ∀ c ∈ back.reverse, inClass c = true :=
    fun c member => inside c (List.mem_reverse.mp member)
  rw [trimEndBy, List.reverse_append, List.dropWhile_append_of_pos reversed, trimEndBy]

theorem exists_trimEndBy_append (inClass : Char → Bool) (cs : List Char) :
    ∃ back, cs = trimEndBy inClass cs ++ back ∧ ∀ c ∈ back, inClass c = true := by
  refine ⟨(cs.reverse.takeWhile inClass).reverse, ?_, fun c member => ?_⟩
  · rw [trimEndBy, ← List.reverse_append, List.takeWhile_append_dropWhile, List.reverse_reverse]
  · exact List.mem_takeWhile_imp (List.mem_reverse.mp member)

/-- A text with characters of the class around it, and none of them at its own ends. -/
structure Surrounds (inClass : Char → Bool) (cs core : List Char) : Prop where
  whole : ∃ front back, cs = front ++ core ++ back ∧ (∀ c ∈ front, inClass c = true) ∧
    ∀ c ∈ back, inClass c = true
  first : ∀ c ∈ core.head?, inClass c = false
  last : ∀ c ∈ core.getLast?, inClass c = false

/-- Trimming leaves just that. -/
theorem trimBy_eq_iff {core : List Char} :
    trimBy inClass cs = core ↔ Surrounds inClass cs core := by
  constructor
  · rintro rfl
    obtain ⟨back, rest, inside⟩ := exists_trimEndBy_append inClass (cs.dropWhile inClass)
    refine ⟨⟨cs.takeWhile inClass, back, ?_, fun c => List.mem_takeWhile_imp, inside⟩, ?_,
      getLast?_trimEndBy⟩
    · rw [trimBy, List.append_assoc, ← rest, List.takeWhile_append_dropWhile]
    · intro c first
      have outside := List.head?_dropWhile_not inClass cs
      obtain ⟨tail, starts⟩ := List.head?_eq_some_iff.mp first
      rw [rest, ← trimBy, starts] at outside
      exact outside
  · rintro ⟨⟨front, back, rfl, before, after⟩, first, last⟩
    cases core with
    | nil =>
      rw [List.append_nil, trimBy, List.dropWhile_append_of_pos before,
        List.dropWhile_eq_nil_iff.mpr after]
      rfl
    | cons c core =>
      have outside : inClass c = false := first c rfl
      rw [trimBy, List.append_assoc, List.dropWhile_append_of_pos before, List.cons_append,
        List.dropWhile_cons_of_neg (by simp [outside]), ← List.cons_append,
        trimEndBy_append after, trimEndBy_eq_self last]

end Text

end Recovery
