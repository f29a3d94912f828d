import Recovery.Proofs.Text.Split
import Recovery.Proofs.Worker.VolumeName
import Recovery.Recipe.Layout
/-!
# Where paths lead

A path is followed segment by segment: a parent leads back, an empty segment and a dot lead nowhere,
and every other segment is the name of something below. Without a parent in it a path only leads on,
and what matters of it are its names.
-/
set_option autoImplicit false

namespace Recovery

namespace Layout

def parent : List Char := ['.', '.']

/-- A segment that leads to something below. -/
def isName (segment : List Char) : Bool := segment ≠ [] ∧ segment ≠ ['.'] ∧ segment ≠ parent

/-- The names on the way to where a segment leads. The root is the parent of itself. -/
def step (place : List (List Char)) (segment : List Char) : List (List Char) :=
  if segment = parent then place.dropLast
  else if isName segment then place ++ [segment]
  else place

def walk (place : List (List Char)) (path : List Char) : List (List Char) :=
  (segments path).foldl step place

/-- The names on the way from the root to where the path leads. -/
def resolve (path : String) : List (List Char) := walk [] path.toList

/-- The path leads to the directory or to something below it. -/
def Within (directory path : String) : Prop := resolve directory <+: resolve path

instance (directory path : String) : Decidable (Within directory path) :=
  inferInstanceAs (Decidable (_ <+: _))

/-- The path leads to something below the directory. -/
def Below (directory path : String) : Prop :=
  ∃ rest, rest ≠ [] ∧ resolve path = resolve directory ++ rest

/-- Segment by segment, the one path is the other or an ancestor of it. -/
def Covers (path other : String) : Prop := segments path.toList <+: segments other.toList

/-! ## Segments -/

variable {place : List (List Char)} {name path : List Char}

theorem segments_slash (before after : List Char) :
    segments (before ++ '/' :: after) = segments before ++ segments after :=
  Text.split_append_cons before after rfl

theorem segments_plain (plain : '/' ∉ name) : segments name = [name] := by
  apply Text.split_of_none
  intro c member
  apply beq_eq_false_iff_ne.mpr
  rintro rfl
  exact plain member

theorem segments_join (directory file : String) :
    segments (directory ++ "/" ++ file).toList =
      segments directory.toList ++ segments file.toList := by
  rw [String.toList_append, String.toList_append, List.append_assoc]
  exact segments_slash directory.toList file.toList

/-! ## Walks -/

theorem isName_ne_parent {segment : List Char} (named : isName segment) : segment ≠ parent :=
  (of_decide_eq_true named).2.2

theorem step_name {segment : List Char} (named : isName segment) :
    step place segment = place ++ [segment] := by
  rw [step, if_neg (isName_ne_parent named), if_pos named]

theorem walk_slash (place : List (List Char)) (before after : List Char) :
    walk place (before ++ '/' :: after) = walk (walk place before) after := by
  rw [walk, segments_slash, List.foldl_append, walk, walk]

theorem resolve_join (directory file : String) :
    resolve (directory ++ "/" ++ file) = walk (resolve directory) file.toList := by
  rw [resolve, String.toList_append, String.toList_append, List.append_assoc]
  exact walk_slash [] directory.toList file.toList

theorem foldl_step_of_no_parent {steps : List (List Char)} (onward : parent ∉ steps) :
    steps.foldl step place = place ++ steps.filter isName := by
  induction steps generalizing place with
  | nil => simp
  | cons segment steps ih =>
    rw [List.mem_cons, not_or] at onward
    rw [List.foldl_cons, ih onward.2]
    by_cases named : isName segment
    · simp [step_name named, named]
    · have other : segment ≠ parent := Ne.symm onward.1
      simp [step, other, named]

theorem walk_of_no_parent (onward : parent ∉ segments path) :
    walk place path = place ++ (segments path).filter isName :=
  foldl_step_of_no_parent onward

theorem filter_isName_segments (path : List Char) :
    (segments path).filter isName = (Text.words isSlash path).filter isName := by
  rw [Text.words, List.filter_filter]
  apply List.filter_congr
  intro segment _
  by_cases named : isName segment
  · have written : segment ≠ [] := (of_decide_eq_true named).1
    simp [named, written]
  · simp [named]

/-- Slashes around a path make no difference to its names. -/
theorem filter_isName_trim (path : List Char) :
    (segments (Text.trimBy isSlash path)).filter isName = (segments path).filter isName := by
  rw [filter_isName_segments, Text.words_trimBy, ← filter_isName_segments]

theorem parent_mem_of_trim (member : parent ∈ segments (Text.trimBy isSlash path)) :
    parent ∈ segments path := by
  have written : parent ∈ Text.words isSlash (Text.trimBy isSlash path) :=
    List.mem_filter.mpr ⟨member, rfl⟩
  rw [Text.words_trimBy] at written
  exact List.mem_of_mem_filter written

end Layout

/-! ## Names of objects -/

namespace VolumeName

open Layout (isName parent segments)

variable {source : List Char}

theorem IsObjectName.plain (named : IsObjectName source) : '/' ∉ source := by
  intro member
  exact absurd (named.chars _ member) (by decide)

/-- The name of an object is neither a parent nor a dot. -/
theorem IsObjectName.isName (named : IsObjectName source) : isName source := by
  have other (c : Char) (cs : List Char) (outside : ¬isNameEnd c) : source ≠ c :: cs := by
    rintro rfl
    exact outside (named.first c rfl)
  exact decide_eq_true ⟨named.some_char, other '.' [] (by decide), other '.' ['.'] (by decide)⟩

end VolumeName

end Recovery
