import Recovery.Proofs.Text.Digits
import Recovery.Proofs.Text.Trim
import Recovery.Proofs.Worker.VolumeName
/-!
# Volume names are labels

Whatever a claim or a secret is called, the name of its volume is a DNS label, so that the pod is
not turned away for it. The stem has to be a label, and the source needs one letter or digit. All
that such a name is put together from takes one byte a character, so it can be cut anywhere.
-/
set_option autoImplicit false

namespace Recovery

namespace VolumeName

/-! ## Labels -/

def isLabelChar (c : Char) : Bool := isNameEnd c || isHyphen c

/-- At most 63 lower-case letters, digits and hyphens, a letter or a digit at both ends. -/
structure IsLabel (name : List Char) : Prop where
  chars : ∀ c ∈ name, isLabelChar c
  some_char : 1 ≤ name.length
  fits : name.length ≤ maxLength
  first : ∀ c ∈ name.head?, isNameEnd c
  last : ∀ c ∈ name.getLast?, isNameEnd c

instance (name : List Char) : Decidable (IsLabel name) :=
  decidable_of_iff (name.all isLabelChar ∧ 1 ≤ name.length ∧ name.length ≤ maxLength ∧
      name.head?.all isNameEnd ∧ name.getLast?.all isNameEnd) <| by
    rw [List.all_eq_true, Option.all_eq_true, Option.all_eq_true]
    exact ⟨fun ⟨chars, some_char, fits, first, last⟩ => ⟨chars, some_char, fits, first, last⟩,
      fun ⟨chars, some_char, fits, first, last⟩ => ⟨chars, some_char, fits, first, last⟩⟩

theorem isLabelChar_of_isNameEnd {c : Char} (nameEnd : isNameEnd c) : isLabelChar c :=
  Bool.or_eq_true_iff.mpr (.inl nameEnd)

theorem isNameEnd_of_isLabelChar {c : Char} (labelled : isLabelChar c)
    (visible : isHyphen c = false) : isNameEnd c := by
  rwa [isLabelChar, visible, Bool.or_false] at labelled

theorem isLower_toLower_of_isUpper {c : Char} (capital : c.isUpper) : c.toLower.isLower := by
  have upper : c.val ≥ 'A'.val ∧ c.val ≤ 'Z'.val := of_decide_eq_true capital
  have low : 65 ≤ c.val.toNat := upper.1
  have high : c.val.toNat ≤ 90 := upper.2
  have between : ('a'.val - 'A'.val).toNat = 32 := rfl
  have changed : c.toLower.val = c.val + ('a'.val - 'A'.val) := congrArg Char.val (dif_pos upper)
  have lowered : c.toLower.val.toNat = c.val.toNat + 32 := by
    rw [changed]
    exact (UInt32.toNat_add _ _).trans (Nat.mod_eq_of_lt (by omega))
  have small : 97 ≤ c.toLower.val.toNat ∧ c.toLower.val.toNat ≤ 122 := by omega
  exact Bool.and_eq_true_iff.mpr ⟨decide_eq_true small.1, decide_eq_true small.2⟩

theorem isNameEnd_toLower {c : Char} (alphanumeric : c.isAlphanum) : isNameEnd c.toLower := by
  by_cases capital : c.isUpper
  · exact Bool.or_eq_true_iff.mpr (.inl (isLower_toLower_of_isUpper capital))
  · have unchanged : c.toLower = c := dif_neg fun upper => capital (decide_eq_true upper)
    rw [unchanged]
    obtain letter | digit := Bool.or_eq_true_iff.mp alphanumeric
    · have lower := (Bool.or_eq_true_iff.mp letter).resolve_left capital
      exact Bool.or_eq_true_iff.mpr (.inl lower)
    · exact Bool.or_eq_true_iff.mpr (.inr digit)

theorem isLabelChar_labelChar (c : Char) : isLabelChar (labelChar c) := by
  rw [labelChar]
  split
  case isTrue alphanumeric => exact isLabelChar_of_isNameEnd (isNameEnd_toLower alphanumeric)
  case isFalse => rfl

/-- Every character of a label takes one byte. -/
theorem utf8Size_of_isLabelChar {c : Char} (labelled : isLabelChar c) : c.utf8Size = 1 := by
  have ascii : c.toNat ≤ 127 := by
    obtain nameEnd | hyphen := Bool.or_eq_true_iff.mp labelled
    · obtain lower | digit := Bool.or_eq_true_iff.mp nameEnd
      · have high : c.toNat ≤ 122 := of_decide_eq_true (Bool.and_eq_true_iff.mp lower).2
        omega
      · have high : c.toNat ≤ 57 := (Text.digit_bounds digit).2
        omega
    · rw [eq_of_beq hyphen]
      decide
  exact Char.utf8Size_eq_one_iff.mpr ascii

/-! ## Slices -/

theorem utf8ByteSize_ofList (cs : List Char) : (String.ofList cs).utf8ByteSize = byteLength cs := by
  induction cs with
  | nil => rfl
  | cons c cs ih =>
    rw [String.ofList_cons, String.utf8ByteSize_append, String.utf8ByteSize_singleton, ih]
    rfl

section OneByte

variable {cs : List Char}

theorem byteLength_eq_length (one_byte : ∀ c ∈ cs, c.utf8Size = 1) : byteLength cs = cs.length := by
  induction cs with
  | nil => rfl
  | cons c cs ih =>
    have rest := ih fun d member => one_byte d (List.mem_cons_of_mem c member)
    rw [byteLength] at rest
    rw [byteLength, List.foldr_cons, rest, one_byte c List.mem_cons_self, List.length_cons,
      Nat.add_comm]

theorem takeBytes_eq_take (one_byte : ∀ c ∈ cs, c.utf8Size = 1) (room : Nat) :
    takeBytes room cs = cs.take room := by
  induction cs generalizing room with
  | nil => rw [takeBytes, List.take_nil]
  | cons c cs ih =>
    have rest := ih fun d member => one_byte d (List.mem_cons_of_mem c member)
    rw [takeBytes, one_byte c List.mem_cons_self]
    cases room with
    | zero => rfl
    | succ room =>
      rw [if_pos (Nat.le_add_left 1 room), Nat.add_sub_cancel, rest, List.take_succ_cons]

theorem isValid_of_one_byte (one_byte : ∀ c ∈ cs, c.utf8Size = 1) {offset : Nat}
    (inside : offset ≤ cs.length) :
    String.Pos.Raw.IsValid (String.ofList cs) ⟨offset⟩ := by
  have front := fun c member => one_byte c (List.mem_of_mem_take (i := offset) member)
  have size : byteLength (cs.take offset) = offset := by
    rw [byteLength_eq_length front, List.length_take_of_le inside]
  refine String.Pos.Raw.isValid_iff_exists_append.mpr
    ⟨String.ofList (cs.take offset), String.ofList (cs.drop offset), ?_, ?_⟩
  · rw [← String.ofList_append, List.take_append_drop]
  · rw [String.rawEndPos, utf8ByteSize_ofList, size]

end OneByte

variable {stem source : String}

/-- How many bytes of a name are kept in front of its digest. -/
def cutOffset (stem source : String) : Nat :=
  min (byteLength (plain stem.toList source.toList)) (maxLength - (digest source).length - 1)

/-- What a name is made with is sliced within its bounds, and the name itself between two of its
characters. -/
structure SlicesFit (stem source : String) : Prop where
  fingerprint : digestBytes ≤ (Digest.sha256 source.toUTF8.toList).length
  room : (digest source).length + 1 ≤ maxLength
  boundary : String.Pos.Raw.IsValid (String.ofList (plain stem.toList source.toList))
    ⟨cutOffset stem source⟩
  front : takeBytes (maxLength - (digest source).length - 1) (plain stem.toList source.toList) <+:
    plain stem.toList source.toList
  front_size : byteLength (takeBytes (maxLength - (digest source).length - 1)
    (plain stem.toList source.toList)) = cutOffset stem source

/-! ## What names are made of -/

theorem isLabelChar_of_mem_label {c : Char} {source : List Char} (member : c ∈ label source) :
    isLabelChar c := by
  obtain ⟨d, -, rfl⟩ := List.mem_map.mp member
  exact isLabelChar_labelChar d

theorem label_visible {source : List Char} (visible : ∃ c ∈ source, c.isAlphanum) :
    ∃ c ∈ label source, isHyphen c = false := by
  obtain ⟨c, member, alphanumeric⟩ := visible
  refine ⟨labelChar c, List.mem_map_of_mem member, ?_⟩
  rw [labelChar, if_pos alphanumeric]
  exact not_isHyphen_of_isNameEnd (isNameEnd_toLower alphanumeric)

section Plain

variable {stem source : List Char}

theorem plain_chars (labelled : IsLabel stem) : ∀ c ∈ plain stem source, isLabelChar c := by
  intro c member
  rw [plain, List.mem_append, List.mem_cons] at member
  obtain inStem | rfl | inSource := member
  · exact labelled.chars c inStem
  · rfl
  · exact isLabelChar_of_mem_label (Text.trimBy_subset isHyphen _ inSource)

theorem head?_plain (labelled : IsLabel stem) : (plain stem source).head? = stem.head? :=
  List.head?_append_of_ne_nil _ (List.ne_nil_of_length_pos labelled.some_char)

/-- A name that does not get a digest ends where its source does. -/
theorem getLast?_plain (visible : ∃ c ∈ source, c.isAlphanum) :
    ∀ c ∈ (plain stem source).getLast?, isNameEnd c := by
  intro c last
  have ends := List.getLast?_append_of_ne_nil stem
    (List.cons_ne_nil '-' (Text.trimBy isHyphen (label source)))
  obtain ⟨first, rest, trimmed⟩ :=
    List.exists_cons_of_ne_nil (Text.trimBy_ne_nil (label_visible visible))
  rw [plain, ends, trimmed, List.getLast?_cons_cons, ← trimmed] at last
  have member := Text.trimBy_subset isHyphen _ (List.mem_of_mem_getLast? last)
  exact isNameEnd_of_isLabelChar (isLabelChar_of_mem_label member)
    (Text.getLast?_trimEndBy c last)

end Plain

section Digested

variable {name hash : List Char} {room : Nat}

theorem kept_isPrefix (chars : ∀ c ∈ name, isLabelChar c) (room : Nat) :
    dropHyphensRight (takeBytes room name) <+: name.take room := by
  rw [takeBytes_eq_take fun c member => utf8Size_of_isLabelChar (chars c member)]
  exact Text.trimEndBy_isPrefix isHyphen _

/-- Hyphens are taken off the end of what is kept, but its first character is none. -/
theorem kept_ne_nil (chars : ∀ c ∈ name, isLabelChar c) (some_char : name ≠ [])
    (first : ∀ c ∈ name.head?, isNameEnd c) (some_room : 1 ≤ room) :
    dropHyphensRight (takeBytes room name) ≠ [] := by
  rw [takeBytes_eq_take fun c member => utf8Size_of_isLabelChar (chars c member)]
  obtain ⟨start, rest, rfl⟩ := List.exists_cons_of_ne_nil some_char
  obtain ⟨room, rfl⟩ := Nat.exists_eq_add_of_le' some_room
  have visible := not_isHyphen_of_isNameEnd (first start rfl)
  rw [List.take_succ_cons]
  exact Text.trimEndBy_ne_nil ⟨start, List.mem_cons_self, visible⟩

theorem isLabel_digested (chars : ∀ c ∈ name, isLabelChar c) (some_char : name ≠ [])
    (first : ∀ c ∈ name.head?, isNameEnd c) (hash_chars : ∀ c ∈ hash, isNameEnd c)
    (some_hash : hash ≠ []) (some_room : hash.length + 1 < maxLength) :
    IsLabel (digested name hash) := by
  -- what is kept starts as the name does and leaves room for a hyphen and the digest
  have kept_isPrefix := kept_isPrefix chars (maxLength - hash.length - 1)
  have kept_ne_nil : dropHyphensRight (takeBytes (maxLength - hash.length - 1) name) ≠ [] :=
    kept_ne_nil chars some_char first (by omega)
  rw [digested]
  generalize dropHyphensRight (takeBytes (maxLength - hash.length - 1) name) = kept
    at kept_isPrefix kept_ne_nil
  refine ⟨?chars, ?some_char, ?fits, ?first, ?last⟩
  case chars =>
    intro c member
    rw [List.mem_append, List.mem_cons] at member
    obtain inFront | rfl | inHash := member
    · exact chars c (List.mem_of_mem_take (kept_isPrefix.subset inFront))
    · rfl
    · exact isLabelChar_of_isNameEnd (hash_chars c inHash)
  case some_char =>
    rw [List.length_append, List.length_cons]
    omega
  case fits =>
    have kept_length := kept_isPrefix.length_le.trans (List.length_take_le _ name)
    rw [List.length_append, List.length_cons]
    omega
  case first =>
    obtain ⟨rest, whole⟩ := kept_isPrefix.trans (List.take_prefix _ name)
    intro c start
    rw [List.head?_append_of_ne_nil _ kept_ne_nil] at start
    apply first c
    rwa [← whole, List.head?_append_of_ne_nil _ kept_ne_nil]
  case last =>
    obtain ⟨digit, digits, rfl⟩ := List.exists_cons_of_ne_nil some_hash
    intro c last
    rw [List.getLast?_append_of_ne_nil _ (List.cons_ne_nil _ _), List.getLast?_cons_cons] at last
    exact hash_chars c (List.mem_of_mem_getLast? last)

end Digested

theorem slicesFit (labelled : IsLabel stem.toList) : SlicesFit stem source := by
  have one_byte : ∀ c ∈ plain stem.toList source.toList, c.utf8Size = 1 :=
    fun c member => utf8Size_of_isLabelChar (plain_chars labelled c member)
  have size := byteLength_eq_length one_byte
  refine ⟨?fingerprint, ?room, ?boundary, ?front, ?front_size⟩
  case fingerprint =>
    have taken := length_fingerprint source
    rw [fingerprint, List.length_take] at taken
    omega
  case room =>
    rw [length_digest]
    decide
  case boundary =>
    apply isValid_of_one_byte one_byte
    rw [cutOffset, size]
    exact Nat.min_le_left _ _
  case front =>
    rw [takeBytes_eq_take one_byte]
    exact List.take_prefix _ _
  case front_size =>
    rw [takeBytes_eq_take one_byte, cutOffset, size, Nat.min_comm, ← List.length_take]
    exact byteLength_eq_length fun c member => one_byte c (List.mem_of_mem_take member)

theorem isLabel_plain {stem source : List Char} (labelled : IsLabel stem)
    (visible : ∃ c ∈ source, c.isAlphanum) (fits : (plain stem source).length ≤ maxLength) :
    IsLabel (plain stem source) where
  chars := plain_chars labelled
  some_char := by
    rw [plain, List.length_append, List.length_cons]
    omega
  fits := fits
  first := by
    rw [head?_plain labelled]
    exact labelled.first
  last := getLast?_plain visible

/-- The name of a volume is a label, however long its source is and whatever is in it, if there is
a letter or a digit in it at all. -/
theorem volumeName_isLabel (labelled : IsLabel stem.toList)
    (visible : ∃ c ∈ source.toList, c.isAlphanum) :
    IsLabel (volumeName stem source).toList ∧ SlicesFit stem source := by
  refine ⟨?_, slicesFit labelled⟩
  have chars : ∀ c ∈ plain stem.toList source.toList, isLabelChar c := plain_chars labelled
  by_cases keeps : Keeps stem source
  · rw [keeps.toList_volumeName]
    apply isLabel_plain labelled visible
    rw [← byteLength_eq_length fun c member => utf8Size_of_isLabelChar (chars c member)]
    exact keeps.1
  · rw [toList_volumeName keeps]
    have hash_length := length_digest source
    apply isLabel_digested chars
    case some_char => exact List.append_ne_nil_of_right_ne_nil _ (List.cons_ne_nil _ _)
    case first =>
      rw [head?_plain labelled]
      exact labelled.first
    case hash_chars => exact fun c => isNameEnd_of_mem_digest
    case some_hash =>
      apply List.ne_nil_of_length_pos
      rw [hash_length]
      decide
    case some_room =>
      rw [hash_length]
      decide

/-- All hyphens but for its ends. -/
def hyphenStem : String := String.ofList ('a' :: List.replicate 60 '-' ++ ['b'])

/-- The name is cut among the hyphens of its stem, and of the source only the digit counts. -/
theorem volumeName_isLabel_hyphenStem :
    IsLabel hyphenStem.toList ∧ (∃ c ∈ "…É9".toList, c.isAlphanum) ∧
      (volumeName hyphenStem "…É9").toList = "a-ba1cf7f9".toList ∧
      IsLabel (volumeName hyphenStem "…É9").toList ∧ SlicesFit hyphenStem "…É9" := by
  have spelled : hyphenStem.toList = 'a' :: List.replicate 60 '-' ++ ['b'] := String.toList_ofList
  have labelled : IsLabel hyphenStem.toList := by
    rw [spelled]
    decide
  have visible : ∃ c ∈ "…É9".toList, c.isAlphanum := ⟨'9', by decide, rfl⟩
  have cut : ¬Keeps hyphenStem "…É9" := fun keeps => absurd keeps.2 (by decide)
  have named : (volumeName hyphenStem "…É9").toList = "a-ba1cf7f9".toList := by
    rw [toList_volumeName cut, spelled]
    decide +kernel
  exact ⟨labelled, visible, named, volumeName_isLabel labelled visible⟩

end VolumeName

end Recovery
