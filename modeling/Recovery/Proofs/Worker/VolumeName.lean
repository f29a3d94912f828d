import Recovery.Worker.VolumeName
/-!
# When volume names meet

Among the names that are kept as they are no two sources share one, and among those that end in a
digest only sources with the same digest do. The two kinds do meet: a source may be spelled as the
other's name is, digest and all, and is then kept.
-/
set_option autoImplicit false

namespace Recovery

namespace VolumeName

/-! ## Names of objects -/

def isNameEnd (c : Char) : Bool := c.isLower || c.isDigit

/-- Lower-case letters, digits, hyphens and dots, a letter or a digit at both ends. -/
structure IsObjectName (source : List Char) : Prop where
  chars : ∀ c ∈ source, isNameEnd c || isHyphen c || c == '.'
  some_char : source ≠ []
  first : ∀ c ∈ source.head?, isNameEnd c
  last : ∀ c ∈ source.getLast?, isNameEnd c

instance (source : List Char) : Decidable (IsObjectName source) :=
  decidable_of_iff (source.all (fun c => isNameEnd c || isHyphen c || c == '.') ∧ source ≠ [] ∧
      source.head?.all isNameEnd ∧ source.getLast?.all isNameEnd) <| by
    rw [List.all_eq_true, Option.all_eq_true, Option.all_eq_true]
    exact ⟨fun ⟨chars, some_char, first, last⟩ => ⟨chars, some_char, first, last⟩,
      fun ⟨chars, some_char, first, last⟩ => ⟨chars, some_char, first, last⟩⟩

theorem not_isHyphen_of_isNameEnd {c : Char} (nameEnd : isNameEnd c) : isHyphen c = false := by
  apply beq_eq_false_iff_ne.mpr
  rintro rfl
  exact absurd nameEnd (by decide)

/-- The name of an object has no hyphens to trim. -/
theorem IsObjectName.trimBy_eq {source : List Char} (named : IsObjectName source) :
    Text.trimBy isHyphen source = source :=
  Text.trimBy_eq_self
    (fun c first => not_isHyphen_of_isNameEnd (named.first c first))
    (fun c last => not_isHyphen_of_isNameEnd (named.last c last))

/-! ## Digests -/

/-- The bytes that tell a source from others. -/
def fingerprint (source : String) : List UInt8 :=
  (Digest.sha256 source.toUTF8.toList).take digestBytes

theorem length_bigEndian (bytes n : Nat) : (Digest.bigEndian bytes n).length = bytes := by
  induction bytes generalizing n with
  | zero => rfl
  | succ bytes ih => rw [Digest.bigEndian, List.length_append, ih, List.length_singleton]

theorem length_fingerprint (source : String) : (fingerprint source).length = digestBytes := by
  have words (s : Digest.State) : s.bytes.length = 32 := by
    simp [Digest.State.bytes, length_bigEndian]
  rw [fingerprint, List.length_take, Digest.sha256, words]
  rfl

theorem digitChar_inj : ∀ m < 16, ∀ n < 16, m.digitChar = n.digitChar → m = n := by decide

theorem hex_inj {a b : UInt8} (same : Digest.hex a = Digest.hex b) : a = b := by
  obtain ⟨high, low⟩ := List.cons_eq_cons.mp same
  have below (c : UInt8) : c.toNat / 16 < 16 ∧ c.toNat % 16 < 16 := by
    have := c.toNat_lt
    omega
  have highs := digitChar_inj _ (below a).1 _ (below b).1 high
  have lows := digitChar_inj _ (below a).2 _ (below b).2 (List.cons_eq_cons.mp low).1
  apply UInt8.toNat_inj.mp
  omega

theorem flatMap_hex_inj {as bs : List UInt8}
    (same : as.flatMap Digest.hex = bs.flatMap Digest.hex) : as = bs := by
  induction as generalizing bs with
  | nil =>
    cases bs with
    | nil => rfl
    | cons b bs => exact absurd same (List.cons_ne_nil _ _).symm
  | cons a as ih =>
    cases bs with
    | nil => exact absurd same (List.cons_ne_nil _ _)
    | cons b bs =>
      rw [List.flatMap_cons, List.flatMap_cons] at same
      obtain ⟨bytes, rest⟩ := List.append_inj same rfl
      rw [hex_inj bytes, ih rest]

theorem digest_inj {source other : String} (same : digest source = digest other) :
    fingerprint source = fingerprint other :=
  flatMap_hex_inj same

theorem length_digest (source : String) : (digest source).length = 2 * digestBytes := by
  have pairs (bs : List UInt8) : (bs.flatMap Digest.hex).length = 2 * bs.length := by
    simp [List.length_flatMap, Digest.hex, List.map_const', Nat.mul_comm]
  rw [digest, pairs]
  exact congrArg (2 * ·) (length_fingerprint source)

theorem isNameEnd_of_mem_digest {source : String} {c : Char} (member : c ∈ digest source) :
    isNameEnd c := by
  have digits : ∀ n < 16, isNameEnd n.digitChar := by decide
  obtain ⟨b, -, spelled⟩ := List.mem_flatMap.mp member
  have small := b.toNat_lt
  simp only [Digest.hex, List.mem_cons, List.not_mem_nil, or_false] at spelled
  obtain rfl | rfl := spelled
  · exact digits _ (by omega)
  · exact digits _ (by omega)

theorem not_isHyphen_of_mem_digest {source : String} {c : Char} (member : c ∈ digest source) :
    c ≠ '-' := by
  rintro rfl
  exact absurd (isNameEnd_of_mem_digest member) (by decide)

/-! ## The two kinds of names -/

variable {stem source other : String}

/-- The source is short and spelled as a label already. -/
def Keeps (stem source : String) : Prop :=
  byteLength (plain stem.toList source.toList) ≤ maxLength ∧ label source.toList = source.toList

instance (stem source : String) : Decidable (Keeps stem source) :=
  inferInstanceAs (Decidable (_ ∧ _))

theorem Keeps.toList_volumeName (keeps : Keeps stem source) :
    (volumeName stem source).toList = plain stem.toList source.toList := by
  rw [volumeName]
  exact (congrArg String.toList (if_pos keeps)).trans String.toList_ofList

theorem toList_volumeName (cut : ¬Keeps stem source) : (volumeName stem source).toList =
    digested (plain stem.toList source.toList) (digest source) := by
  rw [volumeName]
  exact (congrArg String.toList (if_neg cut)).trans String.toList_ofList

theorem Keeps.plain_eq (keeps : Keeps stem source) (named : IsObjectName source.toList) :
    plain stem.toList source.toList = stem.toList ++ '-' :: source.toList := by
  rw [plain, keeps.2, named.trimBy_eq]

theorem Keeps.volumeName_inj (keeps : Keeps stem source) (keeps' : Keeps stem other)
    (named : IsObjectName source.toList) (named' : IsObjectName other.toList)
    (same : volumeName stem source = volumeName stem other) : source = other := by
  have spelled := congrArg String.toList same
  rw [keeps.toList_volumeName, keeps'.toList_volumeName, keeps.plain_eq named,
    keeps'.plain_eq named'] at spelled
  exact String.toList_inj.mp (List.cons_eq_cons.mp (List.append_cancel_left spelled)).2

theorem digested_inj {name name' : List Char}
    (same : digested name (digest source) = digested name' (digest other)) :
    digest source = digest other := by
  have lengths : ('-' :: digest source).length = ('-' :: digest other).length := by
    rw [List.length_cons, List.length_cons, length_digest, length_digest]
  exact (List.cons_eq_cons.mp (List.append_inj' same lengths).2).2

/-- A source that is kept, and spelled so that it takes the name that another one gets with its
digest. -/
structure Imitates (stem source other : String) : Prop where
  keeps : Keeps stem source
  cut : ¬Keeps stem other
  spelled : plain stem.toList source.toList =
    digested (plain stem.toList other.toList) (digest other)

theorem Imitates.volumeName_eq (imitates : Imitates stem source other) :
    volumeName stem source = volumeName stem other := by
  apply String.toList_inj.mp
  rw [imitates.keeps.toList_volumeName, toList_volumeName imitates.cut, imitates.spelled]

/-- Only a source that ends in the digest of another can be mistaken for it. -/
theorem Imitates.digest_suffix (imitates : Imitates stem source other)
    (named : IsObjectName source.toList) : digest other <:+ source.toList := by
  have ends : digest other <:+ stem.toList ++ '-' :: source.toList := by
    rw [← imitates.keeps.plain_eq named, imitates.spelled, digested]
    exact (List.suffix_cons '-' _).trans (List.suffix_append _ _)
  have hyphen : ¬ '-' :: source.toList <:+ digest other := fun suffix =>
    not_isHyphen_of_mem_digest (suffix.subset List.mem_cons_self) rfl
  obtain inside | inside := List.suffix_or_suffix_of_suffix ends (List.suffix_append _ _)
  · obtain whole | within := List.suffix_cons_iff.mp inside
    · exact absurd (whole ▸ List.suffix_refl _) hyphen
    · exact within
  · exact absurd inside hyphen

theorem volumeName_eq_iff (stem : String) (named : IsObjectName source.toList)
    (named' : IsObjectName other.toList) (differ : fingerprint source ≠ fingerprint other) :
    volumeName stem source = volumeName stem other ↔
      Imitates stem source other ∨ Imitates stem other source := by
  constructor
  · intro same
    have spelled := congrArg String.toList same
    by_cases keeps : Keeps stem source <;> by_cases keeps' : Keeps stem other
    · have sources := keeps.volumeName_inj keeps' named named' same
      exact absurd (congrArg fingerprint sources) differ
    · rw [keeps.toList_volumeName, toList_volumeName keeps'] at spelled
      exact .inl ⟨keeps, keeps', spelled⟩
    · rw [toList_volumeName keeps, keeps'.toList_volumeName] at spelled
      exact .inr ⟨keeps', keeps, spelled.symm⟩
    · rw [toList_volumeName keeps, toList_volumeName keeps'] at spelled
      exact absurd (digest_inj (digested_inj spelled)) differ
  · rintro (imitates | imitates)
    · exact imitates.volumeName_eq
    · exact imitates.volumeName_eq.symm

/-- Different sources whose digests differ have different names, unless one of them is spelled as
the name that the other gets. So they do if neither ends in the digest of the other. -/
theorem volumeName_eq_iff_imitates (stem : String) (named : IsObjectName source.toList)
    (named' : IsObjectName other.toList) (differ : fingerprint source ≠ fingerprint other) :
    (volumeName stem source = volumeName stem other ↔
      Imitates stem source other ∨ Imitates stem other source) ∧
    (¬digest other <:+ source.toList → ¬digest source <:+ other.toList →
      volumeName stem source ≠ volumeName stem other) := by
  have meet_iff := volumeName_eq_iff stem named named' differ
  refine ⟨meet_iff, fun unlike unlike' same => ?_⟩
  obtain imitates | imitates := meet_iff.mp same
  · exact unlike (imitates.digest_suffix named)
  · exact unlike' (imitates.digest_suffix named')

/-- A claim with a dot and the claim that has a hyphen in its place. -/
theorem volumeName_dotted_ne_hyphened :
    IsObjectName "data.v1".toList ∧ IsObjectName "data-v1".toList ∧
      fingerprint "data.v1" ≠ fingerprint "data-v1" ∧
      volumeName "src" "data.v1" ≠ volumeName "src" "data-v1" := by
  have named : IsObjectName "data.v1".toList := by decide
  have named' : IsObjectName "data-v1".toList := by decide
  have differ : fingerprint "data.v1" ≠ fingerprint "data-v1" := by decide +kernel
  have unlike : ¬digest "data-v1" <:+ "data.v1".toList := by decide +kernel
  have unlike' : ¬digest "data.v1" <:+ "data-v1".toList := by decide +kernel
  exact ⟨named, named', differ,
    (volumeName_eq_iff_imitates "src" named named' differ).2 unlike unlike'⟩

/-- The second claim is called what the first one is rewritten to. -/
theorem volumeName_not_distinct : ¬∀ stem source other : String,
    IsObjectName source.toList → IsObjectName other.toList → source ≠ other →
      fingerprint source ≠ fingerprint other →
      volumeName stem source ≠ volumeName stem other := by
  intro distinct
  have same : volumeName "src" "data.v1" = volumeName "src" "data-v1-4c610ff1" := by
    decide +kernel
  have named : IsObjectName "data.v1".toList := by decide
  have named' : IsObjectName "data-v1-4c610ff1".toList := by decide
  have differ : fingerprint "data.v1" ≠ fingerprint "data-v1-4c610ff1" := by decide +kernel
  exact distinct _ _ _ named named' (by decide) differ same

end VolumeName

end Recovery
