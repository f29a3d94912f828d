import Mathlib.Algebra.Group.Nat.Defs
import Recovery.Rpc.Wire
/-!
# The format of fields

The bytes that stand for a field, said without the reader: numbers may have more groups than they
need, and groups of fields stand within each other up to some depth. Fields are written in this
format, and what has the format is read as the field that it stands for.
-/
set_option autoImplicit false

namespace Recovery

namespace Rpc

namespace Wire

/-! ## Numbers -/

/-- A number in groups of seven bits, the lowest first; 128 is added to all but the last. -/
inductive Groups : Nat → Bytes → Prop where
  | last {b : UInt8} : b.toNat < 128 → Groups b.toNat [b]
  | more {b : UInt8} {n : Nat} {bs : Bytes} : 128 ≤ b.toNat → Groups n bs →
    Groups (b.toNat - 128 + 128 * n) (b :: bs)

/-- A number of 64 bits in at most ten groups. -/
structure Varint (n : Nat) (bs : Bytes) : Prop where
  groups : Groups n bs
  length : bs.length ≤ 10
  bound : n < 2 ^ 64

theorem Groups.ne_nil {n : Nat} {bs : Bytes} (h : Groups n bs) : bs ≠ [] := by
  cases h <;> simp

/-- The last of the groups that there is room for may only be one bit. -/
theorem Groups.read {n : Nat} {bs : Bytes} (h : Groups n bs) (rest : Bytes) (room : Nat)
    (fits : bs.length ≤ room + 1) (bound : n < 2 * 128 ^ room) :
    readGroups? (room + 1) (bs ++ rest) = some (n, rest) := by
  induction h generalizing room with
  | @last b low =>
    have below : b < 128 := UInt8.lt_iff_toNat_lt.mpr low
    have small : ¬ (room = 0 ∧ 2 ≤ b) := by
      rintro ⟨rfl, two⟩
      have := UInt8.le_iff_toNat_le.mp two
      simp at this bound
      omega
    simp [readGroups?, below, small]
  | @more b n bs high groups ih =>
    have above : ¬ b < 128 := by
      rw [UInt8.lt_iff_toNat_lt]
      exact Nat.not_lt.mpr high
    have several := List.length_pos_iff.mpr groups.ne_nil
    cases room with
    | zero =>
      simp only [List.length_cons] at fits
      omega
    | succ room =>
      have inner : n < 2 * 128 ^ room := by
        rw [Nat.pow_succ] at bound
        omega
      rw [List.cons_append, readGroups?, if_neg above, ih room (by simpa using fits) inner]
      rfl

theorem Varint.read {n : Nat} {bs : Bytes} (h : Varint n bs) (rest : Bytes) :
    readVarint? (bs ++ rest) = some (n, rest) :=
  h.groups.read rest 9 h.length h.bound

theorem toNat_toUInt8 {n : Nat} (h : n < 256) : n.toUInt8.toNat = n := by
  simp [Nat.mod_eq_of_lt h]

theorem groups_varint (n : Nat) : Groups n (varint n) := by
  induction n using Nat.strongRecOn with
  | ind n ih =>
    rw [varint]
    by_cases low : n < 128
    · have last := Groups.last (b := n.toUInt8) (by rwa [toNat_toUInt8 (by omega)])
      rw [toNat_toUInt8 (by omega)] at last
      rwa [if_pos low]
    · have first := toNat_toUInt8 (show n % 128 + 128 < 256 by omega)
      have more := Groups.more (b := (n % 128 + 128).toUInt8) (by omega) (ih (n / 128) (by omega))
      rw [first, Nat.add_sub_cancel, Nat.mod_add_div] at more
      rwa [if_neg low]

theorem length_varint_le {n room : Nat} (h : n < 128 ^ (room + 1)) :
    (varint n).length ≤ room + 1 := by
  induction room generalizing n with
  | zero =>
    have low : n < 128 := by simpa using h
    rw [varint, if_pos low]
    simp
  | succ room ih =>
    rw [varint]
    split
    · simp
    · have lower : n / 128 < 128 ^ (room + 1) := by
        rw [Nat.pow_succ] at h
        omega
      simpa using ih lower

theorem varint_varint {n : Nat} (h : n < 2 ^ 64) : Varint n (varint n) where
  groups := groups_varint n
  length := length_varint_le (Nat.lt_of_lt_of_le h (by decide))
  bound := h

/-! ## Keys -/

/-- The number of a field with the kind of its value. -/
structure Key (number kind : Nat) (bs : Bytes) : Prop where
  varint : Varint (number * 8 + kind) bs
  kind : kind < 8
  positive : 1 ≤ number
  bound : number < 2 ^ 29

theorem Key.read {number kind : Nat} {bs : Bytes} (h : Key number kind bs) (rest : Bytes) :
    readKey? (bs ++ rest) = some ((number, kind), rest) := by
  have := h.kind
  have := h.positive
  have := h.bound
  rw [readKey?, h.varint.read, Option.bind_some]
  simp only [Option.ite_none_right_eq_some, Option.some.injEq, Prod.mk.injEq, and_true]
  omega

theorem key_key {number kind : Nat} (low : kind < 8) (positive : 1 ≤ number)
    (bound : number < 2 ^ 29) : Key number kind (key number kind) :=
  ⟨varint_varint (by omega), low, positive, bound⟩

/-! ## Fields -/

/-- The bytes stand for a value of the kind that is no group. -/
inductive Plain : (kind : Nat) → Value → Bytes → Prop where
  | number {n : Nat} {bs : Bytes} : Varint n bs → Plain 0 (.number n) bs
  | wide {content : Bytes} : content.length = 8 → Plain 1 .skipped content
  | bytes {content bs : Bytes} : Varint content.length bs → Plain 2 (.bytes content) (bs ++ content)
  | narrow {content : Bytes} : content.length = 4 → Plain 5 .skipped content

/-- The bytes stand for the field, in which groups are nested less deep than this. -/
inductive Stands : (depth : Nat) → Field → Bytes → Prop where
  | plain {depth number kind : Nat} {value : Value} {k bs : Bytes} : Key number kind k →
    Plain kind value bs → Stands (depth + 1) ⟨number, value⟩ (k ++ bs)
  | group {depth number : Nat} {k k' : Bytes} {inner : List (Field × Bytes)} : Key number 3 k →
    (∀ p ∈ inner, Stands depth p.1 p.2) → Key number 4 k' →
    Stands (depth + 1) ⟨number, .skipped⟩ (k ++ inner.flatMap (·.2) ++ k')

theorem splitBytes?_append {n : Nat} {content : Bytes} (h : content.length = n) (rest : Bytes) :
    splitBytes? n (content ++ rest) = some (content, rest) := by
  subst h
  simp [splitBytes?]

theorem Plain.read {kind : Nat} {value : Value} {bs : Bytes} (h : Plain kind value bs)
    (rest : Bytes) : readPlain? kind (bs ++ rest) = some (value, rest) := by
  cases h with
  | number varint => simp [readPlain?, varint.read]
  | wide length => simp [readPlain?, splitBytes?_append length]
  | bytes varint => simp [readPlain?, varint.read, splitBytes?_append]
  | narrow length => simp [readPlain?, splitBytes?_append length]

theorem Plain.kind {kind : Nat} {value : Value} {bs : Bytes} (h : Plain kind value bs) :
    kind ≠ 3 ∧ kind ≠ 4 := by
  cases h <;> decide

/-! What stands within groups is passed over. -/

section SkipGroups

variable {most number innermost kind : Nat} {outer : List Nat} {bs rest more : Bytes}

/-- What a key says of how to go on within a group. -/
theorem skipGroups?_of_key (h : readKey? bs = some ((number, kind), rest)) :
    skipGroups? most (innermost :: outer) bs =
      if kind = 4 then if number = innermost then skipGroups? most outer rest else none
      else if most ≤ (innermost :: outer).length then none
      else if kind = 3 then skipGroups? most (number :: innermost :: outer) rest
      else (readPlain? kind rest).bind fun p => skipGroups? most (innermost :: outer) p.2 := by
  rw [skipGroups?]
  split
  · simp_all
  · rename_i found
    cases h.symm.trans found
    congr 3
    split <;> simp_all

theorem skipGroups?_close (h : readKey? bs = some ((innermost, 4), rest)) :
    skipGroups? most (innermost :: outer) bs = skipGroups? most outer rest := by
  rw [skipGroups?_of_key h, if_pos rfl, if_pos rfl]

theorem skipGroups?_open (h : readKey? bs = some ((number, 3), rest))
    (room : (innermost :: outer).length < most) :
    skipGroups? most (innermost :: outer) bs =
      skipGroups? most (number :: innermost :: outer) rest := by
  rw [skipGroups?_of_key h, if_neg (by decide), if_neg (Nat.not_le.mpr room), if_pos rfl]

theorem skipGroups?_full (h : readKey? bs = some ((number, 3), rest))
    (full : most ≤ (innermost :: outer).length) :
    skipGroups? most (innermost :: outer) bs = none := by
  rw [skipGroups?_of_key h, if_neg (by decide), if_pos full]

theorem skipGroups?_plain {value : Value} (h : readKey? bs = some ((number, kind), rest))
    (plain : kind ≠ 3 ∧ kind ≠ 4) (read : readPlain? kind rest = some (value, more))
    (room : (innermost :: outer).length < most) :
    skipGroups? most (innermost :: outer) bs = skipGroups? most (innermost :: outer) more := by
  rw [skipGroups?_of_key h, if_neg plain.2, if_neg (Nat.not_le.mpr room), if_neg plain.1, read]
  rfl

/-- What is made of parts that are passed over is passed over. -/
theorem skipGroups?_flatMap {open_ : List Nat} {parts : List (Field × Bytes)}
    (h : ∀ p ∈ parts, ∀ rest, skipGroups? most open_ (p.2 ++ rest) = skipGroups? most open_ rest)
    (rest : Bytes) :
    skipGroups? most open_ (parts.flatMap (·.2) ++ rest) = skipGroups? most open_ rest := by
  induction parts with
  | nil => rfl
  | cons p parts ih =>
    rw [List.flatMap_cons, List.append_assoc, h p (by simp)]
    exact ih fun q mem => h q (by simp [mem])

end SkipGroups

/-- A field is passed over in as many groups as its depth leaves room for. -/
theorem Stands.skip {depth : Nat} {f : Field} {bs : Bytes} (h : Stands depth f bs)
    {most innermost : Nat} {outer : List Nat} (rest : Bytes)
    (room : depth + (innermost :: outer).length ≤ most) :
    skipGroups? most (innermost :: outer) (bs ++ rest) =
      skipGroups? most (innermost :: outer) rest := by
  induction h generalizing innermost outer rest with
  | plain key plain =>
    rw [List.append_assoc]
    exact skipGroups?_plain (key.read _) plain.kind (plain.read rest) (by omega)
  | @group depth number k k' inner key _ key' ih =>
    have deeper : depth + (number :: innermost :: outer).length ≤ most := by
      simp only [List.length_cons] at room ⊢
      omega
    rw [List.append_assoc, List.append_assoc, skipGroups?_open (key.read _) (by omega),
      skipGroups?_flatMap fun p mem rest => ih p mem rest deeper, skipGroups?_close (key'.read _)]

theorem decode?_of_key {depth number kind : Nat} {bs rest : Bytes}
    (h : readKey? bs = some ((number, kind), rest)) :
    decode? depth bs = (readValue? depth number kind rest).bind fun p =>
      (decode? depth p.2).map (⟨number, p.1⟩ :: ·) := by
  have nonempty : bs.isEmpty = false := by
    cases bs with
    | nil => cases h
    | cons b bs => rfl
  rw [decode?]
  simp only [nonempty, Bool.false_eq_true, if_false]
  split
  · simp_all
  · rename_i found
    cases h.symm.trans found
    split <;> simp_all

/-- What has the format is read as the field that it stands for. -/
theorem Stands.decode? {depth : Nat} {f : Field} {bs : Bytes} (h : Stands depth f bs)
    (rest : Bytes) : decode? depth (bs ++ rest) = (decode? depth rest).map (f :: ·) := by
  cases h with
  | plain key plain =>
    rw [List.append_assoc, decode?_of_key (key.read _), readValue?, if_neg plain.kind.1,
      plain.read]
    rfl
  | @group depth number k k' inner key within key' =>
    rw [List.append_assoc, List.append_assoc, decode?_of_key (key.read _), readValue?, if_pos rfl,
      skipGroups?_flatMap fun p mem rest => (within p mem).skip rest (by simp),
      skipGroups?_close (key'.read _), skipGroups?]
    rfl

/-- Fields that stand one after another are read in their order. -/
theorem decode?_flatMap {depth : Nat} {parts : List (Field × Bytes)}
    (h : ∀ p ∈ parts, Stands depth p.1 p.2) (rest : Bytes) :
    decode? depth (parts.flatMap (·.2) ++ rest) =
      (decode? depth rest).map (parts.map (·.1) ++ ·) := by
  induction parts with
  | nil => simp
  | cons p parts ih =>
    rw [List.flatMap_cons, List.append_assoc, (h p (by simp)).decode?,
      ih fun q mem => h q (by simp [mem]), Option.map_map]
    rfl

theorem decode?_nil (depth : Nat) : decode? depth [] = some [] := by
  rw [decode?]
  rfl

/-! ## Writing -/

/-- It has a number that a field can have and a value that can be written, if it is not too
long. -/
structure Field.Proper (f : Field) : Prop where
  positive : 1 ≤ f.number
  bound : f.number < 2 ^ 29
  value : f.value ≠ .skipped
  word : ∀ n, f.value = .number n → n < 2 ^ 64

theorem Field.Proper.stands {f : Field} (h : f.Proper) (fits : f.encode.length < 2 ^ 64)
    (depth : Nat) : Stands (depth + 1) f f.encode := by
  obtain ⟨number, value⟩ := f
  cases value with
  | number n =>
    exact .plain (key_key (by decide) h.positive h.bound) (.number (varint_varint (h.word n rfl)))
  | bytes bs =>
    have short : bs.length < 2 ^ 64 := by
      simp only [Field.encode, List.length_append] at fits
      omega
    show Stands (depth + 1) _ (key number 2 ++ varint bs.length ++ bs)
    rw [List.append_assoc]
    exact .plain (key_key (by decide) h.positive h.bound) (.bytes (varint_varint short))
  | skipped => exact absurd rfl h.value

theorem length_encode_le {fields : List Field} {f : Field} (mem : f ∈ fields) :
    f.encode.length ≤ (encode fields).length := by
  induction fields with
  | nil => cases mem
  | cons g fields ih =>
    rw [encode, List.flatMap_cons, List.length_append]
    rcases List.mem_cons.mp mem with rfl | mem
    · exact Nat.le_add_right _ _
    · exact Nat.le_trans (ih mem) (Nat.le_add_left _ _)

/-- What is written is read again, and what follows it after that. -/
theorem decode?_encode {fields : List Field} (proper : ∀ f ∈ fields, f.Proper)
    (fits : (encode fields).length < 2 ^ 64) (depth : Nat) (rest : Bytes) :
    decode? (depth + 1) (encode fields ++ rest) =
      (decode? (depth + 1) rest).map (fields ++ ·) := by
  have written : ∀ p ∈ fields.map fun f => (f, f.encode), Stands (depth + 1) p.1 p.2 := by
    intro p mem
    obtain ⟨f, there, rfl⟩ := List.mem_map.mp mem
    exact (proper f there).stands (Nat.lt_of_le_of_lt (length_encode_le there) fits) depth
  have read := decode?_flatMap written rest
  simpa [encode, List.flatMap_map, Function.comp_def] using read

/-! ## Groups that are nested too deep -/

/-- Groups of one number, each directly within the one before it. -/
def nested (number : Nat) : (count : Nat) → Bytes
  | 0 => []
  | count + 1 => key number 3 ++ nested number count ++ key number 4

section Nested

variable {number : Nat} (positive : 1 ≤ number) (bound : number < 2 ^ 29)

include positive bound

theorem stands_nested (count : Nat) :
    Stands (count + 1) ⟨number, .skipped⟩ (nested number (count + 1)) := by
  have opening : Key number 3 (key number 3) := key_key (by decide) positive bound
  have closing : Key number 4 (key number 4) := key_key (by decide) positive bound
  induction count with
  | zero => exact .group opening (List.forall_mem_nil _) closing
  | succ count ih =>
    have parts : ∀ p ∈ [((⟨number, .skipped⟩ : Field), nested number (count + 1))],
        Stands (count + 1) p.1 p.2 := List.forall_mem_singleton.mpr ih
    have outer := Stands.group opening parts closing
    rwa [List.flatMap_singleton] at outer

/-- More groups than there is room for are refused. -/
theorem skipGroups?_nested {most innermost : Nat} {outer : List Nat} (count : Nat) (rest : Bytes)
    (full : most ≤ (innermost :: outer).length + count) :
    skipGroups? most (innermost :: outer) (nested number (count + 1) ++ rest) = none := by
  have opening : Key number 3 (key number 3) := key_key (by decide) positive bound
  induction count generalizing innermost outer rest with
  | zero =>
    rw [nested, List.append_assoc, List.append_assoc]
    exact skipGroups?_full (opening.read _) full
  | succ count ih =>
    rw [nested, List.append_assoc, List.append_assoc]
    by_cases room : (innermost :: outer).length < most
    · rw [skipGroups?_open (opening.read _) room]
      exact ih _ (by simp only [List.length_cons] at full ⊢; omega)
    · exact skipGroups?_full (opening.read _) (Nat.not_lt.mp room)

theorem decode?_nested (depth : Nat) :
    decode? (depth + 1) (nested number (depth + 2)) = none := by
  have opening : Key number 3 (key number 3) := key_key (by decide) positive bound
  rw [nested, List.append_assoc, decode?_of_key (opening.read _), readValue?, if_pos rfl,
    skipGroups?_nested positive bound depth _ (Nat.le_of_eq (Nat.add_comm depth 1))]
  rfl

end Nested

end Wire

end Rpc

end Recovery
