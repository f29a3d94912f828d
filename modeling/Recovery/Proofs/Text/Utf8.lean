import Recovery.Proofs.Text.Bytes
import Recovery.Text.Percent
/-!
# Texts read from bytes

Bytes are read as a text just if they are the bytes of that text in UTF-8; bytes among which there
is no percent sign spell themselves.
-/
set_option autoImplicit false

namespace Recovery

namespace Text

namespace Utf8

open String (utf8EncodeChar)

/-! ## The bytes of one character -/

section Lead

variable {n : Nat}

theorem lead?_ascii (high : n < 0x80) : lead? n = some (n, []) := if_pos high

theorem lead?_two (low : 0xC2 ≤ n) (high : n < 0xE0) :
    lead? n = some (n - 0xC0, [continuation]) := by
  rw [lead?, if_neg (by omega), if_neg (by omega), if_pos high]

theorem lead?_three (low : 0xE0 ≤ n) (high : n < 0xF0) :
    lead? n = some (n - 0xE0, [(if n = 0xE0 then 0xA0 else 0x80, if n = 0xED then 0x9F else 0xBF),
      continuation]) := by
  rw [lead?, if_neg (by omega), if_neg (by omega), if_neg (by omega), if_pos high]

theorem lead?_four (low : 0xF0 ≤ n) (high : n < 0xF5) :
    lead? n = some (n - 0xF0, [(if n = 0xF0 then 0x90 else 0x80, if n = 0xF4 then 0x8F else 0xBF),
      continuation, continuation]) := by
  rw [lead?, if_neg (by omega), if_neg (by omega), if_neg (by omega), if_neg (by omega),
    if_pos high]

end Lead

theorem follow_nil_eq_ok {value count : Nat} {bs rest : List UInt8} {c : Char} :
    follow value count [] bs = .ok (c, rest) ↔ Char.ofNat value = c ∧ bs = rest := by
  rw [follow, Except.ok.injEq, Prod.mk.injEq]

theorem follow_cons_eq_ok {value count : Nat} {range : Range} {ranges : List Range}
    {bs rest : List UInt8} {c : Char} :
    follow value count (range :: ranges) bs = .ok (c, rest) ↔
      ∃ b more, bs = b :: more ∧ (range.1 ≤ b.toNat ∧ b.toNat ≤ range.2) ∧
        follow (value * 64 + (b.toNat - 0x80)) (count + 1) ranges more = .ok (c, rest) := by
  cases bs with
  | nil => simp [follow]
  | cons b bs =>
    rw [follow]
    split
    · rename_i inside
      refine ⟨fun h => ⟨b, bs, rfl, inside, h⟩, ?_⟩
      rintro ⟨_, _, ⟨⟩, -, h⟩
      exact h
    · rename_i outside
      constructor
      · intro h
        cases h
      · rintro ⟨_, _, ⟨⟩, inside, -⟩
        exact absurd inside outside

theorem toNat_ofNat_of_lt {n : Nat} (small : n < 256) : (UInt8.ofNat n).toNat = n := by
  rw [UInt8.toNat_ofNat', Nat.mod_eq_of_lt small]

theorem ofNat_eq {b : UInt8} {n : Nat} (same : n = b.toNat) : UInt8.ofNat n = b := by
  rw [same, UInt8.ofNat_toNat]

theorem follow_ofNat {value count n lo hi : Nat} {ranges : List Range} {bs : List UInt8}
    (small : n < 256) (inside : lo ≤ n ∧ n ≤ hi) :
    follow value count ((lo, hi) :: ranges) (UInt8.ofNat n :: bs) =
      follow (value * 64 + (n - 0x80)) (count + 1) ranges bs := by
  rw [follow, toNat_ofNat_of_lt small, if_pos inside]

theorem utf8EncodeChar_ofNat {n : Nat} (valid : n.isValidChar) :
    utf8EncodeChar (Char.ofNat n) =
      if n ≤ 127 then [UInt8.ofNat n]
      else if n ≤ 2047 then [UInt8.ofNat (n / 64 % 32 + 192), UInt8.ofNat (n % 64 + 128)]
      else if n ≤ 65535 then
        [UInt8.ofNat (n / 4096 % 16 + 224), UInt8.ofNat (n / 64 % 64 + 128),
          UInt8.ofNat (n % 64 + 128)]
      else
        [UInt8.ofNat (n / 262144 % 8 + 240), UInt8.ofNat (n / 4096 % 64 + 128),
          UInt8.ofNat (n / 64 % 64 + 128), UInt8.ofNat (n % 64 + 128)] := by
  have same : (Char.ofNat n).toNat = n := by
    rw [Char.ofNat, dif_pos valid]
    rfl
  rw [utf8EncodeChar, Char.toNat_val, same]

/-- Only ASCII characters have bytes below 0x80. -/
theorem le_toNat_of_mem_utf8EncodeChar {c : Char} {b : UInt8} (long : 128 ≤ c.toNat)
    (member : b ∈ utf8EncodeChar c) : 128 ≤ b.toNat := by
  have high {n : Nat} (large : 128 ≤ n) (small : n < 256) : 128 ≤ (UInt8.ofNat n).toNat := by
    rwa [toNat_ofNat_of_lt small]
  have valid : c.toNat.isValidChar := c.valid
  rw [utf8EncodeChar, Char.toNat_val, if_neg (by omega)] at member
  split at member
  · simp only [List.mem_cons, List.not_mem_nil, or_false] at member
    rcases member with rfl | rfl <;> exact high (by omega) (by omega)
  split at member
  · simp only [List.mem_cons, List.not_mem_nil, or_false] at member
    rcases member with rfl | rfl | rfl <;> exact high (by omega) (by omega)
  · simp only [List.mem_cons, List.not_mem_nil, or_false] at member
    rcases member with rfl | rfl | rfl | rfl <;> exact high (by omega) (by omega)

/-- The bytes begin with those that are read as a character, and these follow. -/
inductive Reads (c : Char) (rest : List UInt8) : List UInt8 → Prop where
  | intro {b : UInt8} {bs : List UInt8} {value : Nat} {ranges : List Range} :
    lead? b.toNat = some (value, ranges) → follow value 1 ranges bs = .ok (c, rest) →
    Reads c rest (b :: bs)

namespace Reads

theorem ofNat {c : Char} {rest bs : List UInt8} {n value : Nat} {ranges : List Range}
    (small : n < 256) (leads : lead? n = some (value, ranges))
    (follows : follow value 1 ranges bs = .ok (c, rest)) : Reads c rest (UInt8.ofNat n :: bs) := by
  rw [← toNat_ofNat_of_lt small] at leads
  exact .intro leads follows

theorem utf8EncodeChar_append (c : Char) (rest : List UInt8) :
    Reads c rest (utf8EncodeChar c ++ rest) := by
  have valid : c.toNat.isValidChar := c.valid
  rw [← Char.ofNat_toNat c, utf8EncodeChar_ofNat valid]
  generalize c.toNat = n at valid
  have last {m count : Nat} (same : m = n) :
      follow m count [] rest = .ok (Char.ofNat n, rest) := by rw [same, follow]
  split
  · exact .ofNat (by omega) (lead?_ascii (by omega)) (last rfl)
  split
  · simp only [List.cons_append, List.nil_append]
    refine .ofNat (by omega) (lead?_two (by omega) (by omega)) ?_
    rw [continuation, follow_ofNat (by omega) (by omega)]
    exact last (by omega)
  split
  · simp only [List.cons_append, List.nil_append]
    refine .ofNat (by omega) (lead?_three (by omega) (by omega)) ?_
    rw [continuation, follow_ofNat (by omega) (by split <;> split <;> omega),
      follow_ofNat (by omega) (by omega)]
    exact last (by omega)
  · simp only [List.cons_append, List.nil_append]
    refine .ofNat (by omega) (lead?_four (by omega) (by omega)) ?_
    rw [continuation, follow_ofNat (by omega) (by split <;> split <;> omega),
      follow_ofNat (by omega) (by omega), follow_ofNat (by omega) (by omega)]
    exact last (by omega)

theorem eq_utf8EncodeChar_append {c : Char} {rest bs : List UInt8} (h : Reads c rest bs) :
    bs = utf8EncodeChar c ++ rest := by
  obtain ⟨leads, follows⟩ := h
  rename_i b bs value ranges
  have byte := b.toNat_lt
  unfold lead? at leads
  split at leads
  · obtain ⟨rfl, rfl⟩ := Prod.mk.inj (Option.some.inj leads)
    obtain ⟨rfl, rfl⟩ := follow_nil_eq_ok.mp follows
    rw [utf8EncodeChar_ofNat (by omega), if_pos (by omega), ofNat_eq rfl, List.singleton_append]
  split at leads
  · cases leads
  split at leads
  · obtain ⟨rfl, rfl⟩ := Prod.mk.inj (Option.some.inj leads)
    obtain ⟨b₁, bs, rfl, tail, follows⟩ := follow_cons_eq_ok.mp follows
    obtain ⟨rfl, rfl⟩ := follow_nil_eq_ok.mp follows
    dsimp only [continuation] at tail
    rw [utf8EncodeChar_ofNat (by omega), if_neg (by omega), if_pos (by omega),
      ofNat_eq (b := b) (by omega), ofNat_eq (b := b₁) (by omega)]
    rfl
  split at leads
  · obtain ⟨rfl, rfl⟩ := Prod.mk.inj (Option.some.inj leads)
    obtain ⟨b₁, bs, rfl, second, follows⟩ := follow_cons_eq_ok.mp follows
    obtain ⟨b₂, bs, rfl, third, follows⟩ := follow_cons_eq_ok.mp follows
    obtain ⟨rfl, rfl⟩ := follow_nil_eq_ok.mp follows
    dsimp only [continuation] at second third
    have inside : (0x80 ≤ b₁.toNat ∧ b₁.toNat ≤ 0xBF) ∧ (b.toNat = 0xE0 → 0xA0 ≤ b₁.toNat) ∧
        (b.toNat = 0xED → b₁.toNat ≤ 0x9F) := by
      split at second <;> split at second <;> omega
    rw [utf8EncodeChar_ofNat (by omega), if_neg (by omega), if_neg (by omega), if_pos (by omega),
      ofNat_eq (b := b) (by omega), ofNat_eq (b := b₁) (by omega), ofNat_eq (b := b₂) (by omega)]
    rfl
  split at leads
  · obtain ⟨rfl, rfl⟩ := Prod.mk.inj (Option.some.inj leads)
    obtain ⟨b₁, bs, rfl, second, follows⟩ := follow_cons_eq_ok.mp follows
    obtain ⟨b₂, bs, rfl, third, follows⟩ := follow_cons_eq_ok.mp follows
    obtain ⟨b₃, bs, rfl, fourth, follows⟩ := follow_cons_eq_ok.mp follows
    obtain ⟨rfl, rfl⟩ := follow_nil_eq_ok.mp follows
    dsimp only [continuation] at second third fourth
    have inside : (0x80 ≤ b₁.toNat ∧ b₁.toNat ≤ 0xBF) ∧ (b.toNat = 0xF0 → 0x90 ≤ b₁.toNat) ∧
        (b.toNat = 0xF4 → b₁.toNat ≤ 0x8F) := by
      split at second <;> split at second <;> omega
    rw [utf8EncodeChar_ofNat (by omega), if_neg (by omega), if_neg (by omega), if_neg (by omega),
      ofNat_eq (b := b) (by omega), ofNat_eq (b := b₁) (by omega), ofNat_eq (b := b₂) (by omega),
      ofNat_eq (b := b₃) (by omega)]
    rfl
  · cases leads

theorem pieces {c : Char} {rest bs : List UInt8} (h : Reads c rest bs) :
    pieces bs = .ok c :: pieces rest := by
  obtain ⟨leads, follows⟩ := h
  rw [Utf8.pieces, leads]
  dsimp only
  split
  · rename_i read
    cases read.symm.trans follows
    rfl
  · rename_i read
    cases read.symm.trans follows
  · rename_i read
    cases read.symm.trans follows

end Reads

/-! ## Whole texts -/

theorem pieces_eq_nil {bs : List UInt8} (h : pieces bs = []) : bs = [] := by
  cases bs with
  | nil => rfl
  | cons b bs =>
    rw [pieces] at h
    split at h
    · cases h
    · split at h <;> cases h

theorem reads_of_pieces {bs : List UInt8} {c : Char} {ps : List (Except Gap Char)}
    (h : pieces bs = .ok c :: ps) : ∃ rest, Reads c rest bs ∧ pieces rest = ps := by
  cases bs with
  | nil =>
    rw [pieces] at h
    cases h
  | cons b bs =>
    rw [pieces] at h
    split at h
    · cases h
    · rename_i value ranges leads
      split at h
      · rename_i rest follows
        cases h
        exact ⟨rest, .intro leads follows, rfl⟩
      · cases h
      · cases h

/-- Bytes are read without a gap as the characters that they encode. -/
theorem pieces_eq_map_ok_iff {bs : List UInt8} {cs : List Char} :
    pieces bs = cs.map .ok ↔ bs = cs.flatMap utf8EncodeChar := by
  induction cs generalizing bs with
  | nil =>
    refine ⟨pieces_eq_nil, ?_⟩
    rintro rfl
    rw [List.flatMap_nil, pieces]
    rfl
  | cons c cs ih =>
    rw [List.map_cons, List.flatMap_cons]
    constructor
    · intro h
      obtain ⟨rest, reads, later⟩ := reads_of_pieces h
      rw [reads.eq_utf8EncodeChar_append, ih.mp later]
    · rintro rfl
      rw [(Reads.utf8EncodeChar_append c _).pieces, ih.mpr rfl]

theorem firstGap?_eq_none_iff {index : Nat} {ps : List (Except Gap Char)} :
    firstGap? index ps = none ↔ ∃ cs : List Char, ps = cs.map .ok := by
  induction ps generalizing index with
  | nil => exact ⟨fun _ => ⟨[], rfl⟩, fun _ => rfl⟩
  | cons p ps ih =>
    cases p with
    | error gap =>
      refine ⟨nofun, ?_⟩
      rintro ⟨_ | ⟨c, cs⟩, h⟩ <;> cases h
    | ok c =>
      rw [firstGap?, ih]
      constructor
      · rintro ⟨cs, rfl⟩
        exact ⟨c :: cs, rfl⟩
      · rintro ⟨_ | ⟨d, cs⟩, h⟩ <;> cases h
        exact ⟨cs, rfl⟩

theorem decodeAll_flatMap (cs : List Char) :
    decodeAll (cs.flatMap utf8EncodeChar) = String.ofList cs := by
  rw [decodeAll, pieces_eq_map_ok_iff.mpr rfl, List.map_map]
  congr
  exact List.map_id cs

theorem bytes_eq_flatMap (s : String) : Text.bytes s = s.toList.flatMap utf8EncodeChar := by
  rw [← bytes_ofList, String.ofList_toList]

/-- Bytes are a text if they are those of the text in UTF-8, and only then. -/
theorem decode_eq_ok_iff {bs : List UInt8} {s : String} :
    decode bs = .ok s ↔ bs = Text.bytes s := by
  rw [decode, bytes_eq_flatMap]
  constructor
  · intro h
    split at h
    · rename_i whole
      obtain ⟨cs, read⟩ := firstGap?_eq_none_iff.mp whole
      obtain rfl := pieces_eq_map_ok_iff.mp read
      rw [decodeAll_flatMap, Except.ok.injEq] at h
      rw [← h, String.toList_ofList]
    · cases h
  · rintro rfl
    have read := pieces_eq_map_ok_iff.mpr (rfl : s.toList.flatMap utf8EncodeChar = _)
    rw [firstGap?_eq_none_iff.mpr ⟨_, read⟩, decodeAll_flatMap, String.ofList_toList]

end Utf8

/-! ## Percent signs -/

namespace Percent

open String (utf8EncodeChar)

theorem decode_eq_self {bs : List UInt8} (plain : 0x25 ∉ bs) : decode bs = bs := by
  fun_induction decode bs with
  | case1 => rfl
  | case2 => rfl
  | case3 => rfl
  | case4 a b c bs _ _ _ _ sign =>
    rw [beq_iff_eq.mp sign] at plain
    exact absurd List.mem_cons_self plain
  | case5 a b c bs _ ih => rw [ih fun member => plain (List.mem_cons_of_mem _ member)]

/-- No character but the percent sign has its byte among its own. -/
theorem eq_percent_of_mem {c : Char} (member : 0x25 ∈ utf8EncodeChar c) : c = '%' := by
  rcases Nat.lt_or_ge c.toNat 128 with ascii | long
  · rw [utf8EncodeChar_of_ascii ascii] at member
    have byte := congrArg UInt8.toNat (List.mem_singleton.mp member)
    rw [Utf8.toNat_ofNat_of_lt (by omega)] at byte
    rw [← Char.ofNat_toNat c, ← byte]
    rfl
  · exact absurd (Utf8.le_toNat_of_mem_utf8EncodeChar long member) (by decide)

/-- A text without percent signs is spelled as it is. -/
theorem decode_bytes {s : String} (plain : '%' ∉ s.toList) :
    decode (bytes s.toList) = Text.bytes s := by
  rw [Utf8.bytes_eq_flatMap]
  refine decode_eq_self fun member => ?_
  obtain ⟨c, inside, byte⟩ := List.mem_flatMap.mp member
  rw [eq_percent_of_mem byte] at inside
  exact plain inside

end Percent

end Text

end Recovery
