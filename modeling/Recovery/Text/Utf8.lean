/-!
# UTF-8

Bytes are read as pieces: characters, and runs of bytes that start no character. A run is as long
as the longest start of a character that it has, so that what follows is read afresh.
-/
set_option autoImplicit false

namespace Recovery.Text.Utf8

abbrev Range := Nat × Nat

def continuation : Range := (0x80, 0xBF)

/-- What a first byte adds to the character, and the ranges of the bytes that have to follow. -/
def lead? (b : Nat) : Option (Nat × List Range) :=
  if b < 0x80 then some (b, [])
  else if b < 0xC2 then none
  else if b < 0xE0 then some (b - 0xC0, [continuation])
  else if b < 0xF0 then
    some (b - 0xE0,
      [(if b = 0xE0 then 0xA0 else 0x80, if b = 0xED then 0x9F else 0xBF), continuation])
  else if b < 0xF5 then
    some (b - 0xF0,
      [(if b = 0xF0 then 0x90 else 0x80, if b = 0xF4 then 0x8F else 0xBF), continuation,
        continuation])
  else none

/-- How many bytes start no character; none if the bytes end within one. -/
abbrev Gap := Option Nat

/-- The rest of a character of which `count` bytes have been read, and what follows it. -/
def follow (value count : Nat) : List Range → List UInt8 → Except Gap (Char × List UInt8)
  | [], bs => .ok (Char.ofNat value, bs)
  | _ :: _, [] => .error none
  | (lo, hi) :: ranges, b :: bs =>
    if lo ≤ b.toNat ∧ b.toNat ≤ hi then
      follow (value * 64 + (b.toNat - 0x80)) (count + 1) ranges bs
    else .error (some count)

theorem follow_length {value count : Nat} {ranges : List Range} {bs rest : List UInt8} {c : Char}
    (h : follow value count ranges bs = .ok (c, rest)) : rest.length ≤ bs.length := by
  induction ranges generalizing value count bs with
  | nil =>
    cases h
    exact Nat.le_refl _
  | cons range ranges ih =>
    cases bs with
    | nil => cases h
    | cons b bs =>
      simp only [follow] at h
      split at h
      · exact Nat.le_succ_of_le (ih h)
      · cases h

def pieces (bs : List UInt8) : List (Except Gap Char) :=
  match bs with
  | [] => []
  | b :: bs =>
    match lead? b.toNat with
    | none => .error (some 1) :: pieces bs
    | some (value, ranges) =>
      match _h : follow value 1 ranges bs with
      | .ok (c, rest) => .ok c :: pieces rest
      | .error none => [.error none]
      | .error (some count) => .error (some count) :: pieces (bs.drop (count - 1))
termination_by bs.length
decreasing_by
  · simp
  · have := follow_length _h
    simp only [List.length_cons]
    omega
  · simp only [List.length_drop, List.length_cons]
    omega

/-- The text of the bytes, with one replacement character for each gap. -/
def decodeAll (bs : List UInt8) : String :=
  String.ofList <| (pieces bs).map fun
    | .ok c => c
    | .error _ => '\ufffd'

def firstGap? : (index : Nat) → List (Except Gap Char) → Option (Nat × Gap)
  | _, [] => none
  | index, .ok c :: rest => firstGap? (index + c.utf8Size) rest
  | index, .error gap :: _ => some (index, gap)

def decode (bs : List UInt8) : Except (Nat × Gap) String :=
  match firstGap? 0 (pieces bs) with
  | none => .ok (decodeAll bs)
  | some gap => .error gap

def gapMessage (index : Nat) : Gap → String
  | some count =>
    "invalid utf-8 sequence of " ++ toString count ++ " bytes from index " ++ toString index
  | none => "incomplete utf-8 byte sequence from index " ++ toString index

end Recovery.Text.Utf8
