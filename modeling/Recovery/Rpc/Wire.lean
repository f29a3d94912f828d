/-!
# The binary form of messages

A message is a sequence of numbered fields. A field is a whole number below 2^64 in groups of
seven bits, the lowest group first, or a run of bytes that follows its length. Readers also meet
fields of fixed width and groups, which no message of this library has; they are skipped.
-/
set_option autoImplicit false

namespace Recovery

namespace Rpc

abbrev Bytes := List UInt8

namespace Wire

inductive Value where
  | number (n : Nat)
  | bytes (bs : Bytes)
  /-- A field of fixed width or a group, whose content is not looked into. -/
  | skipped
deriving Repr, DecidableEq

structure Field where
  number : Nat
  value : Value
deriving Repr, DecidableEq

/-! ## Writing -/

/-- A number in groups of seven bits; every group but the last has 128 added to it. -/
def varint (n : Nat) : Bytes :=
  if n < 128 then [n.toUInt8] else (n % 128 + 128).toUInt8 :: varint (n / 128)
termination_by n
decreasing_by omega

def key (number kind : Nat) : Bytes := varint (number * 8 + kind)

def Field.encode (f : Field) : Bytes :=
  match f.value with
  | .number n => key f.number 0 ++ varint n
  | .bytes bs => key f.number 2 ++ varint bs.length ++ bs
  | .skipped => []

def encode (fields : List Field) : Bytes := fields.flatMap Field.encode

/-! ## Reading -/

/-- A number of at most `room` groups and what follows it. The tenth group may only be one bit. -/
def readGroups? : (room : Nat) → Bytes → Option (Nat × Bytes)
  | 0, _ => none
  | _, [] => none
  | room + 1, b :: rest =>
    if b < 128 then if room = 0 ∧ 2 ≤ b then none else some (b.toNat, rest)
    else (readGroups? room rest).map fun (n, rest) => (b.toNat - 128 + 128 * n, rest)

def readVarint? : Bytes → Option (Nat × Bytes) := readGroups? 10

theorem readGroups?_length {room : Nat} {bs rest : Bytes} {n : Nat}
    (h : readGroups? room bs = some (n, rest)) : rest.length < bs.length := by
  induction room generalizing bs n with
  | zero => simp [readGroups?] at h
  | succ room ih =>
    cases bs with
    | nil => simp [readGroups?] at h
    | cons b bs =>
      rw [readGroups?] at h
      split at h
      · split at h
        · simp at h
        · simp only [Option.some.injEq, Prod.mk.injEq] at h
          obtain ⟨_, rfl⟩ := h
          simp
      · obtain ⟨⟨m, more⟩, hm, heq⟩ := Option.map_eq_some_iff.1 h
        simp only [Prod.mk.injEq] at heq
        obtain ⟨_, rfl⟩ := heq
        have := ih hm
        simp only [List.length_cons]
        omega

/-- A field's number and the kind of its value. A key is below 2^32 and no number is zero. -/
def readKey? (bs : Bytes) : Option ((Nat × Nat) × Bytes) :=
  (readVarint? bs).bind fun (k, rest) =>
    if k < 4294967296 ∧ 8 ≤ k then some ((k / 8, k % 8), rest) else none

theorem readKey?_length {bs rest : Bytes} {k : Nat × Nat} (h : readKey? bs = some (k, rest)) :
    rest.length < bs.length := by
  obtain ⟨⟨n, more⟩, hn, hk⟩ := Option.bind_eq_some_iff.1 h
  simp only at hk
  split at hk
  · simp only [Option.some.injEq, Prod.mk.injEq] at hk
    obtain ⟨_, rfl⟩ := hk
    exact readGroups?_length hn
  · simp at hk

def splitBytes? (n : Nat) (bs : Bytes) : Option (Bytes × Bytes) :=
  if n ≤ bs.length then some (bs.take n, bs.drop n) else none

def readPlain? (kind : Nat) (bs : Bytes) : Option (Value × Bytes) :=
  match kind with
  | 0 => (readVarint? bs).map fun (n, rest) => (.number n, rest)
  | 1 => (splitBytes? 8 bs).map fun (_, rest) => (.skipped, rest)
  | 2 => (readVarint? bs).bind fun (n, rest) =>
    (splitBytes? n rest).map fun (content, rest) => (.bytes content, rest)
  | 5 => (splitBytes? 4 bs).map fun (_, rest) => (.skipped, rest)
  | _ => none

theorem splitBytes?_length {n : Nat} {bs content rest : Bytes}
    (h : splitBytes? n bs = some (content, rest)) : rest.length ≤ bs.length := by
  unfold splitBytes? at h
  split at h
  · simp only [Option.some.injEq, Prod.mk.injEq] at h
    obtain ⟨_, rfl⟩ := h
    simp
  · simp at h

theorem readPlain?_length {kind : Nat} {bs rest : Bytes} {v : Value}
    (h : readPlain? kind bs = some (v, rest)) : rest.length ≤ bs.length := by
  unfold readPlain? at h
  split at h
  · obtain ⟨⟨n, more⟩, hn, heq⟩ := Option.map_eq_some_iff.1 h
    simp only [Prod.mk.injEq] at heq
    obtain ⟨_, rfl⟩ := heq
    exact Nat.le_of_lt (readGroups?_length hn)
  · obtain ⟨⟨n, more⟩, hn, heq⟩ := Option.map_eq_some_iff.1 h
    simp only [Prod.mk.injEq] at heq
    obtain ⟨_, rfl⟩ := heq
    exact splitBytes?_length hn
  · obtain ⟨⟨n, more⟩, hn, hb⟩ := Option.bind_eq_some_iff.1 h
    obtain ⟨⟨c, more'⟩, hc, heq⟩ := Option.map_eq_some_iff.1 hb
    simp only [Prod.mk.injEq] at heq
    obtain ⟨_, rfl⟩ := heq
    exact Nat.le_of_lt (Nat.lt_of_le_of_lt (splitBytes?_length hc) (readGroups?_length hn))
  · obtain ⟨⟨n, more⟩, hn, heq⟩ := Option.map_eq_some_iff.1 h
    simp only [Prod.mk.injEq] at heq
    obtain ⟨_, rfl⟩ := heq
    exact splitBytes?_length hn
  · simp at h

/-- What follows the end of the groups whose numbers are `open_`, the innermost first. A field
may stand in at most `depth - 1` groups. -/
def skipGroups? (depth : Nat) (open_ : List Nat) (bs : Bytes) : Option Bytes :=
  match open_ with
  | [] => some bs
  | innermost :: outer =>
    match hk : readKey? bs with
    | none => none
    | some ((number, kind), rest) =>
      have := readKey?_length hk
      if kind = 4 then if number = innermost then skipGroups? depth outer rest else none
      else if depth ≤ open_.length then none
      else if kind = 3 then skipGroups? depth (number :: open_) rest
      else
        match hv : readPlain? kind rest with
        | none => none
        | some (_, more) =>
          have := readPlain?_length hv
          skipGroups? depth open_ more
termination_by bs.length
decreasing_by all_goals omega

theorem skipGroups?_length {depth : Nat} {open_ : List Nat} {bs rest : Bytes}
    (h : skipGroups? depth open_ bs = some rest) : rest.length ≤ bs.length := by
  fun_induction skipGroups? depth open_ bs <;> grind

def readValue? (depth number kind : Nat) (bs : Bytes) : Option (Value × Bytes) :=
  if kind = 3 then (skipGroups? depth [number] bs).map fun rest => (.skipped, rest)
  else readPlain? kind bs

theorem readValue?_length {depth number kind : Nat} {bs rest : Bytes} {v : Value}
    (h : readValue? depth number kind bs = some (v, rest)) : rest.length ≤ bs.length := by
  unfold readValue? at h
  split at h
  · obtain ⟨more, hm, heq⟩ := Option.map_eq_some_iff.1 h
    simp only [Prod.mk.injEq] at heq
    obtain ⟨_, rfl⟩ := heq
    exact skipGroups?_length hm
  · exact readPlain?_length h

/-- The fields of a message that stands in `100 - depth` others. -/
def decode? (depth : Nat) (bs : Bytes) : Option (List Field) :=
  if bs.isEmpty then some []
  else
    match hk : readKey? bs with
    | none => none
    | some ((number, kind), rest) =>
      match hv : readValue? depth number kind rest with
      | none => none
      | some (value, more) =>
        have := readKey?_length hk
        have := readValue?_length hv
        (decode? depth more).map (⟨number, value⟩ :: ·)
termination_by bs.length
decreasing_by omega

end Wire

end Rpc

end Recovery
