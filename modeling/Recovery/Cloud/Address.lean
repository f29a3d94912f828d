import Recovery.Text.Split
/-!
# Addresses

Internet addresses of both versions. Each has one text that it is written as; it is read from any
text that names it.
-/
set_option autoImplicit false

namespace Recovery

inductive Ip where
  | v4 (octets : Vector UInt8 4)
  | v6 (groups : Vector UInt16 8)
deriving Repr, DecidableEq

namespace Ip

/-! ## Writing -/

def dotted (octets : List Nat) : String := ".".intercalate (octets.map toString)

def colonSeparated (groups : List Nat) : String :=
  ":".intercalate (groups.map fun n => String.ofList (Nat.toDigits 16 n))

def longestRun (groups : List Nat) : Nat × Nat :=
  (List.range groups.length).foldl (fun best start =>
    let length := ((groups.drop start).takeWhile (· == 0)).length
    if best.2 < length then (start, length) else best) (0, 0)

/-- Two colons stand for the longest run of two or more zeros. An address of the old version
within the new one is written with dots. -/
def text : Ip → String
  | .v4 octets => dotted (octets.toList.map UInt8.toNat)
  | .v6 groups =>
    let groups := groups.toList.map UInt16.toNat
    if groups.take 6 = [0, 0, 0, 0, 0, 0xFFFF] then
      "::ffff:" ++ dotted ((groups.drop 6).flatMap fun n => [n / 256, n % 256])
    else
      let (start, length) := longestRun groups
      if 1 < length then
        colonSeparated (groups.take start) ++ "::" ++ colonSeparated (groups.drop (start + length))
      else colonSeparated groups

/-! ## Reading -/

/-- A number of one to three digits below 256, without leading zeros. -/
def octet? (cs : List Char) : Option UInt8 :=
  if cs.isEmpty || 3 < cs.length || !cs.all Char.isDigit || (cs.head? == some '0' && cs != ['0'])
  then none
  else
    let n := cs.foldl (fun n c => n * 10 + (c.toNat - '0'.toNat)) 0
    if n < 256 then some n.toUInt8 else none

def octets? (cs : List Char) : Option (List UInt8) := do
  let octets ← (Text.split (· == '.') cs).mapM octet?
  if octets.length = 4 then some octets else none

def hexDigit? (c : Char) : Option Nat :=
  if c.isDigit then some (c.toNat - '0'.toNat)
  else if 'a' ≤ c ∧ c ≤ 'f' then some (c.toNat - 'a'.toNat + 10)
  else if 'A' ≤ c ∧ c ≤ 'F' then some (c.toNat - 'A'.toNat + 10)
  else none

def group? (cs : List Char) : Option UInt16 := do
  if cs.isEmpty || 4 < cs.length then none
  let digits ← cs.mapM hexDigit?
  return (digits.foldl (fun n d => n * 16 + d) 0).toUInt16

/-- Groups between colons, of which the last two may be written with dots. -/
def groupList? : List (List Char) → Option (List UInt16)
  | [] => some []
  | [last] =>
    match octets? last with
    | some [a, b, c, d] => some [a.toUInt16 * 256 + b.toUInt16, c.toUInt16 * 256 + d.toUInt16]
    | _ => (group? last).map ([·])
  | part :: parts => do return (← group? part) :: (← groupList? parts)

def groups? (cs : List Char) : Option (List UInt16) :=
  if cs.isEmpty then some [] else groupList? (Text.split (· == ':') cs)

def splitColons : List Char → Option (List Char × List Char)
  | [] => none
  | [_] => none
  | c :: d :: cs =>
    if c = ':' ∧ d = ':' then some ([], cs)
    else (splitColons (d :: cs)).map fun (before, after) => (c :: before, after)

/-- The groups of an address; two colons stand for at least one group of zero, and nothing before
them is written with dots. -/
def allGroups? (cs : List Char) : Option (List UInt16) :=
  match splitColons cs with
  | none => groups? cs
  | some (before, after) => do
    if before.contains '.' then none
    let first ← groups? before
    let last ← groups? after
    let count := first.length + last.length
    if 7 < count then none
    return first ++ List.replicate (8 - count) 0 ++ last

def ofText? (s : String) : Option Ip :=
  let cs := s.toList
  if cs.contains ':' then do
    let groups ← allGroups? cs
    if h : groups.length = 8 then some (.v6 ⟨groups.toArray, by simpa using h⟩) else none
  else do
    let octets ← octets? cs
    if h : octets.length = 4 then some (.v4 ⟨octets.toArray, by simpa using h⟩) else none

end Ip

structure Address where
  ip : Ip
  port : Nat
deriving Repr, DecidableEq

def Address.text (a : Address) : String :=
  let host :=
    match a.ip with
    | .v4 _ => a.ip.text
    | .v6 _ => "[" ++ a.ip.text ++ "]"
  host ++ ":" ++ toString a.port

end Recovery
