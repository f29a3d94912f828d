import Recovery.Text.Split
import Recovery.Text.Utf8
/-!
# Percent signs

Bytes written as a percent sign and two hexadecimal digits, and the names and values of forms,
where a plus sign stands for a blank.
-/
set_option autoImplicit false

namespace Recovery.Text.Percent

def hexDigit? (b : UInt8) : Option UInt8 :=
  if 0x30 ≤ b ∧ b ≤ 0x39 then some (b - 0x30)
  else if 0x61 ≤ b ∧ b ≤ 0x66 then some (b - 0x57)
  else if 0x41 ≤ b ∧ b ≤ 0x46 then some (b - 0x37)
  else none

/-- A percent sign without two digits after it stands for itself. -/
def decode : List UInt8 → List UInt8
  | [] => []
  | [a] => [a]
  | [a, b] => [a, b]
  | a :: b :: c :: bs =>
    match a == 0x25, hexDigit? b, hexDigit? c with
    | true, some high, some low => (high * 16 + low) :: decode bs
    | _, _, _ => a :: decode (b :: c :: bs)

def bytes (cs : List Char) : List UInt8 := cs.flatMap String.utf8EncodeChar

/-! ## Forms -/

def hexDigit (n : Nat) : Char :=
  if n < 10 then Char.ofNat (0x30 + n) else Char.ofNat (0x37 + n)

/-- Letters, digits and four marks stand for themselves. -/
def encodeByte (b : UInt8) : List Char :=
  let c := Char.ofNat b.toNat
  if c.isAlphanum || c == '*' || c == '-' || c == '.' || c == '_' then [c]
  else if c == ' ' then ['+']
  else ['%', hexDigit (b.toNat / 16), hexDigit (b.toNat % 16)]

def encodeForm (s : String) : List Char := (bytes s.toList).flatMap encodeByte

def decodeForm (cs : List Char) : String :=
  Utf8.decodeAll (decode (bytes (cs.map fun c => if c = '+' then ' ' else c)))

def pairOf (cs : List Char) : String × String :=
  let (name, value) := splitOnce '=' cs
  (decodeForm name, decodeForm (value.getD []))

def pairs (cs : List Char) : List (String × String) :=
  ((split (· == '&') cs).filter fun part => !part.isEmpty).map pairOf

end Recovery.Text.Percent
