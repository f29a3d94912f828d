import Recovery.Fault
import Recovery.Text.Blank
/-!
# Storage quantities

A quantity is a decimal number with an optional suffix: a binary one (`Ki` to `Ei`), a decimal one
(`k` to `E`) or an exponent (`e9`, `E-3`). It stands for a number of bytes, a fraction of a byte
counting as a whole one. No intermediate value may reach 2^128.
-/
set_option autoImplicit false

namespace Recovery

namespace Quantity

/-- Sizes and every intermediate value stay below this. -/
def limit : Nat := Nat.pow 2 128

def binarySuffixes : List (String × Nat) :=
  [("Ki", 1), ("Mi", 2), ("Gi", 3), ("Ti", 4), ("Pi", 5), ("Ei", 6)]

def decimalSuffixes : List (String × Nat) :=
  [("k", 1), ("M", 2), ("G", 3), ("T", 4), ("P", 5), ("E", 6)]

structure Scale where
  numerator : Nat
  denominator : Nat
deriving Repr, DecidableEq

inductive Refusal where
  | empty
  | unknownSuffix (quantity : String)
  | missingNumber (quantity : String)
  | invalidNumber (quantity : String)
  | tooLarge (quantity : String)
deriving Repr, DecidableEq

def Refusal.message : Refusal → String
  | .empty => "empty storage quantity"
  | .unknownSuffix q => "unknown suffix in " ++ Text.quoted q
  | .missingNumber q => "missing number in " ++ Text.quoted q
  | .invalidNumber q => "invalid number in " ++ Text.quoted q
  | .tooLarge q => Text.quoted q ++ " is too large"

def Refusal.fault (r : Refusal) : Fault := .validation "quantity" r.message

def tenTo? (power : Nat) : Option Nat := if power ≤ 38 then some (Nat.pow 10 power) else none

def below? (n : Nat) : Option Nat := if n < limit then some n else none

def digitsValue (digits : List Char) : Nat :=
  digits.foldl (fun n d => n * 10 + (d.toNat - '0'.toNat)) 0

def beforeSuffix? (suffix : String) (q : List Char) : Option (List Char) :=
  if suffix.toList.isSuffixOf q then some (q.take (q.length - suffix.toList.length)) else none

/-- The text before the first suffix of a table that the text ends in, and the power the table
gives it. -/
def splitTable? (table : List (String × Nat)) (q : List Char) : Option (List Char × Nat) :=
  table.findSome? fun (suffix, power) => (beforeSuffix? suffix q).map (·, power)

def isMark (c : Char) : Bool := c == 'e' || c == 'E'

/-- Whether an exponent is negative, and what follows its sign. -/
def signed : List Char → Bool × List Char
  | '+' :: rest => (false, rest)
  | '-' :: rest => (true, rest)
  | rest => (false, rest)

/-- The scale that an exponent stands for, no scale where the power of ten is not below the
limit. -/
def exponentScale? (exponent : List Char) : Option (Option Scale) :=
  let (negative, digits) := signed exponent
  if digits.isEmpty || !digits.all Char.isDigit then none
  else
    some <| (tenTo? (digitsValue digits)).map fun power =>
      if negative then ⟨1, power⟩ else ⟨power, 1⟩

/-- An exponent after the first `e`: the text before it and its scale. -/
def splitExponent? (q : List Char) : Option (List Char × Option Scale) :=
  match q.dropWhile (!isMark ·) with
  | [] => none
  | _ :: exponent => (exponentScale? exponent).map (q.takeWhile (!isMark ·), ·)

def split? (q : List Char) : Option (List Char × Option Scale) :=
  match splitTable? binarySuffixes q with
  | some (number, power) => some (number, some ⟨Nat.pow 1024 power, 1⟩)
  | none =>
    match splitExponent? q with
    | some split => some split
    | none =>
      match splitTable? decimalSuffixes q with
      | some (number, power) => some (number, some ⟨Nat.pow 1000 power, 1⟩)
      | none =>
        if q.all fun c => c.isDigit || c == '.' then some (q, some ⟨1, 1⟩) else none

def splitPoint (number : List Char) : List Char × List Char :=
  (number.takeWhile (· != '.'), (number.dropWhile (· != '.')).drop 1)

def divideUp (n d : Nat) : Nat := (n + d - 1) / d

/-- The digits of a fraction are counted in 32 bits. -/
def places (frac : List Char) : Nat := frac.length % Nat.pow 2 32

/-- The bytes that a scaled number stands for, none where an intermediate value is not below the
limit. -/
def bytes? (whole frac : List Char) (scale : Scale) : Option Nat := do
  let digits ← below? (digitsValue (whole ++ frac))
  let fracScale ← tenTo? (places frac)
  let numerator ← below? (digits * scale.numerator)
  let denominator ← below? (fracScale * scale.denominator)
  some (divideUp numerator denominator)

/-- The bytes that a quantity stands for; blanks around it do not count. -/
def parse (quantity : String) : Except Refusal Nat :=
  let q := Text.trimBy Text.isBlank quantity.toList
  let shown := String.ofList q
  if q.isEmpty then .error .empty
  else
    match split? q with
    | none => .error (.unknownSuffix shown)
    | some (_, none) => .error (.tooLarge shown)
    | some (number, some scale) =>
      let (whole, frac) := splitPoint number
      if whole.isEmpty && frac.isEmpty then .error (.missingNumber shown)
      else if !whole.all Char.isDigit || !frac.all Char.isDigit then .error (.invalidNumber shown)
      else
        match bytes? whole frac scale with
        | some n => .ok n
        | none => .error (.tooLarge shown)

def parseBytes (quantity : String) : Except Fault Nat := (parse quantity).mapError Refusal.fault

/-- A size with the largest binary suffix whose unit divides it. -/
def format (bytes : Nat) : String :=
  match binarySuffixes.reverse.find? fun (_, power) =>
      Nat.pow 1024 power ≤ bytes && bytes % Nat.pow 1024 power == 0 with
  | some (suffix, power) => toString (bytes / Nat.pow 1024 power) ++ suffix
  | none => toString bytes

end Quantity

end Recovery
