import Recovery.Json.Basic
/-!
# Tokens of JSON text

A text is cut into tokens up to its end or up to the first place where no token stands. A value
can be read, or it can only be passed over, which is less strict: an escaped surrogate then needs
no partner and a number has no greatest value. A token says what both ways make of it.
-/
set_option autoImplicit false

namespace Recovery

namespace Json

inductive ReadError where
  | unfinished
  | malformed
deriving Repr, DecidableEq

structure Damage where
  reading : ReadError
  skipping : ReadError
  choosing : ReadError
deriving Repr, DecidableEq

namespace Damage

def cut : Damage := ⟨.unfinished, .unfinished, .unfinished⟩

def stray : Damage := ⟨.malformed, .malformed, .malformed⟩

end Damage

inductive Token where
  | openArray
  | closeArray
  | openObject
  | closeObject
  | comma
  | colon
  /-- A string, none if it can only be passed over. -/
  | text (value : Option String)
  /-- A number or one of the three words, none if it can only be passed over. -/
  | atom (value : Option Json)
  | brokenText (damage : Damage)
  | brokenAtom (damage : Damage)
deriving Repr

namespace Token

def isBlank (c : Char) : Bool := c == ' ' || c == '\n' || c == '\t' || c == '\r'

/-! ## Strings -/

def hexDigit? (c : Char) : Option Nat :=
  if '0' ≤ c ∧ c ≤ '9' then some (c.toNat - '0'.toNat)
  else if 'a' ≤ c ∧ c ≤ 'f' then some (c.toNat - 'a'.toNat + 10)
  else if 'A' ≤ c ∧ c ≤ 'F' then some (c.toNat - 'A'.toNat + 10)
  else none

def shortEscape? (c : Char) : Option Char :=
  if c = '"' ∨ c = '\\' ∨ c = '/' then some c
  else if c = 'b' then some '\x08'
  else if c = 'f' then some '\x0c'
  else if c = 'n' then some '\n'
  else if c = 'r' then some '\r'
  else if c = 't' then some '\t'
  else none

inductive Place where
  | plain
  /-- After a backslash. -/
  | escape
  /-- Among the four digits of an escaped unit, after `count` of them; `high` is the surrogate
  that the unit completes. -/
  | unit (count value : Nat) (high : Option Nat)
  /-- After a high surrogate, where a backslash has to follow. -/
  | partner (high : Nat)
  /-- After a high surrogate and a backslash. -/
  | partnerEscape (high : Nat)

/-- What an escaped unit makes of a string: a character, or the first half of one, or neither.
With `strict` surrogates come in pairs; without, they stand for nothing. -/
def ofUnit (strict : Bool) (unit : Nat) (high : Option Nat) : Option (List Char × Place) :=
  if !strict then some ([Char.ofNat unit], .plain)
  else
    match high with
    | some high =>
      if 0xDC00 ≤ unit ∧ unit ≤ 0xDFFF then
        some ([Char.ofNat (0x10000 + (high - 0xD800) * 0x400 + (unit - 0xDC00))], .plain)
      else none
    | none =>
      if 0xD800 ≤ unit ∧ unit ≤ 0xDBFF then some ([], .partner unit)
      else if 0xDC00 ≤ unit ∧ unit ≤ 0xDFFF then none
      else some ([Char.ofNat unit], .plain)

def unitError (count : Nat) (cs : List Char) : ReadError :=
  if count + (String.ofList (cs.take 4)).utf8ByteSize < 4 then .unfinished else .malformed

/-- The rest of a string literal, and what follows its closing quote. `done` is what has been
read, the last character first. -/
def scan (strict : Bool) : Place → (done : List Char) → List Char →
    Except ReadError (List Char × List Char)
  | _, _, [] => .error .unfinished
  | .plain, done, c :: rest =>
    if c = '"' then .ok (done.reverse, rest)
    else if c = '\\' then scan strict .escape done rest
    else if c.toNat < 0x20 then .error .malformed
    else scan strict .plain (c :: done) rest
  | .escape, done, c :: rest =>
    if c = 'u' then scan strict (.unit 0 0 none) done rest
    else
      match shortEscape? c with
      | some e => scan strict .plain (e :: done) rest
      | none => .error .malformed
  | .unit count value high, done, c :: rest =>
    match hexDigit? c with
    | none => .error (unitError count (c :: rest))
    | some digit =>
      if count < 3 then scan strict (.unit (count + 1) (value * 16 + digit) high) done rest
      else
        match ofUnit strict (value * 16 + digit) high with
        | some (cs, place) => scan strict place (cs ++ done) rest
        | none => .error .malformed
  | .partner high, done, c :: rest =>
    if c = '\\' then scan strict (.partnerEscape high) done rest else .error .malformed
  | .partnerEscape high, done, c :: rest =>
    if c = 'u' then scan strict (.unit 0 0 (some high)) done rest else .error .malformed

theorem scan_length {strict : Bool} {place : Place} {done cs text rest : List Char}
    (h : scan strict place done cs = .ok (text, rest)) : rest.length < cs.length := by
  fun_induction scan strict place done cs <;> grind

def string (cs : List Char) : Token × List Char :=
  match scan true .plain [] cs with
  | .ok (content, rest) => (.text (some (String.ofList content)), rest)
  | .error reading =>
    match scan false .plain [] cs with
    | .ok (_, rest) => (.text none, rest)
    | .error skipping => (.brokenText ⟨reading, skipping, reading⟩, [])

/-! ## Numbers and words -/

def decimalValue (digits : List Char) : Nat :=
  digits.foldl (fun n d => n * 10 + (d.toNat - '0'.toNat)) 0

def digits (cs : List Char) : Except ReadError (List Char × List Char) :=
  if (cs.takeWhile Char.isDigit).isEmpty then
    .error (if cs.isEmpty then .unfinished else .malformed)
  else .ok (cs.takeWhile Char.isDigit, cs.dropWhile Char.isDigit)

theorem digits_length {cs ds rest : List Char} (h : digits cs = .ok (ds, rest)) :
    rest.length < cs.length := by
  unfold digits at h
  split at h
  · cases h
  · rename_i hne
    cases h
    have := congrArg List.length (List.takeWhile_append_dropWhile (p := Char.isDigit) (l := cs))
    have : (cs.takeWhile Char.isDigit).length ≠ 0 := by simpa using hne
    simp only [List.length_append] at *
    omega

def fraction : List Char → Except ReadError (List Char × List Char)
  | '.' :: rest => digits rest
  | rest => .ok ([], rest)

theorem fraction_length {cs ds rest : List Char} (h : fraction cs = .ok (ds, rest)) :
    rest.length ≤ cs.length := by
  unfold fraction at h
  split at h
  · exact Nat.le_succ_of_le (Nat.le_of_lt (digits_length h))
  · cases h
    exact Nat.le_refl _

def sign : List Char → List Char × List Char
  | '+' :: rest => (['+'], rest)
  | '-' :: rest => (['-'], rest)
  | rest => ([], rest)

theorem sign_length (cs : List Char) : (sign cs).2.length ≤ cs.length := by
  unfold sign
  split <;> simp

def exponent : List Char → Except ReadError ((List Char × List Char) × List Char)
  | c :: rest =>
    if c = 'e' ∨ c = 'E' then
      let (s, rest) := sign rest
      (digits rest).map fun (ds, rest) => ((s, ds), rest)
    else .ok (([], []), c :: rest)
  | [] => .ok (([], []), [])

theorem exponent_length {cs rest : List Char} {e : List Char × List Char}
    (h : exponent cs = .ok (e, rest)) : rest.length ≤ cs.length := by
  unfold exponent at h
  split at h
  · rename_i c tail
    split at h
    · simp only [Except.map] at h
      split at h
      · cases h
      · rename_i hd
        cases h
        have := digits_length hd
        have := sign_length tail
        simp only [List.length_cons]
        omega
    · cases h
      exact Nat.le_refl _
  · cases h
    exact Nat.le_refl _

structure Numeral where
  minus : Bool
  whole : List Char
  fraction : List Char
  exponent : List Char × List Char

/-- A numeral at the head of the text, after the minus if it has one: no leading zeros. -/
def unsigned (minus : Bool) (cs : List Char) : Except ReadError (Numeral × List Char) :=
  match digits cs with
  | .error e => .error e
  | .ok (whole, rest) =>
    if whole.head? = some '0' ∧ whole.length > 1 then .error .malformed
    else
      match fraction rest with
      | .error e => .error e
      | .ok (fraction, rest) =>
        (exponent rest).map fun (exponent, rest) => (⟨minus, whole, fraction, exponent⟩, rest)

def numeral : List Char → Except ReadError (Numeral × List Char)
  | '-' :: rest => unsigned true rest
  | rest => unsigned false rest

theorem unsigned_length {minus : Bool} {cs rest : List Char} {n : Numeral}
    (h : unsigned minus cs = .ok (n, rest)) : rest.length < cs.length := by
  unfold unsigned at h
  split at h
  · cases h
  · rename_i hd
    split at h
    · cases h
    · split at h
      · cases h
      · rename_i hf
        simp only [Except.map] at h
        split at h
        · cases h
        · rename_i he
          cases h
          exact Nat.lt_of_le_of_lt (exponent_length he)
            (Nat.lt_of_le_of_lt (fraction_length hf) (digits_length hd))

theorem numeral_length {cs rest : List Char} {n : Numeral} (h : numeral cs = .ok (n, rest)) :
    rest.length < cs.length := by
  unfold numeral at h
  split at h
  · exact Nat.lt_succ_of_lt (unsigned_length h)
  · exact unsigned_length h

/-- The least number that is too great for double precision: half a step above the greatest. -/
def greatness : Nat := Nat.pow 2 1024 - Nat.pow 2 970

/-- Whether `significand * 10 ^ scale` is too great. Only a number of 309 digits before its point
has to be looked at closely. -/
def isTooGreat (significand : Nat) (scale : Int) : Bool :=
  let places := (Nat.toDigits 10 significand).length + scale
  if significand == 0 then false
  else if places < 309 then false
  else if 309 < places then true
  else if 0 ≤ scale then greatness ≤ significand * Nat.pow 10 scale.toNat
  else greatness * Nat.pow 10 scale.natAbs ≤ significand

def isWord (n : Int) : Bool := -9223372036854775808 ≤ n && n ≤ 18446744073709551615

namespace Numeral

def isTooGreat (n : Numeral) : Bool :=
  let power : Int := decimalValue n.exponent.2
  Token.isTooGreat (decimalValue (n.whole ++ n.fraction))
    ((if n.exponent.1 = ['-'] then -power else power) - n.fraction.length)

/-- The whole number that is meant, unless it is spelled as a decimal one. There is no whole
number `-0`. -/
def whole? (n : Numeral) : Option Int :=
  if n.fraction.isEmpty && n.exponent.2.isEmpty && !(n.minus && n.whole == ['0']) then
    some (if n.minus then -decimalValue n.whole else decimalValue n.whole)
  else none

def spelling (n : Numeral) : String :=
  String.ofList <| (if n.minus then ['-'] else []) ++ n.whole ++
    '.' :: (if n.fraction.isEmpty then ['0'] else n.fraction) ++
    (if n.exponent.2.isEmpty then [] else 'e' :: n.exponent.1 ++ n.exponent.2)

/-- The value, if it is not too great. A whole number that 64 bits do not hold is a decimal
one. -/
def value? (n : Numeral) : Option Json :=
  if n.isTooGreat then none
  else
    match n.whole?.filter isWord with
    | some value => some (.integer value)
    | none => some (.decimal n.spelling)

end Numeral

def numberToken (cs : List Char) : Token × List Char :=
  match numeral cs with
  | .ok (n, rest) => (.atom n.value?, rest)
  | .error e => (.brokenAtom ⟨e, .malformed, .malformed⟩, [])

def wordToken (word : String) (value : Json) (cs : List Char) : Token × List Char :=
  if word.toList.isPrefixOf cs then (.atom (some value), cs.drop word.length)
  else if cs.isPrefixOf word.toList then
    (.brokenAtom ⟨.unfinished, .unfinished, .malformed⟩, [])
  else (.brokenAtom .stray, [])

/-! ## All tokens -/

def mark? (c : Char) : Option Token :=
  if c = '[' then some .openArray
  else if c = ']' then some .closeArray
  else if c = '\x7b' then some .openObject
  else if c = '\x7d' then some .closeObject
  else if c = ',' then some .comma
  else if c = ':' then some .colon
  else none

def head (c : Char) (tail : List Char) : Token × List Char :=
  match mark? c with
  | some token => (token, tail)
  | none =>
    if c = '"' then string tail
    else if c = 'n' then wordToken "null" .null (c :: tail)
    else if c = 't' then wordToken "true" (.bool true) (c :: tail)
    else if c = 'f' then wordToken "false" (.bool false) (c :: tail)
    else if c = '-' || c.isDigit then numberToken (c :: tail)
    else (.brokenAtom .stray, [])

theorem string_length (cs : List Char) : (string cs).2.length ≤ cs.length := by
  unfold string
  split
  · rename_i h
    exact Nat.le_of_lt (scan_length h)
  · split
    · rename_i h
      exact Nat.le_of_lt (scan_length h)
    · simp

theorem wordToken_length {word : String} (h : 0 < word.length) (value : Json) (c : Char)
    (tail : List Char) : (wordToken word value (c :: tail)).2.length ≤ tail.length := by
  unfold wordToken
  split
  · simp only [List.length_drop, List.length_cons]
    omega
  · split <;> simp

theorem numberToken_length (c : Char) (tail : List Char) :
    (numberToken (c :: tail)).2.length ≤ tail.length := by
  unfold numberToken
  split
  · rename_i h
    exact Nat.le_of_lt_succ (numeral_length h)
  · simp

theorem head_length (c : Char) (tail : List Char) : (head c tail).2.length ≤ tail.length := by
  unfold head
  repeat' split
  all_goals first
    | exact Nat.le_refl _
    | exact string_length tail
    | exact wordToken_length (by decide) _ c tail
    | exact numberToken_length c tail
    | exact Nat.zero_le _

def all (cs : List Char) : List Token :=
  match cs with
  | [] => []
  | c :: tail =>
    if isBlank c then all tail
    else
      have := head_length c tail
      (head c tail).1 :: all (head c tail).2
termination_by cs.length

end Token

end Json

end Recovery
