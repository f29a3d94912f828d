import Recovery.Text.Blank
/-!
# Instants and their RFC 3339 text

An instant is a number of seconds since the start of 1970 in UTC and a part of a second in
nanoseconds. The calendar is the Gregorian one for all years, with the year counted from March so
that a leap day is the last day of its year.
-/
set_option autoImplicit false

namespace Recovery

structure Instant where
  seconds : Int
  /-- Below 10^9, or below 2 * 10^9 in a leap second. -/
  nanos : Nat
deriving Repr, DecidableEq

structure Date where
  year : Int
  month : Nat
  day : Nat
deriving Repr, DecidableEq

namespace Date

/-- Days from the first of March of the year 0 to the start of 1970. -/
def epochDays : Int := 719468

def daysInEra : Nat := 146097

/-- The year within an era of 400 years, counted from March, of a day of the era. -/
def yearOfEra (dayOfEra : Nat) : Nat :=
  (dayOfEra - dayOfEra / 1460 + dayOfEra / 36524 - dayOfEra / 146096) / 365

def startOfYear (yearOfEra : Nat) : Nat := 365 * yearOfEra + yearOfEra / 4 - yearOfEra / 100

def startOfMonth (month : Nat) : Nat := (153 * month + 2) / 5

def ofDays (days : Int) : Date :=
  let shifted := days + epochDays
  let era := shifted.fdiv daysInEra
  let dayOfEra := (shifted.fmod daysInEra).toNat
  let year := yearOfEra dayOfEra
  let dayOfYear := dayOfEra - startOfYear year
  let month := (5 * dayOfYear + 2) / 153
  { year := era * 400 + year + if month < 10 then 0 else 1
    month := if month < 10 then month + 3 else month - 9
    day := dayOfYear - startOfMonth month + 1 }

def toDays (d : Date) : Int :=
  let year := if d.month ≤ 2 then d.year - 1 else d.year
  let month := if d.month ≤ 2 then d.month + 9 else d.month - 3
  let era := year.fdiv 400
  let yearOfEra := (year.fmod 400).toNat
  era * daysInEra + startOfYear yearOfEra + startOfMonth month + (d.day - 1 : Nat) - epochDays

def isLeap (year : Int) : Bool :=
  year % 4 == 0 && (year % 100 != 0 || year % 400 == 0)

def daysInMonth (year : Int) (month : Nat) : Nat :=
  if month == 2 then if isLeap year then 29 else 28
  else if month == 4 || month == 6 || month == 9 || month == 11 then 30
  else 31

def isValid (d : Date) : Bool :=
  -262143 ≤ d.year && d.year ≤ 262142 && 1 ≤ d.month && d.month ≤ 12 && 1 ≤ d.day &&
    d.day ≤ daysInMonth d.year d.month

end Date

namespace Instant

def secondsPerDay : Nat := 86400

def nanosPerSecond : Nat := 1000000000

def date (t : Instant) : Date := Date.ofDays (t.seconds.fdiv secondsPerDay)

def secondOfDay (t : Instant) : Nat := (t.seconds.fmod secondsPerDay).toNat

def padded (width n : Nat) : List Char :=
  let digits := Nat.toDigits 10 n
  List.replicate (width - digits.length) '0' ++ digits

def yearText (year : Int) : List Char :=
  if 0 ≤ year ∧ year ≤ 9999 then padded 4 year.toNat
  else (if year < 0 then '-' else '+') :: padded 4 year.natAbs

inductive Fraction where
  | omitted
  /-- 0, 3, 6 or 9 digits, the fewest that are exact. -/
  | fewest
  /-- Always 6 digits. -/
  | micros
deriving Repr, DecidableEq

def Fraction.text (f : Fraction) (nanos : Nat) : List Char :=
  match f with
  | .omitted => []
  | .micros => '.' :: padded 6 (nanos / 1000)
  | .fewest =>
    if nanos = 0 then []
    else if nanos % 1000000 = 0 then '.' :: padded 3 (nanos / 1000000)
    else if nanos % 1000 = 0 then '.' :: padded 6 (nanos / 1000)
    else '.' :: padded 9 nanos

def chars (mark : Char) (f : Fraction) (t : Instant) : List Char :=
  let d := t.date
  let s := t.secondOfDay
  let leap := t.nanos / nanosPerSecond
  yearText d.year ++ '-' :: padded 2 d.month ++ '-' :: padded 2 d.day ++
    'T' :: padded 2 (s / 3600) ++ mark :: padded 2 (s / 60 % 60) ++
    mark :: padded 2 (s % 60 + leap) ++ f.text (t.nanos % nanosPerSecond) ++ ['Z']

def text (f : Fraction) (t : Instant) : String := String.ofList (chars ':' f t)

/-! ## Reading -/

def number? (most : Option Nat) (cs : List Char) : Option (Nat × List Char) :=
  let digits := cs.takeWhile Char.isDigit
  let digits := (most.map digits.take).getD digits
  if digits.isEmpty then none
  else
    some (digits.foldl (fun n d => n * 10 + (d.toNat - '0'.toNat)) 0, cs.drop digits.length)

def skipBlanks (cs : List Char) : List Char := cs.dropWhile Text.isBlank

def literal? (c : Char) (cs : List Char) : Option (List Char) :=
  match skipBlanks cs with
  | head :: rest => if head = c then some rest else none
  | [] => none

def year? (cs : List Char) : Option (Int × List Char) :=
  match skipBlanks cs with
  | '-' :: rest => (number? none rest).map fun (n, rest) => (-(n : Int), rest)
  | '+' :: rest => (number? none rest).map fun (n, rest) => ((n : Int), rest)
  | rest => (number? (some 4) rest).map fun (n, rest) => ((n : Int), rest)

def two? (cs : List Char) : Option (Nat × List Char) := number? (some 2) (skipBlanks cs)

/-- The part of a second in nanoseconds; digits after the ninth do not count. -/
def fraction? (cs : List Char) : Option (Nat × List Char) :=
  match cs with
  | '.' :: rest =>
    (number? (some 9) rest).map fun (n, _) =>
      let digits := rest.takeWhile Char.isDigit
      (n * Nat.pow 10 (9 - digits.length), rest.drop digits.length)
  | _ => some (0, cs)

def isZone (c : Char) : Bool := c == ':' || Text.isBlank c

def offset? (cs : List Char) : Option (Int × List Char) :=
  match skipBlanks cs with
  | [] => none
  | c :: rest =>
    if c = 'Z' ∨ c = 'z' then some (0, rest)
    else if ((c :: rest).take 3).map Char.toUpper = "UTC".toList then some (0, rest.drop 2)
    else if c = '+' ∨ c = '-' ∨ c = '\u2212' then
      match rest with
      | h :: h' :: rest =>
        match rest.dropWhile isZone with
        | m :: m' :: rest =>
          if [h, h', m, m'].all Char.isDigit && m.toNat < '6'.toNat then
            let value := fun a b : Char => (a.toNat - 48) * 10 + (b.toNat - 48)
            let minutes : Int := value h h' * 60 + value m m'
            some (if c = '+' then minutes else -minutes, rest)
          else none
        | _ => none
      | _ => none
    else none

def dateSeparator? : List Char → Option (List Char)
  | c :: rest => if c = 't' ∨ c = 'T' ∨ c = ' ' then some rest else none
  | [] => none

/-- Reads an instant with any offset from UTC. A second 60 is a leap second and counts with the
one before it. -/
def read? (s : String) : Option Instant := do
  let (year, cs) ← year? s.toList
  let cs ← literal? '-' cs
  let (month, cs) ← two? cs
  let cs ← literal? '-' cs
  let (day, cs) ← two? cs
  let cs ← dateSeparator? cs
  let (hour, cs) ← two? cs
  let cs ← literal? ':' cs
  let (minute, cs) ← two? cs
  let cs ← literal? ':' cs
  let (second, cs) ← two? cs
  let (nanos, cs) ← fraction? cs
  let (offset, cs) ← offset? cs
  let d : Date := ⟨year, month, day⟩
  if (skipBlanks cs).isEmpty && d.isValid && hour < 24 && minute < 60 && second ≤ 60 &&
      offset.natAbs < 1440 then
    let local_ : Int :=
      d.toDays * secondsPerDay + (hour * 3600 + minute * 60 + min second 59 : Nat)
    let t : Instant :=
      ⟨local_ - offset * 60, nanos + if second = 60 then nanosPerSecond else 0⟩
    if t.date.isValid then some t else none
  else none

def isLeap (t : Instant) : Bool := nanosPerSecond ≤ t.nanos

/-- The leap seconds, forwards or backwards, that are passed between two instants: the one that an
instant lies in counts when the time of day goes on to, or comes from, later seconds. -/
def leapsUntil (a b : Instant) : Int :=
  if a.secondOfDay < b.secondOfDay then if a.isLeap then 1 else 0
  else if b.secondOfDay < a.secondOfDay then if b.isLeap then -1 else 0
  else 0

def nanosUntil (a b : Instant) : Int :=
  (b.seconds - a.seconds + leapsUntil a b) * nanosPerSecond + ((b.nanos : Int) - a.nanos)

end Instant

end Recovery
