import Recovery.Text.Percent
/-!
# Targets of requests

A target is written as a path and, after a question mark, the pairs of a form. What follows a
number sign does not belong to it.
-/
set_option autoImplicit false

namespace Recovery

namespace Http

structure Target where
  path : String
  query : List (String × String)
deriving Repr, DecidableEq

namespace Target

inductive Objection where
  | tooLong
  | strayCharacter
deriving Repr, DecidableEq

def Objection.message : Objection → String
  | .tooLong => "uri too long"
  | .strayCharacter => "invalid uri character"

def greatestLength : Nat := 65534

/-- Characters that a query may hold: all but blanks, controls, quotes and angles. -/
def isQueryChar (c : Char) : Bool :=
  let n := c.toNat
  n == 0x21 || (0x24 ≤ n && n ≤ 0x3B) || n == 0x3D || (0x3F ≤ n && n ≤ 0x7E) || 0x80 ≤ n

/-- Characters that a path may hold: quotes too, but no backtick. -/
def isPathChar (c : Char) : Bool := (isQueryChar c && c != '?' && c != '`') || c == '"'

def precedes (a b : String × String) : Bool := a.1 < b.1 || (a.1 == b.1 && !(b.2 < a.2))

def ofText (text : String) : Except Objection Target :=
  let (path, query) := Text.splitOnce '?' (Text.splitOnce '#' text.toList).1
  let query := query.getD []
  if greatestLength < text.utf8ByteSize then .error .tooLong
  else if path.all isPathChar && query.all isQueryChar then
    .ok ⟨String.ofList path, (Text.Percent.pairs query).mergeSort precedes⟩
  else .error .strayCharacter

def join (path : String) (pairs : List (String × String)) : String :=
  path ++ "?" ++ String.ofList (pairs.flatMap fun (name, value) =>
    '&' :: Text.Percent.encodeForm name ++ '=' :: Text.Percent.encodeForm value)

end Target

end Http

end Recovery
