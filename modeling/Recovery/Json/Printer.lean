import Recovery.Json.Basic
/-!
# Writing JSON text

The compact form: no blanks, fields in the order they are held.
-/
set_option autoImplicit false

namespace Recovery

namespace Json

def hexDigit (n : Nat) : Char :=
  if n < 10 then Char.ofNat ('0'.toNat + n) else Char.ofNat ('a'.toNat + (n - 10))

/-- A control character is written by its short escape, or by four hexadecimal digits where it
has none; a quote and a backslash are escaped; every other character stands for itself. -/
def escapeChar (c : Char) : List Char :=
  if c = '"' then ['\\', '"']
  else if c = '\\' then ['\\', '\\']
  else if c = '\x08' then ['\\', 'b']
  else if c = '\t' then ['\\', 't']
  else if c = '\n' then ['\\', 'n']
  else if c = '\x0c' then ['\\', 'f']
  else if c = '\r' then ['\\', 'r']
  else if c.toNat < 0x20 then
    ['\\', 'u', '0', '0', hexDigit (c.toNat / 16), hexDigit (c.toNat % 16)]
  else [c]

def quote (s : String) : String :=
  "\"" ++ String.ofList (s.toList.flatMap escapeChar) ++ "\""

mutual

def render : Json → String
  | .null => "null"
  | .bool true => "true"
  | .bool false => "false"
  | .integer n => toString n
  | .decimal spelling => spelling
  | .string s => quote s
  | .array [] => "[]"
  | .array (x :: xs) => "[" ++ x.render ++ renderItems xs ++ "]"
  | .object [] => "\x7b\x7d"
  | .object ((name, x) :: fs) =>
    "\x7b" ++ quote name ++ ":" ++ x.render ++ renderFields fs ++ "\x7d"

def renderItems : List Json → String
  | [] => ""
  | x :: xs => "," ++ x.render ++ renderItems xs

def renderFields : List (String × Json) → String
  | [] => ""
  | (name, x) :: fs => "," ++ quote name ++ ":" ++ x.render ++ renderFields fs

end

end Json

end Recovery
