import Recovery.Text.Split
/-!
# Arguments

The four ways to spell an argument. A lone hyphen is a plain one.
-/
set_option autoImplicit false

namespace Recovery.CommandLine

inductive Argument where
  /-- `--`, after which no argument is a parameter. -/
  | divider
  /-- `--name` or `--name=value`. -/
  | long (name : String) (value : Option String)
  /-- `-abc`: letters of parameters, the last of which may be followed by its value. -/
  | letters (cs : List Char)
  | plain (text : String)
deriving Repr, DecidableEq

namespace Argument

def ofChars : List Char → Argument
  | ['-', '-'] => .divider
  | '-' :: '-' :: cs =>
    let (name, value) := Text.splitOnce '=' cs
    .long (String.ofList name) (value.map String.ofList)
  | '-' :: c :: cs => .letters (c :: cs)
  | cs => .plain (String.ofList cs)

def read (argument : String) : Argument := ofChars argument.toList

def attached : List Char → Option String
  | [] => none
  | '=' :: cs => some (String.ofList cs)
  | cs => some (String.ofList cs)

end Argument

end Recovery.CommandLine
