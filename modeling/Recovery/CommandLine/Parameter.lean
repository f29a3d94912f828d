import Recovery.Instant
import Recovery.Text.Quoted
import Recovery.Text.Split
/-!
# Parameters of a command

What a command can be told by arguments or by environment variables, and why a command line is not
accepted. A value is refused either for not being one of the words that are allowed or for not
being of the form that is asked for.
-/
set_option autoImplicit false

namespace Recovery.CommandLine

inductive Refusal where
  | help
  | version
  | nothingGiven
  | noCommand
  | unknownCommand (name : String)
  | unknownArgument (argument : String)
  | missing (names : List String)
  | noValue (name : String)
  | notAllowed (name value : String)
  | malformed (name value : String)
  | repeated (name : String)
  | valueOfSwitch (name value : String)
deriving Repr, DecidableEq

namespace Refusal

def message : Refusal → String
  | .help => "help requested"
  | .version => "version requested"
  | .nothingGiven => "no command given"
  | .noCommand => "a command is required"
  | .unknownCommand name => "unknown command " ++ Text.quoted name
  | .unknownArgument argument => "unexpected argument " ++ Text.quoted argument
  | .missing names => "missing arguments: " ++ ", ".intercalate (names.map ("--" ++ ·))
  | .noValue name => "a value is required for --" ++ name
  | .notAllowed name value => "value " ++ Text.quoted value ++ " is not allowed for --" ++ name
  | .malformed name value => "value " ++ Text.quoted value ++ " cannot be read for --" ++ name
  | .repeated name => "--" ++ name ++ " cannot be given more than once"
  | .valueOfSwitch name value => "unexpected value " ++ Text.quoted value ++ " for " ++ name

end Refusal

inductive Form where
  | text
  /-- A path of a file or directory, not empty. -/
  | path
  | number (most : Nat)
  | instant
  | oneOf (words : List String)
deriving Repr, DecidableEq

def integer? (s : String) : Option Int :=
  let digits? := fun (cs : List Char) =>
    if !cs.isEmpty && cs.all Char.isDigit then (String.ofList cs).toNat? else none
  match s.toList with
  | '-' :: cs => (digits? cs).map fun n => -(n : Int)
  | '+' :: cs => (digits? cs).map Int.ofNat
  | cs => (digits? cs).map Int.ofNat

def numberUpTo? (most : Nat) (s : String) : Option Nat :=
  match integer? s with
  | some n => if 0 ≤ n ∧ n ≤ most then some n.toNat else none
  | none => none

def Form.check (form : Form) (name value : String) : Except Refusal Unit :=
  match form with
  | .text => .ok ()
  | .path => if value.isEmpty then .error (.noValue name) else .ok ()
  | .number most =>
    if (numberUpTo? most value).isSome then .ok () else .error (.malformed name value)
  | .instant =>
    if (Instant.read? value).isSome then .ok () else .error (.malformed name value)
  | .oneOf words => if value ∈ words then .ok () else .error (.notAllowed name value)

inductive Arity where
  /-- By its name alone, once. -/
  | switch
  /-- With one value, once. -/
  | single
  /-- With values between commas, any number of times. -/
  | many
deriving Repr, DecidableEq

structure Parameter where
  name : String
  letter : Option Char
  environment : String
  arity : Arity
  form : Form
  required : Bool
deriving Repr, DecidableEq

namespace Parameter

def single (name environment : String) (form : Form) : Parameter :=
  ⟨name, none, environment, .single, form, false⟩

def many (name environment : String) : Parameter := ⟨name, none, environment, .many, .text, false⟩

def given : String := "true"

/-- In the environment a switch is spelled out. -/
def switch (name environment : String) : Parameter :=
  ⟨name, none, environment, .switch, .oneOf [given, "false"], false⟩

def asRequired (p : Parameter) : Parameter := { p with required := true }

def takesValue (p : Parameter) : Bool := p.arity != .switch

def values (p : Parameter) (written : String) : List String :=
  match p.arity with
  | .many => (Text.split (· == ',') written.toList).map String.ofList
  | _ => [written]

end Parameter

end Recovery.CommandLine
