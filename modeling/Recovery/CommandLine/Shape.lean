import Recovery.CommandLine.Argument
import Recovery.CommandLine.Settings
/-!
# Reading the arguments of a command

Arguments are read from left to right. A value that stands in an argument of its own is kept back
and checked when the next parameter is read or the arguments end, so that an unknown argument after
it is what gets reported. Only then does the environment fill in what no argument gave, and only
then is anything missed.
-/
set_option autoImplicit false

namespace Recovery.CommandLine

structure Shape where
  parameters : List Parameter
  hasVersion : Bool
  commands : List String

inductive Meaning where
  | help
  | version
  | parameter (p : Parameter)

def Meaning.takesValue : Meaning → Bool
  | .parameter p => p.takesValue
  | _ => false

structure Progress where
  settings : Settings
  /-- The last parameter that takes a value, with the value if it came, not yet checked. -/
  pending : Option (Parameter × Option String)

namespace Progress

def start : Progress := ⟨[], none⟩

def awaitsValue (p : Progress) : Bool :=
  match p.pending with
  | some (_, none) => true
  | _ => false

/-- Checks what was kept back. -/
def settle (p : Progress) : Except Refusal Settings :=
  match p.pending with
  | none => .ok p.settings
  | some (q, none) => .error (.noValue q.name)
  | some (q, some written) => p.settings.put q (q.values written)

def use (p : Progress) (m : Meaning) (spelled : String) (attached : Option String) :
    Except Refusal Progress :=
  match m, attached with
  | .parameter q, some written =>
    if q.takesValue then do return ⟨← (← p.settle).put q (q.values written), none⟩
    else .error (.valueOfSwitch spelled written)
  | .parameter q, none =>
    if q.takesValue then do return ⟨← p.settle, some (q, none)⟩
    else do return ⟨← (← p.settle).put q [Parameter.given], none⟩
  | .help, none => do
    let _ ← p.settle
    .error .help
  | .version, none => do
    let _ ← p.settle
    .error .version
  | _, some written => .error (.valueOfSwitch spelled written)

end Progress

namespace Shape

def ofName? (shape : Shape) (name : String) : Option Meaning :=
  if name = "help" then some .help
  else if shape.hasVersion && name = "version" then some .version
  else (shape.parameters.find? (·.name = name)).map .parameter

def ofLetter? (shape : Shape) (c : Char) : Option Meaning :=
  if c = 'h' then some .help
  else if shape.hasVersion && c = 'V' then some .version
  else (shape.parameters.find? (·.letter = some c)).map .parameter

/-- Reads a group of letters; what follows one that takes a value is its value. -/
def readLetters (shape : Shape) (p : Progress) : List Char → Except Refusal Progress
  | [] => .ok p
  | c :: cs => do
    let spelled := String.ofList ['-', c]
    match shape.ofLetter? c with
    | none => .error (.unknownArgument spelled)
    | some m =>
      if m.takesValue then p.use m spelled (Argument.attached cs)
      else shape.readLetters (← p.use m spelled none) cs

def stray (shape : Shape) (argument : String) : Refusal :=
  if shape.commands.isEmpty then .unknownArgument argument else .unknownCommand argument

/-- The fault of an argument after the divider, where even a command is out of place. -/
def strayAfterDivider (shape : Shape) (argument : String) : Refusal :=
  if argument ∈ shape.commands then .unknownArgument argument else shape.stray argument

/-- Reads arguments up to their end or to the name of a command, which comes with what follows
it. -/
def readArguments (shape : Shape) :
    Progress → List String → Except Refusal (Progress × Option (String × List String))
  | p, [] => .ok (p, none)
  | p, argument :: rest => do
    if !p.awaitsValue && argument ∈ shape.commands then return (p, some (argument, rest))
    match Argument.read argument with
    | .divider =>
      match rest with
      | [] => return (p, none)
      | next :: _ => .error (shape.strayAfterDivider next)
    | .long name value =>
      let spelled := "--" ++ name
      match shape.ofName? name with
      | none => .error (.unknownArgument spelled)
      | some m => shape.readArguments (← p.use m spelled value) rest
    | .letters cs => shape.readArguments (← shape.readLetters p cs) rest
    | .plain text =>
      match p.pending with
      | some (q, none) => shape.readArguments { p with pending := some (q, some text) } rest
      | _ => .error (shape.stray text)

/-- Settings from the arguments, then from the environment, with nothing required left out. -/
def complete (shape : Shape) (environment : String → Option String) (p : Progress) :
    Except Refusal Settings := do
  let settings ← shape.parameters.foldlM (fun s q =>
    match s.has q.name, environment q.environment with
    | false, some written => s.put q (q.values written)
    | _, _ => .ok s) (← p.settle)
  match (shape.parameters.filter fun q => q.required && !settings.has q.name).map (·.name) with
  | [] => return settings
  | names => .error (.missing names)

end Shape

structure Program where
  shared : List Parameter
  commands : List (String × List Parameter)

namespace Program

def helpCommand : String := "help"

def names (program : Program) : List String := program.commands.map (·.1) ++ [helpCommand]

def environment (program : Program) : List String :=
  (program.shared ++ program.commands.flatMap (·.2)).map (·.environment)

def helpOn (program : Program) : List String → Refusal
  | [] => .help
  | [name] => if name ∈ program.names then .help else .unknownCommand name
  | name :: next :: _ => .unknownCommand (if name ∈ program.names then next else name)

def read (program : Program) (environment : String → Option String) (arguments : List String) :
    Except Refusal (Settings × String × Settings) := do
  let outer : Shape := ⟨program.shared, true, program.names⟩
  match ← outer.readArguments .start arguments with
  | (p, none) =>
    let settings ← outer.complete environment p
    .error (if settings.isEmpty then .nothingGiven else .noCommand)
  | (p, some (name, rest)) =>
    match program.commands.lookup name with
    | none => .error (program.helpOn rest)
    | some parameters =>
      let inner : Shape := ⟨parameters ++ program.shared, false, []⟩
      let (q, _) ← inner.readArguments .start rest
      let within ← inner.complete environment q
      return (← outer.complete environment p, name, within)

end Program

end Recovery.CommandLine
