import Recovery.CommandLine.Usage
import Recovery.Document.Command
import Recovery.Json.Printer
/-!
# Checking command lines

Reads a command line, the environment variables it may leave its parameters to and the file of
timeouts, and prints what they ask for, or why a command cannot start.
-/
set_option autoImplicit false

namespace Recovery

def readEnvironment (names : List String) : IO (List (String × String)) :=
  names.filterMapM fun name => do
    return (← IO.getEnv name).map (name, ·)

def readFile? (path : String) : IO (Option String) := do
  try return some (← IO.FS.readFile path)
  catch _ => return none

def check (i : Invocation) : IO UInt32 := do
  let content ← i.command.site.timeoutsFile.bindM readFile?
  let files := fun path => if some path = i.command.site.timeoutsFile then content else none
  match i.command.objection? files with
  | some o =>
    IO.eprintln ("kubedr: " ++ o.message)
    return 1
  | none =>
    IO.println (Json.object (i.fields files)).render
    return 0

end Recovery

open Recovery in
def main (arguments : List String) : IO UInt32 := do
  let environment ← readEnvironment Invocation.program.environment
  match Invocation.read (fun name => environment.lookup name) arguments with
  | .ok i => check i
  | .error .help =>
    IO.println Invocation.program.usage
    return 0
  | .error .version =>
    IO.println "kubedr 0.1.0"
    return 0
  | .error r =>
    IO.eprintln ("kubedr: " ++ r.message)
    return 2
