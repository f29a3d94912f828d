import Recovery.Command.Backup
import Recovery.Command.Restore
/-!
# What a command line asks for
-/
set_option autoImplicit false

namespace Recovery

open CommandLine

inductive Command where
  | backup (b : BackupCommand)
  | restore (r : RestoreCommand)
deriving Repr, DecidableEq

namespace Command

def name : Command → String
  | .backup _ => "backup"
  | .restore _ => "restore"

def site : Command → Site
  | .backup b => b.site
  | .restore r => r.site

def direction : Command → Rpc.SyncDirection
  | .backup _ => .upload
  | .restore _ => .download

def objection? (c : Command) (files : String → Option String) : Option Objection :=
  match c with
  | .backup b =>
    match b.prepare files with
    | .ok _ => none
    | .error o => some o
  | .restore r =>
    match r.prepare files with
    | .ok _ => none
    | .error o => some o

end Command

structure Invocation where
  logJson : Bool
  command : Command
deriving Repr, DecidableEq

namespace Invocation

def program : Program where
  shared := [.switch "log-json" "KUBEDR_LOG_JSON"]
  commands := [("backup", BackupCommand.parameters), ("restore", RestoreCommand.parameters)]

/-- A switch counts wherever it stands. -/
def read (environment : String → Option String) (arguments : List String) :
    Except Refusal Invocation := do
  let (outer, name, within) ← program.read environment arguments
  return {
    logJson := outer.switch "log-json" || within.switch "log-json"
    command :=
      if name = "restore" then .restore (.ofSettings within) else .backup (.ofSettings within) }

end Invocation

end Recovery
