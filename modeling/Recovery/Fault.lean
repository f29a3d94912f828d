import Recovery.Text.Quoted
/-!
# Faults

Why an operation failed. A fault names the resource or the operation it concerns; the wrapping
faults (`phase`, `context`, `aggregate`) keep what they wrap, so that a failed cleanup hides
neither the failure it was unwinding nor is hidden by it.
-/
set_option autoImplicit false

namespace Recovery

inductive Phase where
  | validate
  | setup
  | execute
  | cleanup
deriving Repr, DecidableEq

def Phase.name : Phase → String
  | .validate => "validate"
  | .setup => "setup"
  | .execute => "execute"
  | .cleanup => "cleanup"

inductive ApiFault where
  | refused (status message reason : String) (code : Nat)
  | brokenStream (message : String)
  | transport (message : String)
  | unbuilt (message : String)
  | unreadable (detail : String)
deriving Repr, DecidableEq

def ApiFault.message : ApiFault → String
  | .refused status message reason code =>
    "ApiError: " ++ message ++ ": " ++ reason ++ " (ErrorResponse \x7b status: " ++
      Text.quoted status ++ ", message: " ++ Text.quoted message ++ ", reason: " ++
      Text.quoted reason ++ ", code: " ++ toString code ++ " \x7d)"
  | .brokenStream message => "Error reading events stream: " ++ message
  | .transport message => "ServiceError: " ++ message
  | .unbuilt message => "Failed to build request: " ++ message
  | .unreadable detail => "Error deserializing response: " ++ detail

def ApiFault.isNotFound : ApiFault → Bool
  | .refused _ _ _ code => code == 404
  | _ => false

inductive Fault where
  | kube (cause : ApiFault)
  | validation (resource message : String)
  | precondition (resource message : String)
  | timeout (resource message : String)
  | cancelled (context : String)
  | notFound (resource message : String)
  /-- A source of resources holds another kind than the one declared. -/
  | typeMismatch (expected found : String)
  | rpc (operation message : String)
  | phase (phase : Phase) (action : String) (source : Fault)
  /-- The operation and resource that the fault passed through. -/
  | context (context : String) (source : Fault)
  | aggregate (errors : List Fault)
  | internal (message context : String)
deriving Repr, Inhabited

namespace Fault

mutual

/-- The text shown to an operator; that of a wrapping fault holds those of all it wraps. -/
def message : Fault → String
  | .kube cause => "kubernetes error: " ++ cause.message
  | .validation resource message => "validation error for " ++ resource ++ ": " ++ message
  | .precondition resource message => "precondition failed for " ++ resource ++ ": " ++ message
  | .timeout resource message => "timed out waiting for " ++ resource ++ ": " ++ message
  | .cancelled what => "cancelled: " ++ what
  | .notFound resource message => "not found: " ++ resource ++ ": " ++ message
  | .typeMismatch expected found => "type mismatch: expected " ++ expected ++ ", got " ++ found
  | .rpc operation message => "worker rpc " ++ operation ++ " failed: " ++ message
  | .phase p action source =>
    p.name ++ " failed for action " ++ action ++ ": " ++ source.message
  | .context doing source => doing ++ ": " ++ source.message
  | .aggregate errors => toString errors.length ++ " errors occurred: " ++ bracketed errors
  | .internal message place => "internal error [" ++ place ++ "]: " ++ message

def bracketed : List Fault → String
  | [] => ""
  | [e] => "[" ++ e.message ++ "]"
  | e :: next :: rest => "[" ++ e.message ++ "]; " ++ bracketed (next :: rest)

end

theorem message_phase (p : Phase) (action : String) (e : Fault) :
    (Fault.phase p action e).message =
      p.name ++ " failed for action " ++ action ++ ": " ++ e.message := rfl

theorem message_context (doing : String) (e : Fault) :
    (Fault.context doing e).message = doing ++ ": " ++ e.message := rfl

theorem message_aggregate (es : List Fault) :
    (Fault.aggregate es).message =
      toString es.length ++ " errors occurred: " ++ bracketed es := rfl

theorem bracketed_singleton (e : Fault) : bracketed [e] = "[" ++ e.message ++ "]" := rfl

theorem bracketed_cons_cons (e next : Fault) (rest : List Fault) :
    bracketed (e :: next :: rest) = "[" ++ e.message ++ "]; " ++ bracketed (next :: rest) := rfl

def unknownContext : String := "unknown"

def plain (message : String) : Fault := .internal message unknownContext

def deadlineExceeded (what : String) : Fault := .timeout what "deadline exceeded"

def errors : Fault → List Fault
  | .aggregate errors => errors
  | e => [e]

@[simp] theorem errors_aggregate (es : List Fault) : (Fault.aggregate es).errors = es := rfl

/-- The one fault that stands for a list of faults, none for the empty list. Aggregates in the
list are replaced by their members. -/
def ofList? (faults : List Fault) : Option Fault :=
  match faults.flatMap errors with
  | [] => none
  | [e] => some e
  | es => some (.aggregate es)

@[simp] theorem ofList?_nil : ofList? [] = none := rfl

/-- An earlier fault and a later one; neither hides the other. -/
def join (earlier later : Fault) : Fault :=
  (ofList? [earlier, later]).getD (plain "empty aggregate")

def isNotFound : Fault → Bool
  | .notFound _ _ => true
  | .kube cause => cause.isNotFound
  | .phase _ _ source => source.isNotFound
  | .context _ source => source.isNotFound
  | _ => false

def isTimeout : Fault → Bool
  | .timeout _ _ => true
  | .phase _ _ source => source.isTimeout
  | .context _ source => source.isTimeout
  | _ => false

mutual

/-- The phase and action that a fault blames; of an aggregate, those of its first member that
blames any. -/
def failedPhase : Fault → Option (Phase × String)
  | .phase p action _ => some (p, action)
  | .aggregate errors => firstFailedPhase errors
  | .context _ source => source.failedPhase
  | _ => none

def firstFailedPhase : List Fault → Option (Phase × String)
  | [] => none
  | e :: es => e.failedPhase.or (firstFailedPhase es)

end

def firstMissing? (resource : String) (fields : List (String × String)) : Option Fault :=
  (fields.find? fun (_, value) => value.isEmpty).map fun (field, _) =>
    .validation resource (field ++ " is required")

def require (resource : String) (fields : List (String × String)) : Except Fault Unit :=
  match firstMissing? resource fields with
  | some fault => .error fault
  | none => .ok ()

def during {α : Type} (context : String) (result : Except Fault α) : Except Fault α :=
  result.mapError (Fault.context context)

def foldInto {α : Type} (result : Except Fault α) (later : Fault) : Except Fault α :=
  match result with
  | .ok _ => .error later
  | .error earlier => .error (join earlier later)

end Fault

end Recovery
