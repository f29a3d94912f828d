import Recovery.Document.Request
import Recovery.Document.Worker
import Recovery.Recipe.Recipe
import Recovery.Rehearsal.World
/-!
# The rehearsed cloud

The script has a list of outcomes for each call by name; each call takes the next one and the last
one repeats. Hosts and addresses have one outcome each. Random names are drawn one after another
and are shown without their random part, so that scripts and logs can refer to them.

Besides the recipes a rehearsal can have actions of its own that only say that they were reached,
and a worker of its own.
-/
set_option autoImplicit false

namespace Recovery

namespace Rehearsal

open Document

inductive StandInCall where
  | act (name : String) (shown : List (String × Json)) (outcome : Outcome Unit)
  | provision (options : WorkerOptions)
  | close
  | delete

def StandIns : Interface := ⟨StandInCall, fun _ => Unit⟩

abbrev Scripted : Interface := Cloud StandIns

abbrev ScriptedCall := CloudCall StandIns

/-! ## Calls -/

def objectKey : Kind → String
  | .snapshot => "snapshot"
  | kind => kind.noun

def callKey : ScriptedCall → String
  | .create _ object => "create_" ++ objectKey object.kind
  | .delete kind _ _ => "delete_" ++ objectKey kind
  | .findCluster _ _ => "get_cluster"
  | .findClaim _ _ => "get_pvc"
  | .readService _ _ => "get_service"
  | .await awaited _ _ => "wait_" ++ awaited.noun ++ "_ready"
  | .resolve _ _ => "resolve"
  | .probe _ => "probe"
  | .connect _ _ => "connect"
  | .request r => r.method.key
  | .closeClient => "close"
  | .drawSuffix => "draw"
  | .other (.act name _ _) => name
  | .other (.provision _) => "worker:provision"
  | .other .close => "worker:close"
  | .other .delete => "worker:delete"

def callFields : ScriptedCall → List (String × Json)
  | .create ns object => [("ns", .string ns), ("object", object.toJson)]
  | .delete _ ns name | .findCluster ns name | .findClaim ns name | .readService ns name =>
    [("ns", .string ns), ("name", .string name)]
  | .await awaited ns timeout =>
    [("ns", .string ns), ("name", .string awaited.name), ("timeout_ms", .natural timeout)]
  | .resolve host port | .connect host port => [("host", .string host), ("port", .natural port)]
  | .probe address => [("addr", .string address.text)]
  | .request r => [("request", .object r.fields)]
  | .other (.act _ shown _) => shown
  | .other (.provision options) => [("options", options.toJson)]
  | _ => []

def isDraw : ScriptedCall → Bool
  | .drawSuffix => true
  | _ => false

/-- The log of a rehearsal; draws are not shown. -/
def logJson (log : List (Entry Scripted)) : Json :=
  .array <| (log.filter fun e => !isDraw e.call).map fun e =>
    .object (("t", .natural e.instant) :: ("call", .string (callKey e.call)) :: callFields e.call)

/-! ## Random names -/

def drawn (n : Nat) : Suffix :=
  ⟨(27182818 + n * 1234577) % 60466176, Nat.mod_lt _ (Nat.zero_lt_succ _)⟩

/-- A text in which each of the suffixes after a hyphen is replaced by stars. -/
def maskChars (suffixes : List (List Char)) : (skip : Nat) → List Char → List Char
  | _, [] => []
  | skip + 1, _ :: cs => maskChars suffixes skip cs
  | 0, c :: cs =>
    if c == '-' && suffixes.contains (cs.take suffixLength) then
      c :: List.replicate suffixLength '*' ++ maskChars suffixes suffixLength cs
    else c :: maskChars suffixes 0 cs

def mask (draws : Nat) (s : String) : String :=
  String.ofList
    (maskChars ((List.range draws).map fun n => suffixText suffixLength (drawn n).val) 0 s.toList)

/-! ## Answers -/

/-- An outcome that cannot be read is a failure. -/
def orUnreadable {α : Type} (outcome : Option (Outcome α)) : Outcome α :=
  outcome.getD (.immediate (.error (.plain "unreadable outcome")))

def found {α : Type} [Json.Readable α] : Option Json → Option (Option α)
  | none => some none
  | some value => (Json.Readable.ofJson? value).map some

/-- The service that was asked for, by whatever name the script has it. -/
def namedService (ns name : String) (value : Option Json) : Option Service := do
  let s ← (value.map Json.Readable.ofJson?).getD (some Service.empty)
  return { s with metadata := { s.metadata with name := some name, namespace_ := some ns } }

def readySnapshot (name : String) (value : Option Json) : Option Snapshot :=
  match value with
  | some value => Json.Readable.ofJson? value
  | none =>
    some ⟨{ Metadata.empty with name := some name }, ⟨⟨none⟩, none⟩, some ⟨some true, none, none⟩⟩

def addresses (port : Nat) (value : Option Json) : Option (List Address) :=
  some (((value.bind Json.asArray?).getD []).filterMap fun ip =>
    (ip.asString?.bind Ip.ofText?).map (⟨·, port⟩))

def answer (script : Json) (history : List ScriptedCall) (c : ScriptedCall) :
    Outcome (CloudCall.Reply c) :=
  let key := callKey c
  let spec := nth (list script key) (history.countP (callKey · == key)) (.object [])
  match c with
  | .create _ _ => orUnreadable (quiet? spec)
  | .delete _ _ _ => orUnreadable (quiet? spec)
  | .findCluster _ _ => orUnreadable (outcome? found spec)
  | .findClaim _ _ => orUnreadable (outcome? found spec)
  | .readService ns name => orUnreadable (outcome? (namedService ns name) spec)
  | .await (.snapshot name) _ _ => orUnreadable (outcome? (readySnapshot name) spec)
  | .await (.cluster _) _ _ => orUnreadable (quiet? spec)
  | .await (.backup _) _ _ => orUnreadable (quiet? spec)
  | .await (.issuer _) _ _ => orUnreadable (quiet? spec)
  | .await (.certificate _) _ _ => orUnreadable (quiet? spec)
  | .await (.pod _) _ _ => orUnreadable (quiet? spec)
  | .await (.endpoints _) _ _ => orUnreadable (quiet? spec)
  | .resolve host port =>
    let host := mask (history.countP isDraw) host
    match field? (part script "resolve") host with
    | none => .immediate (.error (.notFound ("dns " ++ host) "NXDOMAIN"))
    | some spec => orUnreadable (outcome? (addresses port) spec)
  | .probe address =>
    match field? (part script "probe") address.ip.text with
    | none => .immediate (.ok false)
    | some spec => orUnreadable (outcome? (fun v => some (v.bind Json.asBool? == some true)) spec)
  | .connect _ _ => orUnreadable (quiet? spec)
  | .request _ => orUnreadable (quiet? spec)
  | .closeClient => orUnreadable (quiet? spec)
  | .drawSuffix => .immediate (.ok (drawn (history.countP isDraw)))
  | .other (.act _ _ outcome) => outcome
  | .other (.provision _) => orUnreadable (quiet? spec)
  | .other .close => orUnreadable (quiet? spec)
  | .other .delete => orUnreadable (quiet? spec)

end Rehearsal

end Recovery
