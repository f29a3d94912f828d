import Recovery.Document.Recipe
import Recovery.Rehearsal.Cloud
/-!
# Rehearsed actions and workers

A stand-in is an action that plays the outcome its document has for each phase. It may ask for
volumes while it is set up and send requests while it is executed.
-/
set_option autoImplicit false

namespace Recovery

namespace Rehearsal

open Document

structure StandIn where
  name : String
  spec : Json

namespace StandIn

/-- Says which phase was reached and plays its outcome. -/
def act (s : StandIn) (phase : Phase) (shown : List (String × Json)) : Saga Scripted Unit :=
  let outcome := orUnreadable (quiet? (part s.spec phase.name))
  @Saga.call Scripted (.other (.act (s.name ++ ":" ++ phase.name) shown outcome))

def addVolumes : List WorkerVolume → Recorded (StandIn × WorkerOptions) Scripted Unit
  | [] => return ()
  | volume :: rest => do
    Action.addVolume volume
    addVolumes rest

/-- Sends requests until one fails; what is no request closes the client. -/
def send (client : WorkerClient Scripted) : List Json → Saga Scripted Unit
  | [] => return ()
  | rpc :: rest => do
    match Rpc.Method.ofKey? (text rpc "rpc") with
    | some method => client.request (.read method (part rpc "request"))
    | none => client.close
    send client rest

instance : Action Scripted StandIn where
  validate s _ := s.act .validate []
  setup _ := do
    let (s, _) ← get
    addVolumes ((list s.spec "volumes").map WorkerVolume.read)
    let (_, options) ← get
    Recorded.ofSaga (s.act .setup [("volumes", .natural options.volumes.length)])
  execute _ client := do
    let s ← get
    Recorded.ofSaga (s.act .execute [])
    Recorded.ofSaga (send client (list s.spec "rpcs"))
  hasCleanup s := (field? s.spec "cleanup").isSome
  cleanup scope := do
    let s ← get
    let clock ← Recorded.ofTask Task.clock
    Recorded.ofSaga <| s.act .cleanup [("cancelled", .bool (scope.isCancelled clock)),
      ("remaining_ms", optional .natural (scope.remaining clock))]

end StandIn

inductive Acting where
  | recipe (r : Recipe)
  | standIn (s : StandIn)

namespace Acting

def read? (j : Json) : Option Acting :=
  match text j "type" with
  | "fake" => some (.standIn ⟨text j "name", j⟩)
  | kind => (Recipe.read? kind (part j "config")).map .recipe

instance : Action Scripted Acting where
  validate
    | .recipe r => Action.validate r
    | .standIn s => Action.validate s
  setup scope := do
    match (← get).1 with
    | .recipe r =>
      Recorded.zoom (fun (_, o) => (r, o)) (fun (r, o) _ => (.recipe r, o)) (Action.setup scope)
    | .standIn s =>
      Recorded.zoom (fun (_, o) => (s, o)) (fun (s, o) _ => (.standIn s, o)) (Action.setup scope)
  execute scope client := do
    match ← get with
    | .recipe r =>
      Recorded.zoom (fun _ => r) (fun r _ => .recipe r) (Action.execute scope client)
    | .standIn s =>
      Recorded.zoom (fun _ => s) (fun s _ => .standIn s) (Action.execute scope client)
  hasCleanup
    | .recipe r => Action.hasCleanup Scripted r
    | .standIn s => Action.hasCleanup Scripted s
  cleanup scope := do
    match ← get with
    | .recipe r => Recorded.zoom (fun _ => r) (fun r _ => .recipe r) (Action.cleanup scope)
    | .standIn s => Recorded.zoom (fun _ => s) (fun s _ => .standIn s) (Action.cleanup scope)

end Acting

def standInProvisioner (hasClient : Bool) : Provisioner Scripted Unit where
  provision _ options := @Saga.call Scripted (.other (.provision options))
  client _ := if hasClient then some Cloud.client else none
  close _ := @Saga.call Scripted (.other .close)
  delete _ _ := @Saga.call Scripted (.other .delete)

end Rehearsal

end Recovery
