import Recovery.Cloud.Part
import Recovery.Worker.Manifest
import Recovery.Worker.Reach
/-!
# Workers

A worker is a pod and a service in front of it, with a client connected to it. It is handed out
connected or not at all.
-/
set_option autoImplicit false

namespace Recovery

structure Worker where
  name : String
  ns : String
  parts : List Part
  address : Option String
  connected : Bool
deriving Repr, DecidableEq

namespace Worker

def isEmpty (w : Worker) : Bool := w.parts.isEmpty && !w.connected

def nameOf (w : Worker) (kind : Kind) : Option String :=
  (w.parts.find? (·.kind = kind)).map Part.name

def describe (w : Worker) : String :=
  "WorkerInstance \x7b name: " ++ Text.quoted w.name ++ ", namespace: " ++ Text.quoted w.ns ++
    ", pod: " ++ Text.quotedOption (w.nameOf .pod) ++
    ", service: " ++ Text.quotedOption (w.nameOf .service) ++
    ", address: " ++ Text.quotedOption w.address ++
    ", connected: " ++ toString w.connected ++ " \x7d"

variable {Other : Interface}

/-! ## Taking down -/

/-- Closes the client, which stays recorded if that fails. -/
def closeClient : Recorded Worker (Cloud Other) Unit := do
  let w ← get
  if w.connected then
    Recorded.ofSaga Cloud.closeClient
    set { w with connected := false }

/-- Closes the client and deletes pod and service, each whatever becomes of the others. -/
def delete (scope : Scope) : Recorded Worker (Cloud Other) Unit :=
  ExceptT.mk fun w => do
    let (closed, w) ← closeClient.runFrom w
    let (kept, faults) ← Part.deleteEach scope w.ns w.parts
    let closing :=
      match closed with
      | .ok () => []
      | .error fault => [.context ("close client of worker " ++ w.name) fault]
    return (Part.settle (closing ++ faults), { w with parts := kept })

/-! ## Making -/

def start (scope : Scope) (o : WorkerOptions) (name : String) :
    Recorded (List Part) (Cloud Other) String := do
  Part.make o.ns (.pod (o.pod name)) Part.last
  Part.await scope o.ns (.pod name) o.readyTimeout
  Part.make o.ns (.service (o.service name)) Part.last
  Part.await scope o.ns (.endpoints name) o.readyTimeout
  let service ← Recorded.ofSaga (Cloud.readService o.ns name)
  let host ← Recorded.ofSaga <|
    scope.run "find worker address" (Reach.findHost service o.searchDomains o.port)
  Recorded.ofSaga (scope.run "connect to worker" (Cloud.connect host o.port))
  return host

def discard (o : WorkerOptions) (name : String) (parts : List Part) :
    Cleanup (Cloud Other) Unit :=
  ((Part.discard o.ns parts).withContext ("delete worker " ++ o.ns ++ "/" ++ name)).withTimeout
    o.cleanupTimeout

/-- A worker that is connected, or nothing. -/
def create (scope : Scope) (o : WorkerOptions) : Saga (Cloud Other) Worker := do
  Saga.ofResult o.validate
  let name ← Cloud.freshName o.stem
  let (started, parts) ← Saga.ofTask ((start scope o name).runFrom [])
  match started with
  | .ok host => return ⟨name, o.ns, parts, some host, true⟩
  | .error fault =>
    ExceptT.mk ((discard o name parts).foldInto scope (.error fault))

end Worker

end Recovery
