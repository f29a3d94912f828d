import Recovery.Cloud.Call
/-!
# Parts

What a compound such as a cloned cluster is made of is recorded part by part, so that exactly what
was made can be deleted. Every part is attempted whatever becomes of the others; the parts that
could not be deleted stay recorded, so that a later attempt can take them up again.
-/
set_option autoImplicit false

namespace Recovery

structure Part where
  kind : Kind
  name : String
deriving Repr, DecidableEq

namespace Part

variable {Other : Interface}

def ofObject (o : Object) : Part := ⟨o.kind, o.name⟩

def delete (scope : Scope) (ns : String) (p : Part) : Saga (Cloud Other) Unit :=
  ((scope.run ("delete " ++ p.kind.noun) (Cloud.delete p.kind ns p.name))).during
    ("delete " ++ p.kind.title ns p.name)

/-- Deletes the parts in order; the parts that are left and why. -/
def deleteEach (scope : Scope) (ns : String) :
    List Part → Task (Cloud Other) (List Part × List Fault)
  | [] => return ([], [])
  | p :: ps => do
    let result ← (p.delete scope ns).attempt
    let (kept, faults) ← deleteEach scope ns ps
    match result with
    | .ok () => return (kept, faults)
    | .error fault => return (p :: kept, fault :: faults)

def settle (faults : List Fault) : Except Fault Unit :=
  match Fault.ofList? faults with
  | some fault => .error fault
  | none => .ok ()

def deleteAll (scope : Scope) (ns : String) : Recorded (List Part) (Cloud Other) Unit :=
  ExceptT.mk fun parts => do
    let (kept, faults) ← deleteEach scope ns parts
    return (settle faults, kept)

/-- The deletion of parts that nothing is recorded of any more, whatever becomes of it. -/
def discard (ns : String) (parts : List Part) : Cleanup (Cloud Other) Unit :=
  .ofScope fun scope => (deleteAll scope ns).evalFrom parts

def recordedName (parts : List Part) (p : Part) : Option String :=
  if parts.contains p then some p.name else none

def make (ns : String) (object : Object) (place : Part → List Part → List Part) :
    Recorded (List Part) (Cloud Other) Unit := do
  Recorded.ofSaga (Cloud.make ns object)
  modify (place (ofObject object))

def await (scope : Scope) (ns : String) (awaited : Awaited) (timeout : Nat) :
    Recorded (List Part) (Cloud Other) awaited.Reply :=
  Recorded.ofSaga (Cloud.awaitMade scope ns awaited timeout)

/-- Deleted before what is recorded already. -/
def first (p : Part) (parts : List Part) : List Part := p :: parts

/-- Deleted after what is recorded already. -/
def last (p : Part) (parts : List Part) : List Part := parts ++ [p]

end Part

end Recovery
