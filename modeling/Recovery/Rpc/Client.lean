import Recovery.Rpc.Codec
import Recovery.Text.Percent
import Recovery.Timed.Recorded
/-!
# The client of a worker

A client sends each request to the path of its method until it is closed; from then on it refuses
every request without sending anything.
-/
set_option autoImplicit false

namespace Recovery

namespace Rpc

/-- How a server ends a call; the code is zero when all went well. -/
structure Status where
  code : Nat
  message : String
deriving Repr, DecidableEq

namespace Status

def codeNames : List String :=
  ["Ok", "Cancelled", "Unknown", "InvalidArgument", "DeadlineExceeded", "NotFound",
    "AlreadyExists", "PermissionDenied", "ResourceExhausted", "FailedPrecondition", "Aborted",
    "OutOfRange", "Unimplemented", "Internal", "Unavailable", "DataLoss", "Unauthenticated"]

def codeName (s : Status) : String := (codeNames[s.code]?).getD "Unknown"

def isOk (s : Status) : Bool := s.code == 0

/-- The status as the client sees it: percent signs in a message stand for bytes, and a message
whose bytes are no text is replaced by saying so. -/
def received (s : Status) : Status :=
  match Text.Utf8.decode (Text.Percent.decode (Text.Percent.bytes s.message.toList)) with
  | .ok message => ⟨s.code, message⟩
  | .error (index, gap) =>
    ⟨2, "Error deserializing status message header: " ++ Text.Utf8.gapMessage index gap⟩

def report (operation : String) (s : Status) : Fault :=
  .rpc operation (s.codeName ++ ": " ++ s.message)

def fault (operation : String) (s : Status) : Fault := s.received.report operation

/-- The status of a request that its connection is not ready for. -/
def unready (reason : String) : Status := ⟨14, serviceName ++ " not ready: " ++ reason⟩

end Status

structure Sent where
  path : String
  body : Bytes
deriving Repr, DecidableEq

def Request.sent (r : Request) : Sent := ⟨r.method.path, r.encode⟩

end Rpc

/-- A connection to a worker. A call fails if the connection is not ready for it; all else that
becomes of it is a status. -/
abbrev Connection : Interface := ⟨Rpc.Sent, fun _ => Rpc.Status⟩

namespace Rpc

structure Client where
  closed : Bool
deriving Repr, DecidableEq

namespace Client

def connected : Client := ⟨false⟩

def request (r : Request) : Recorded Client Connection Unit := do
  let operation := r.method.name
  if (← get).closed then Recorded.fail (.rpc operation "client is closed")
  let status ← Recorded.ofSaga ((@Saga.call Connection r.sent).mapFault fun reason =>
    (Status.unready reason.message).report operation)
  if status.isOk then return ()
  else Recorded.fail (status.fault operation)

/-- Closing never fails, and closing twice is no different from closing once. -/
def close : Recorded Client Connection Unit := set (⟨true⟩ : Client)

end Client

end Rpc

end Recovery
