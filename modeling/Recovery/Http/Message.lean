import Recovery.Http.Target
import Recovery.Timed.Task
import Recovery.Watch.Event
/-!
# Requests and responses

One request to the API server and what comes back for it: a status and a body that arrives in
pieces. A body is read whole, or line by line as the events of a watch.
-/
set_option autoImplicit false

namespace Recovery

namespace Http

inductive Method where
  | get
  | post
  | delete
deriving Repr, DecidableEq

def Method.name : Method → String
  | .get => "GET"
  | .post => "POST"
  | .delete => "DELETE"

structure Request where
  method : Method
  target : Target
  body : Option Json
deriving Repr

structure Chunk where
  delay : Nat
  content : Except String String

structure Response where
  status : Nat
  chunks : List Chunk
  staysOpen : Bool

end Http

def Http : Interface := ⟨Http.Request, fun _ => Http.Response⟩

namespace Http

def reasons : List (Nat × String) :=
  [(400, "Bad Request"), (401, "Unauthorized"), (402, "Payment Required"), (403, "Forbidden"),
    (404, "Not Found"), (405, "Method Not Allowed"), (406, "Not Acceptable"),
    (407, "Proxy Authentication Required"), (408, "Request Timeout"), (409, "Conflict"),
    (410, "Gone"), (411, "Length Required"), (412, "Precondition Failed"),
    (413, "Payload Too Large"), (414, "URI Too Long"), (415, "Unsupported Media Type"),
    (416, "Range Not Satisfiable"), (417, "Expectation Failed"), (418, "I'm a teapot"),
    (421, "Misdirected Request"), (422, "Unprocessable Entity"), (423, "Locked"),
    (424, "Failed Dependency"), (425, "Too Early"), (426, "Upgrade Required"),
    (428, "Precondition Required"), (429, "Too Many Requests"),
    (431, "Request Header Fields Too Large"), (451, "Unavailable For Legal Reasons"),
    (500, "Internal Server Error"), (501, "Not Implemented"), (502, "Bad Gateway"),
    (503, "Service Unavailable"),
    (504, "Gateway Timeout"), (505, "HTTP Version Not Supported"),
    (506, "Variant Also Negotiates"), (507, "Insufficient Storage"), (508, "Loop Detected"),
    (510, "Not Extended"), (511, "Network Authentication Required")]

def statusText (status : Nat) : String :=
  toString status ++ " " ++ (reasons.lookup status).getD "<unknown status code>"

def collect (staysOpen : Bool) : List Chunk → Saga Http String
  | [] => if staysOpen then Saga.ofTask Task.hang else return ""
  | chunk :: rest => do
    Saga.ofTask (Task.sleep chunk.delay)
    match chunk.content with
    | .error message => Saga.fail (.kube (.transport message))
    | .ok text => return text ++ (← collect staysOpen rest)

/-- What an error status is reported as: the status object in the body, or else the body. -/
def refusal (status : Nat) (text : String) : ApiFault :=
  match (Json.Readable.ofText text : Except _ ErrorStatus) with
  | .ok status => status.fault
  | .error _ => .refused (statusText status) (Text.quoted text) "Failed to parse error data" status

def isError (status : Nat) : Bool := 400 ≤ status && status < 600

def unsendable (why : String) : Fault := .kube (.unbuilt ("failed to " ++ why))

def request (method : Method) (target : String) (body : Option Json) : Except Fault Request :=
  match Target.ofText target with
  | .ok target => .ok ⟨method, target, body⟩
  | .error objection => .error (unsendable ("build request: " ++ objection.message))

/-- Sends a request. The connection is shared, so that even an answer at once takes a rest. -/
def send (request : Request) : Saga Http Response := do
  Saga.ofTask (Task.pause 0)
  @Saga.call Http request

def fetch (request : Except Fault Request) : Saga Http String := do
  let response ← send (← Saga.ofResult request)
  let text ← collect response.staysOpen response.chunks
  if isError response.status then Saga.fail (.kube (refusal response.status text)) else return text

def unreadableDetail : String := "not a document of the expected form"

def undecodable (kind : Kind) : Fault :=
  .typeMismatch kind.name ("undecodable object (" ++ unreadableDetail ++ ")")

/-! ## Lines of a watch -/

variable {α : Type}

/-- The event of one line; a line that could go on is passed over, and one that is no event may
still be a status. -/
def lineEvent? [Resource α] (line : String) : Option (Except Fault (WatchEvent α)) :=
  let draft := Json.Draft.ofText line
  match WatchEvent.read draft, (Json.Readable.read draft : Except _ ErrorStatus) with
  | .ok event, _ => some (.ok event)
  | .error .unfinished, _ => none
  | .error .malformed, .ok status => some (.error (.kube status.fault))
  | .error .malformed, .error _ => some (.error (undecodable (Resource.kind α)))

def trimReturn (line : List Char) : List Char :=
  if line.getLast? = some '\r' then line.dropLast else line

def lines : List Char → List (List Char) × List Char
  | [] => ([], [])
  | c :: cs =>
    let (full, rest) := lines cs
    if c = '\n' then ([] :: full, rest)
    else
      match full with
      | [] => ([], c :: rest)
      | line :: more => ((c :: line) :: more, rest)

/-- The deliveries of some lines, the first after a delay, and the delay that is left over where
the last lines deliver nothing. -/
def deliver [Resource α] (delay : Nat) : List (List Char) → List (Delivery α) × Nat
  | [] => ([], delay)
  | line :: rest =>
    match lineEvent? (String.ofList (trimReturn line)) with
    | none => deliver delay rest
    | some event =>
      let (more, left) := deliver 0 rest
      (⟨delay, event⟩ :: more, left)

/-- The feed of a body, given the delay and the text that have come since the last full line. -/
def feedFrom [Resource α] (staysOpen : Bool) (delay : Nat) (buffer : List Char) :
    List Chunk → Feed α
  | [] =>
    if staysOpen then ⟨[], none⟩
    else if buffer.isEmpty || buffer == ['\r'] then ⟨[], some delay⟩
    else
      let (deliveries, left) := deliver delay [buffer]
      ⟨deliveries, some left⟩
  | chunk :: rest =>
    let delay := delay + chunk.delay
    match chunk.content with
    | .error message => ⟨[⟨delay, .error (.kube (.brokenStream message))⟩], some 0⟩
    | .ok text =>
      let (full, buffer) := lines (buffer ++ text.toList)
      let (deliveries, left) := deliver delay full
      let feed := feedFrom staysOpen left buffer rest
      ⟨deliveries ++ feed.deliveries, feed.ends⟩

def feed [Resource α] (response : Response) : Feed α :=
  feedFrom response.staysOpen 0 [] response.chunks

end Http

end Recovery
