import Recovery.Http.Message
import Recovery.Resource.Certificate
import Recovery.Resource.Claim
import Recovery.Resource.Cluster
import Recovery.Resource.Service
import Recovery.Resource.Snapshot
import Recovery.Watch.Wait
/-!
# The Kubernetes API

Reading, creating, deleting and waiting for objects by requests to the API server. An object that
is gone already counts as deleted.
-/
set_option autoImplicit false

namespace Recovery

namespace Http

variable {α β : Type}

def collectionPath (kind : Kind) (ns : String) : String :=
  let root :=
    match kind.group? with
    | some group => "/apis/" ++ group ++ "/" ++ Kind.version
    | none => "/api/" ++ Kind.version
  if kind.isNamespaced then root ++ "/namespaces/" ++ ns ++ "/" ++ kind.plural
  else root ++ "/" ++ kind.plural

def objectPath (kind : Kind) (ns name : String) : Except Fault String :=
  if name.isEmpty then .error (unsendable "validate request: A non-empty name is required")
  else .ok (collectionPath kind ns ++ "/" ++ name)

def unreadable : Fault := .kube (.unreadable unreadableDetail)

def decode [Resource α] (text : String) : Except Fault α :=
  (Json.Readable.ofText text).mapError fun _ => unreadable

def read [Resource α] (ns name : String) : Saga Http α := do
  let path ← Saga.ofResult (objectPath (Resource.kind α) ns name)
  Saga.ofResult (decode (← fetch (request .get path none)))

/-- Refused for want of the object, by the reason that the server gives. -/
def isAbsent : Fault → Bool
  | .kube (.refused _ _ reason _) => reason == "NotFound"
  | _ => false

def find [Resource α] (ns name : String) : Saga Http (Option α) := ExceptT.mk do
  match ← (read ns name).run with
  | .ok object => return .ok (some object)
  | .error fault => return if isAbsent fault then .ok none else .error fault

def create [Resource α] (ns : String) (object : α) : Saga Http α := do
  let target := Target.join (collectionPath (Resource.kind α) ns) []
  Saga.ofResult (decode (← fetch (request .post target (some (Resource.toJson object)))))

def causesForm : Json.Form :=
  .listOf (.strict (["reason", "message", "field"].map fun name =>
    .defaulted name (.string "") .text))

def detailsForm : Json.Form :=
  .strict ((["name", "group", "kind", "uid"].map fun name =>
      .defaulted name (.string "") .text) ++
    [.defaulted "causes" (.array []) causesForm,
      .defaulted "retryAfterSeconds" (.integer 0) .natural32])

def statusForm : Json.Form :=
  .strict [.optionalLast "status" (.oneOf ["Success", "Failure"]),
    .defaulted "code" (.integer 0) .natural16, .defaulted "message" (.string "") .text,
    .defaulted "reason" (.string "") .text, .optionalLast "details" detailsForm]

/-- The answer to a deletion: a status, or else the object as it was. -/
def isDeletionAnswer (α : Type) [Resource α] (text : String) : Bool :=
  let draft := Json.Draft.ofText text
  match Json.Form.any draft with
  | .error _ => false
  | .ok j =>
    if (j.get? "kind").bind Json.asString? == some "Status" then (statusForm draft).isOk
    else (Json.Readable.read draft : Except _ α).isOk

/-- Deletes an object in the background; one that is gone already counts as deleted. -/
def delete (α : Type) [Resource α] (ns name : String) : Saga Http Unit := ExceptT.mk do
  let deletion : Saga Http Unit := do
    let path ← Saga.ofResult (objectPath (Resource.kind α) ns name)
    let text ← fetch (request .delete (Target.join path [])
      (some (.object [("propagationPolicy", .string "Background")])))
    if isDeletionAnswer α text then return () else Saga.fail unreadable
  match ← deletion.run with
  | .error (.kube cause) => return if cause.isNotFound then .ok () else .error (.kube cause)
  | result => return result

/-! ## Waiting -/

def nameSelector (name : String) : String × String := ("fieldSelector", "metadata.name=" ++ name)

def listMetadataForm : Json.Form :=
  .lenient [.optional "continue" .text, .optional "remainingItemCount" .int64,
    .optional "resourceVersion" .text, .optional "selfLink" .text]

instance [Resource α] : Json.Readable (Listed α) where
  form := .collected [.defaulted "metadata" (.object []) listMetadataForm,
    .required "items" (.orNull (.array []) (.listOf (Json.Readable.form α)))]
  ofNormal? j := do
    let version ← j.required "metadata" fun m => m.optional "resourceVersion" Json.asString?
    let items ← j.required "items" (Json.asListOf? Json.Readable.ofNormal?)
    return ⟨items, version.getD ""⟩

/-- Between one second and 25: the server closes an idle watch before the client would. -/
def watchSeconds (timeout : Nat) : Nat := max 1 (min 25 (timeout / 1000))

/-- The objects of a kind as something to wait on. A document of another kind is a mismatch. -/
def source (α : Type) [Resource α] (ns : String) (rounds : Nat) : Source Http α where
  list := fun name => do
    let kind := Resource.kind α
    let target := Target.join (collectionPath kind ns) [nameSelector name]
    match (Json.Readable.ofText (← fetch (request .get target none)) : Except _ (Listed α)) with
    | .ok listed => return listed
    | .error _ => Saga.fail (undecodable kind)
  watch := fun name version timeout => do
    let target := Target.join (collectionPath (Resource.kind α) ns)
      [("watch", "true"), ("timeoutSeconds", toString (watchSeconds timeout)),
        nameSelector name, ("allowWatchBookmarks", "true"), ("resourceVersion", version)]
    return feed (← send (← Saga.ofResult (request .get target none)))
  rounds := rounds

def await [Resource α] (rounds : Nat) (scope : Scope) (ns name : String) (timeout : Nat)
    (readiness : α → Readiness β) : Saga Http β :=
  (source α ns rounds).waitFor scope name timeout fun object => Saga.ofResult (readiness object)

def awaitIssuer (rounds : Nat) (scope : Scope) (ns : String) (issuer : IssuerRef)
    (timeout : Nat) : Saga Http Unit :=
  if issuer.isClusterScoped then
    await rounds scope ns issuer.name timeout ClusterIssuer.readiness
  else await rounds scope ns issuer.name timeout Issuer.readiness

end Http

end Recovery
