import Recovery.Resource.Kind
import Recovery.Resource.Schema.Pod
/-!
# Volume claims
-/
set_option autoImplicit false

namespace Recovery

structure DataSource where
  apiGroup : Option String
  kind : String
  name : String
deriving Repr, DecidableEq

namespace DataSource

def toJson (s : DataSource) : Json :=
  .record [("apiGroup", s.apiGroup.map .string), ("kind", some (.string s.kind)),
    ("name", some (.string s.name))]

def ofNormal? (j : Json) : Option DataSource := do
  return {
    apiGroup := ← j.optional "apiGroup" Json.asString?
    kind := ← j.required "kind" Json.asString?
    name := ← j.required "name" Json.asString? }

end DataSource

/-- Quantities of what a claim needs at least and may use at most. -/
structure ClaimResources where
  limits : Option Labels
  requests : Option Labels
deriving Repr, DecidableEq

namespace ClaimResources

def toJson (r : ClaimResources) : Json :=
  .record [("limits", r.limits.map Labels.toJson), ("requests", r.requests.map Labels.toJson)]

def ofNormal? (j : Json) : Option ClaimResources := do
  return {
    limits := ← j.optional "limits" Labels.ofNormal?
    requests := ← j.optional "requests" Labels.ofNormal? }

end ClaimResources

structure ClaimSpec where
  accessModes : Option (List String)
  dataSource : Option DataSource
  resources : Option ClaimResources
  storageClassName : Option String
  volumeName : Option String
  volumeMode : Option String
  others : List (String × Json)
deriving Repr

namespace ClaimSpec

def toJson (s : ClaimSpec) : Json :=
  (Json.record [("accessModes", s.accessModes.map .strings),
    ("dataSource", s.dataSource.map DataSource.toJson),
    ("resources", s.resources.map ClaimResources.toJson),
    ("storageClassName", s.storageClassName.map .string),
    ("volumeMode", s.volumeMode.map .string),
    ("volumeName", s.volumeName.map .string)]).append s.others

def ofNormal? (j : Json) : Option ClaimSpec := do
  return {
    accessModes := ← j.optional "accessModes" (Json.asListOf? Json.asString?)
    dataSource := ← j.optional "dataSource" DataSource.ofNormal?
    resources := ← j.optional "resources" ClaimResources.ofNormal?
    storageClassName := ← j.optional "storageClassName" Json.asString?
    volumeName := ← j.optional "volumeName" Json.asString?
    volumeMode := ← j.optional "volumeMode" Json.asString?
    others := j.others
      ["accessModes", "dataSource", "resources", "storageClassName", "volumeName", "volumeMode"] }

end ClaimSpec

structure Claim where
  metadata : Metadata
  spec : Option ClaimSpec
  status : Option Json
deriving Repr

namespace Claim

def toJson (c : Claim) : Json :=
  .record (Kind.claim.header ++ [("metadata", some c.metadata.toJson),
    ("spec", c.spec.map ClaimSpec.toJson), ("status", c.status)])

def form : Json.Form :=
  .lenient (Kind.claim.headerFields ++ [.filledRecord "metadata" Metadata.form,
    .optional "spec" Schema.claimSpec, .optional "status" Schema.claimStatus])

def ofNormal? (j : Json) : Option Claim := do
  return {
    metadata := ← j.required "metadata" Metadata.ofNormal?
    spec := ← j.optional "spec" ClaimSpec.ofNormal?
    status := ← j.optional "status" some }

instance : Json.Readable Claim := ⟨form, ofNormal?⟩

instance : Resource Claim := ⟨.claim, toJson, Claim.metadata⟩

def storageKey : String := "storage"

def requestedStorage (c : Claim) : Option String := do
  let spec ← c.spec
  let resources ← spec.resources
  let requests ← resources.requests
  requests.find? storageKey

end Claim

end Recovery
