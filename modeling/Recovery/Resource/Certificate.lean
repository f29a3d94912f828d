import Recovery.Resource.Condition
import Recovery.Resource.Kind
/-!
# Certificates and their issuers

The fields of cert-manager objects that are read or written here. What configures an issuer is
not looked into.
-/
set_option autoImplicit false

namespace Recovery

structure IssuerRef where
  name : String
  kind : Option String
  group : Option String
deriving Repr, DecidableEq

namespace IssuerRef

def empty : IssuerRef := ⟨"", none, none⟩

def issuer (name : String) : IssuerRef := ⟨name, some Kind.issuer.name, none⟩

def clusterIssuer (name : String) : IssuerRef := ⟨name, some Kind.clusterIssuer.name, none⟩

def isClusterScoped (r : IssuerRef) : Bool := r.kind == some Kind.clusterIssuer.name

def toJson (r : IssuerRef) : Json :=
  .record [("name", some (.string r.name)), ("kind", r.kind.map .string),
    ("group", r.group.map .string)]

def form : Json.Form :=
  .strict [.required "name" .text, .optionalLast "kind" .text, .optionalLast "group" .text]

def ofNormal? (j : Json) : Option IssuerRef := do
  return {
    name := ← j.required "name" Json.asString?
    kind := ← j.optional "kind" Json.asString?
    group := ← j.optional "group" Json.asString? }

instance : Json.Readable IssuerRef := ⟨form, ofNormal?⟩

end IssuerRef

structure CertificateSpec where
  secretName : String
  commonName : Option String
  dnsNames : List String
  usages : List String
  issuerRef : IssuerRef
deriving Repr, DecidableEq

namespace CertificateSpec

/-- An empty list is not written. -/
def listJson : List String → Option Json
  | [] => none
  | xs => some (.strings xs)

def toJson (s : CertificateSpec) : Json :=
  .record [("secretName", some (.string s.secretName)), ("commonName", s.commonName.map .string),
    ("dnsNames", listJson s.dnsNames), ("usages", listJson s.usages),
    ("issuerRef", some s.issuerRef.toJson)]

def form : Json.Form :=
  .strict [.required "secretName" .text, .optionalLast "commonName" .text,
    .defaulted "dnsNames" (.array []) (.listOf .text),
    .defaulted "usages" (.array []) (.listOf .text), .required "issuerRef" IssuerRef.form]

def ofNormal? (j : Json) : Option CertificateSpec := do
  return {
    secretName := ← j.required "secretName" Json.asString?
    commonName := ← j.optional "commonName" Json.asString?
    dnsNames := ← j.required "dnsNames" (Json.asListOf? Json.asString?)
    usages := ← j.required "usages" (Json.asListOf? Json.asString?)
    issuerRef := ← j.required "issuerRef" IssuerRef.ofNormal? }

end CertificateSpec

structure IssuanceStatus where
  conditions : Option (List Condition)
deriving Repr, DecidableEq

namespace IssuanceStatus

def toJson (s : IssuanceStatus) : Json :=
  .record [("conditions", s.conditions.map fun cs => .array (cs.map Condition.toJson))]

def form : Json.Form :=
  .strict [.optionalLast "conditions" (.listOf Condition.form)]

def ofNormal? (j : Json) : Option IssuanceStatus := do
  return { conditions := ← j.optional "conditions" (Json.asListOf? Condition.ofNormal?) }

def readiness (status : Option IssuanceStatus) : Readiness Unit :=
  .readyIf (Condition.holds ((status.bind conditions).getD []) Condition.ready)

end IssuanceStatus

structure Certificate where
  metadata : Metadata
  spec : CertificateSpec
  status : Option IssuanceStatus
deriving Repr

namespace Certificate

def toJson (c : Certificate) : Json :=
  .record (Kind.certificate.header ++ [("metadata", some c.metadata.toJson),
    ("spec", some c.spec.toJson), ("status", c.status.map IssuanceStatus.toJson)])

def form : Json.Form :=
  .strict [.required "metadata" Metadata.form, .required "spec" CertificateSpec.form,
    .optional "status" IssuanceStatus.form]

def ofNormal? (j : Json) : Option Certificate := do
  return {
    metadata := ← j.required "metadata" Metadata.ofNormal?
    spec := ← j.required "spec" CertificateSpec.ofNormal?
    status := ← j.optional "status" IssuanceStatus.ofNormal? }

instance : Json.Readable Certificate := ⟨form, ofNormal?⟩

instance : Resource Certificate := ⟨.certificate, toJson, Certificate.metadata⟩

def readiness (c : Certificate) : Readiness Unit := IssuanceStatus.readiness c.status

end Certificate

structure Issuer where
  metadata : Metadata
  config : List (String × Json)
  status : Option IssuanceStatus
deriving Repr

namespace Issuer

def toJson (kind : Kind) (i : Issuer) : Json :=
  .record (kind.header ++ [("metadata", some i.metadata.toJson), ("spec", some (.object i.config)),
    ("status", i.status.map IssuanceStatus.toJson)])

def form : Json.Form :=
  .strict [.required "metadata" Metadata.form, .required "spec" (.tableOf .any),
    .optional "status" IssuanceStatus.form]

def ofNormal? (j : Json) : Option Issuer := do
  return {
    metadata := ← j.required "metadata" Metadata.ofNormal?
    config := ← j.required "spec" Json.asObject?
    status := ← j.optional "status" IssuanceStatus.ofNormal? }

instance : Json.Readable Issuer := ⟨form, ofNormal?⟩

instance : Resource Issuer := ⟨.issuer, toJson .issuer, Issuer.metadata⟩

def readiness (i : Issuer) : Readiness Unit := IssuanceStatus.readiness i.status

end Issuer

structure ClusterIssuer where
  issuer : Issuer
deriving Repr

namespace ClusterIssuer

instance : Json.Readable ClusterIssuer := ⟨Issuer.form, fun j => (Issuer.ofNormal? j).map mk⟩

instance : Resource ClusterIssuer :=
  ⟨.clusterIssuer, fun i => i.issuer.toJson .clusterIssuer, fun i => i.issuer.metadata⟩

def readiness (i : ClusterIssuer) : Readiness Unit := i.issuer.readiness

end ClusterIssuer

end Recovery
