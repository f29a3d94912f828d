import Recovery.Instant
import Recovery.Json.Readable
/-!
# Object metadata

Names, labels and the version of an object. Labels are kept in the order in which they were first
set; setting one again changes its value.
-/
set_option autoImplicit false

namespace Recovery

abbrev Labels := List (String × String)

namespace Labels

def set (key value : String) : Labels → Labels
  | [] => [(key, value)]
  | (k, v) :: rest => if k = key then (k, value) :: rest else (k, v) :: set key value rest

def find? (labels : Labels) (key : String) : Option String := labels.lookup key

theorem lookup_set (key value k : String) (labels : Labels) :
    (set key value labels).lookup k = if k = key then some value else labels.lookup k := by
  induction labels with
  | nil => by_cases h : k = key <;> simp [set, h]
  | cons head rest ih =>
    obtain ⟨k', v⟩ := head
    by_cases h : k' = key
    · subst h
      by_cases hk : k = k'
      · subst hk
        simp [set]
      · have hb : (k == k') = false := by simpa using hk
        simp [set, List.lookup_cons, hb, hk]
    · by_cases hk : k = k'
      · subst hk
        simp [set, h]
      · have hb : (k == k') = false := by simpa using hk
        simp [set, List.lookup_cons, h, hb, ih]

def toJson (labels : Labels) : Json := .object (labels.map fun (k, v) => (k, .string v))

def form : Json.Form := .tableOf .text

def ofNormal? (j : Json) : Option Labels := do
  let fields ← j.asObject?
  fields.foldlM (fun labels (k, v) => (v.asString?).map fun v => set k v labels) []

end Labels

def Instant.form : Json.Form := .spelled Instant.read? (Instant.text .omitted)

structure Metadata where
  name : Option String
  namespace_ : Option String
  generateName : Option String
  resourceVersion : Option String
  uid : Option String
  labels : Option Labels
  annotations : Option Labels
  others : List (String × Json)
deriving Repr

namespace Metadata

open Json.Form.Field (texts)

def empty : Metadata := ⟨none, none, none, none, none, none, none, []⟩

def toJson (m : Metadata) : Json :=
  (Json.record [("annotations", m.annotations.map Labels.toJson),
    ("generateName", m.generateName.map .string), ("labels", m.labels.map Labels.toJson),
    ("name", m.name.map .string), ("namespace", m.namespace_.map .string),
    ("resourceVersion", m.resourceVersion.map .string), ("uid", m.uid.map .string)]).append
    m.others

def ownerForm : Json.Form :=
  .lenient [.filledText "apiVersion", .optional "blockOwnerDeletion" .flag,
    .optional "controller" .flag, .filledText "kind", .filledText "name", .filledText "uid"]

def managerForm : Json.Form :=
  .lenient (texts ["apiVersion", "fieldsType", "manager", "operation", "subresource"] ++
    [.optional "fieldsV1" .any, .optional "time" Instant.form])

def fields : List Json.Form.Field :=
  texts ["generateName", "name", "namespace", "resourceVersion", "selfLink", "uid"] ++
    [.optional "annotations" Labels.form, .optional "labels" Labels.form,
      .optional "creationTimestamp" Instant.form, .optional "deletionTimestamp" Instant.form,
      .optional "deletionGracePeriodSeconds" .int64, .optional "generation" .int64,
      .optional "finalizers" (.listOf .text), .optional "managedFields" (.listOf managerForm),
      .optional "ownerReferences" (.listOf ownerForm)]

def form : Json.Form := .lenient fields

def knownNames : List String :=
  ["name", "namespace", "generateName", "resourceVersion", "uid", "labels", "annotations"]

def ofNormal? (j : Json) : Option Metadata := do
  return {
    name := ← j.optional "name" Json.asString?
    namespace_ := ← j.optional "namespace" Json.asString?
    generateName := ← j.optional "generateName" Json.asString?
    resourceVersion := ← j.optional "resourceVersion" Json.asString?
    uid := ← j.optional "uid" Json.asString?
    labels := ← j.optional "labels" Labels.ofNormal?
    annotations := ← j.optional "annotations" Labels.ofNormal?
    others := j.others knownNames }

/-- The name, else the stem that the server makes a name of, else nothing. -/
def anyName (m : Metadata) : String := (m.name.or m.generateName).getD ""

def managedByLabel : String := "app.kubernetes.io/managed-by"

/-- Metadata of an object that this library creates: it carries the managed-by label. -/
def managed (name ns : String) (labels : Labels) : Metadata :=
  { empty with
    name := some name
    namespace_ := some ns
    labels := some (labels.set managedByLabel "kubedr") }

end Metadata

end Recovery
