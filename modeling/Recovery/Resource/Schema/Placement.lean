import Recovery.Json.Readable
/-!
# Where pods are placed

The forms of what selects objects by their labels and of what a pod asks of the node it runs on.
-/
set_option autoImplicit false

namespace Recovery

namespace Schema

open Json (Form)
open Json.Form.Field (texts textLists)

def textTable : Form := .tableOf .text

/-- A condition on a label: a key, an operator and the values it is about. -/
def requirement : Form :=
  .lenient [.filledText "key", .filledText "operator", .optional "values" (.listOf .text)]

def labelSelector : Form :=
  .lenient [.optional "matchExpressions" (.listOf requirement), .optional "matchLabels" textTable]

def nodeTerm : Form :=
  .lenient [.optional "matchExpressions" (.listOf requirement),
    .optional "matchFields" (.listOf requirement)]

def podTerm : Form :=
  .lenient (textLists ["matchLabelKeys", "mismatchLabelKeys", "namespaces"] ++
    [.optional "labelSelector" labelSelector, .optional "namespaceSelector" labelSelector,
      .filledText "topologyKey"])

def preferredName : String := "preferredDuringSchedulingIgnoredDuringExecution"

def requiredName : String := "requiredDuringSchedulingIgnoredDuringExecution"

def nodeAffinity : Form :=
  .lenient [
    .optional preferredName
      (.listOf (.lenient [.filledRecord "preference" nodeTerm, .filledInt "weight" .int32])),
    .optional requiredName (.lenient [.filledList "nodeSelectorTerms" nodeTerm])]

def podAffinity : Form :=
  .lenient [
    .optional preferredName
      (.listOf (.lenient [.filledRecord "podAffinityTerm" podTerm, .filledInt "weight" .int32])),
    .optional requiredName (.listOf podTerm)]

def affinity : Form :=
  .lenient [.optional "nodeAffinity" nodeAffinity, .optional "podAffinity" podAffinity,
    .optional "podAntiAffinity" podAffinity]

def toleration : Form :=
  .lenient (texts ["effect", "key", "operator", "value"] ++
    [.optional "tolerationSeconds" .int64])

def topologySpread : Form :=
  .lenient (texts ["nodeAffinityPolicy", "nodeTaintsPolicy"] ++
    [.optional "labelSelector" labelSelector, .optional "matchLabelKeys" (.listOf .text),
      .filledInt "maxSkew" .int32, .optional "minDomains" .int32, .filledText "topologyKey",
      .filledText "whenUnsatisfiable"])

end Schema

end Recovery
