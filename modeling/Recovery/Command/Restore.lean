import Recovery.Command.Site
/-!
# The restore command

Downloads the data of an event to the store volume and restores clusters from it, each from the
dumps of the cluster of the same name or of another one.
-/
set_option autoImplicit false

namespace Recovery

open CommandLine

/-- A cluster to restore into and, if it is another one, the cluster whose dumps to read. -/
structure ClusterMapping where
  target : String
  source : Option String
deriving Repr, DecidableEq

namespace ClusterMapping

/-- Reads `target` or `target=source`, neither of them empty. The source may hold equals signs. -/
def read? (s : String) : Option ClusterMapping :=
  match Text.splitOnce '=' s.toList with
  | ([], _) => none
  | (_, some []) => none
  | (target, source) => some ⟨String.ofList target, source.map String.ofList⟩

def read (s : String) : Except Objection ClusterMapping :=
  match read? s with
  | some m => .ok m
  | none =>
    .error (.invalid
      ("invalid cluster mapping " ++ Text.quoted s ++ ", expected target or target=source"))

end ClusterMapping

structure RestoreCommand where
  site : Site
  event : String
  clusters : List String
  databases : List String
  clean : Bool
deriving Repr, DecidableEq

namespace RestoreCommand

def parameters : List Parameter := Site.parameters ++ [
  (Parameter.single "event" "KUBEDR_EVENT" .text).asRequired,
  (Parameter.many "cluster" "KUBEDR_CLUSTERS").asRequired,
  .many "database" "KUBEDR_DATABASES",
  .switch "clean" "KUBEDR_CLEAN"]

def ofSettings (s : Settings) : RestoreCommand where
  site := .ofSettings s
  event := s.text "event" ""
  clusters := s.list "cluster"
  databases := s.list "database"
  clean := s.switch "clean"

def prepare (r : RestoreCommand) (files : String → Option String) :
    Except Objection (List ClusterMapping × Timeouts) := do
  let mappings ← r.clusters.mapM ClusterMapping.read
  return (mappings, ← r.site.timeouts files)

end RestoreCommand

end Recovery
