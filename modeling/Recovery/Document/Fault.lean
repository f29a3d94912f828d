import Recovery.Document.Field
import Recovery.Fault
/-!
# Documents of faults

A fault is written with the name of its kind, its message and the nesting of what it wraps. It is
read from a text, which stands for a plain internal fault, or from a document with its kind.
-/
set_option autoImplicit false

namespace Recovery

namespace Fault

def kindName : Fault → String
  | .kube _ => "Kube"
  | .validation _ _ => "Validation"
  | .precondition _ _ => "Precondition"
  | .timeout _ _ => "Timeout"
  | .cancelled _ => "Cancelled"
  | .notFound _ _ => "NotFound"
  | .typeMismatch _ _ => "TypeMismatch"
  | .rpc _ _ => "Rpc"
  | .phase _ _ _ => "Phase"
  | .context _ _ => "Context"
  | .aggregate _ => "Aggregate"
  | .internal _ _ => "Internal"

mutual

def nesting : Fault → String
  | .phase _ _ source => "Phase(" ++ source.nesting ++ ")"
  | .context _ source => "Context(" ++ source.nesting ++ ")"
  | .aggregate errors => "Aggregate(" ++ nestings errors ++ ")"
  | fault => fault.kindName

def nestings : List Fault → String
  | [] => ""
  | [e] => e.nesting
  | e :: next :: rest => e.nesting ++ "," ++ nestings (next :: rest)

end

def blameJson (fault : Fault) : Json :=
  Document.optional (fun (p, action) => .strings [Phase.name p, action]) fault.failedPhase

end Fault

def Phase.ofName? (name : String) : Option Phase :=
  [Phase.validate, .setup, .execute, .cleanup].find? (·.name == name)

namespace Document

def plainFault? (j : Json) : Option Fault :=
  let resource := text j "resource"
  let message := text j "message"
  match text j "kind" with
  | "validation" => some (.validation resource message)
  | "precondition" => some (.precondition resource message)
  | "timeout" => some (.timeout resource message)
  | "not_found" => some (.notFound resource message)
  | "cancelled" => some (.cancelled (text j "context"))
  | "type_mismatch" => some (.typeMismatch (text j "expected") (text j "found"))
  | "rpc" => some (.rpc (text j "operation") message)
  | "internal" => some (.internal message ((text? j "context").getD Fault.unknownContext))
  | "kube" => some (.kube (.refused (text j "status") message (text j "reason") (natural j "code")))
  | "read_events" => some (.kube (.brokenStream message))
  | _ => none

def fault? (j : Json) : Option Fault :=
  match j with
  | .string s => some (.plain s)
  | j =>
    let inner := fun name =>
      match h : field? j name with
      | some source =>
        have := sizeOf_field? h
        fault? source
      | none => none
    let members := (list j "errors").attach.mapM fun ⟨source, h⟩ =>
      have := sizeOf_list h
      fault? source
    match text j "kind" with
    | "phase" => do
      return .phase (← Phase.ofName? (text j "phase")) (text j "action") (← inner "source")
    | "context" => do return .context (text j "context") (← inner "source")
    | "aggregate" => members.map .aggregate
    | "collect" => members.map fun es => (Fault.ofList? es).getD (.plain "nothing to collect")
    | "join" => do return .join (← inner "earlier") (← inner "later")
    | _ => plainFault? j
termination_by sizeOf j

end Document

end Recovery
