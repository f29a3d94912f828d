import Recovery.Json.Readable
/-!
# Status conditions

What the controllers report about an object, as pairs of a type and a status.
-/
set_option autoImplicit false

namespace Recovery

structure Condition where
  type : String
  status : String
  reason : Option String
  message : Option String
deriving Repr, DecidableEq

namespace Condition

def holds (conditions : List Condition) (type : String) : Bool :=
  conditions.any fun c => c.type == type && c.status == "True"

def ready : String := "Ready"

def toJson (c : Condition) : Json :=
  .record [("type", some (.string c.type)), ("status", some (.string c.status)),
    ("reason", c.reason.map .string), ("message", c.message.map .string)]

def form : Json.Form :=
  .strict [.required "type" .text, .required "status" .text, .optionalLast "reason" .text,
    .optionalLast "message" .text]

def ofNormal? (j : Json) : Option Condition := do
  return {
    type := ← j.required "type" Json.asString?
    status := ← j.required "status" Json.asString?
    reason := ← j.optional "reason" Json.asString?
    message := ← j.optional "message" Json.asString? }

instance : Json.Readable Condition := ⟨form, ofNormal?⟩

end Condition

end Recovery
