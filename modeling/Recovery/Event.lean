import Recovery.Instant
import Recovery.Json.Readable
/-!
# Recovery events

One timed run of a backup or restore recipe. Its full name holds the start time, so that two runs
of a recipe never share a name.
-/
set_option autoImplicit false

namespace Recovery

structure Event where
  name : String
  startTime : Instant
  endTime : Option Instant
deriving Repr, DecidableEq

namespace Event

def start (name : String) (t : Instant) : Event := ⟨name, t, none⟩

/-- The name and the whole second of the start, without colons so that it fits a path. -/
def fullName (e : Event) : String :=
  e.name ++ "-" ++ String.ofList (e.startTime.chars '-' .omitted)

/-- Only the first stop counts. -/
def stop (e : Event) (t : Instant) : Event := { e with endTime := e.endTime.or (some t) }

def isStopped (e : Event) : Bool := e.endTime.isSome

def duration (e : Event) : Option Int := e.endTime.map e.startTime.nanosUntil

def timeToJson (t : Instant) : Json := .string (t.text .fewest)

def timeOfJson? (j : Json) : Option Instant := j.asString?.bind Instant.read?

def toJson (e : Event) : Json :=
  .record [("name", some (.string e.name)), ("startTime", some (timeToJson e.startTime)),
    ("endTime", e.endTime.map timeToJson)]

def timeForm : Json.Form := .passing fun s => (Instant.read? s).isSome

def form : Json.Form :=
  .strict [.required "name" .text, .required "startTime" timeForm,
    .optionalLast "endTime" timeForm]

def ofNormal? (j : Json) : Option Event := do
  return {
    name := ← j.required "name" Json.asString?
    startTime := ← j.required "startTime" timeOfJson?
    endTime := ← j.optional "endTime" timeOfJson? }

instance : Json.Readable Event := ⟨form, ofNormal?⟩

end Event

end Recovery
