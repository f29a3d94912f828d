import Recovery.Json.Readable
import Recovery.Resource.Kind
/-!
# Watch events

What a watch on objects of one kind reports, and the error status that the API server sends in
place of an event or of an answer.
-/
set_option autoImplicit false

namespace Recovery

structure ErrorStatus where
  status : String
  message : String
  reason : String
  code : Nat
deriving Repr, DecidableEq

namespace ErrorStatus

def fault (s : ErrorStatus) : ApiFault := .refused s.status s.message s.reason s.code

def form : Json.Form :=
  .strict [.required "status" .text, .defaulted "message" (.string "") .text,
    .defaulted "reason" (.string "") .text, .required "code" .natural16]

def ofNormal? (j : Json) : Option ErrorStatus := do
  return {
    status := ← j.required "status" Json.asString?
    message := ← j.required "message" Json.asString?
    reason := ← j.required "reason" Json.asString?
    code := ← j.required "code" Json.asNat? }

instance : Json.Readable ErrorStatus := ⟨form, ofNormal?⟩

end ErrorStatus

/-- The version that a watch asks for is no longer kept. -/
def goneCode : Nat := 410

inductive EventKind where
  | added
  | modified
  | deleted
  | bookmark
  | error
deriving Repr, DecidableEq

namespace EventKind

def all : List EventKind := [added, modified, deleted, bookmark, error]

def name : EventKind → String
  | .added => "ADDED"
  | .modified => "MODIFIED"
  | .deleted => "DELETED"
  | .bookmark => "BOOKMARK"
  | .error => "ERROR"

def form : Json.Form := .oneOf (all.map name)

def ofNormal? (j : Json) : Option EventKind := j.asString?.bind fun s => all.find? (·.name == s)

instance : Json.Readable EventKind := ⟨form, ofNormal?⟩

end EventKind

inductive WatchEvent (α : Type) where
  | added (object : α)
  | modified (object : α)
  | deleted (object : α)
  /-- The watch has come as far as this version. -/
  | bookmark (version : String)
  | error (status : ErrorStatus)

namespace WatchEvent

variable {α : Type}

/-- A bookmark has metadata; its other fields are looked at last, and its kind and version have to
be among them. -/
def bookmarkForm : Json.Form :=
  .both
    (.collected [.required "metadata" (.strict [.required "resourceVersion" .text,
      .defaulted "annotations" (.object []) Labels.form])])
    (.record ⟨false, false, false⟩ [.required "apiVersion" .text, .required "kind" .text])

def bookmarkVersion? (j : Json) : Option String :=
  (j.get? "metadata").bind fun m => m.required "resourceVersion" Json.asString?

def ofObject [Json.Readable α] (d : Json.Draft) :
    EventKind → Except Json.ReadError (WatchEvent α)
  | .added => (Json.Readable.read d).map .added
  | .modified => (Json.Readable.read d).map .modified
  | .deleted => (Json.Readable.read d).map .deleted
  | .bookmark => do
    match bookmarkVersion? (← bookmarkForm d) with
    | some version => return .bookmark version
    | none => .error .malformed
  | .error => (Json.Readable.read d).map .error

inductive Progress (α : Type) where
  | nothing
  | typed (kind : EventKind)
  | held (object : Json.Draft)
  | complete (event : WatchEvent α)

def readField [Json.Readable α] (progress : Progress α) (field : Option String × Json.Draft) :
    Except Json.ReadError (Progress α) := do
  let name ← Json.Form.nameOf field.1
  if name == "type" then
    match progress with
    | .nothing => (Json.Readable.read field.2).map .typed
    | .held object => do return .complete (← ofObject object (← Json.Readable.read field.2))
    | .typed _ | .complete _ => .error .malformed
  else if name == "object" then
    match progress with
    | .nothing => do
      let _ ← Json.Form.any field.2
      return .held field.2.setAside
    | .typed kind => (ofObject field.2 kind).map .complete
    | .held _ | .complete _ => .error .malformed
  else
    match field.2.skip? with
    | some e => .error e
    | none => return progress

def read [Json.Readable α] : Json.Draft → Except Json.ReadError (WatchEvent α)
  | .object fields stop => do
    match ← fields.foldlM readField .nothing, stop with
    | _, some damage => .error damage.reading
    | .complete event, none => return event
    | _, none => .error .malformed
  | .array [] (some damage) => .error damage.reading
  | .array [kind] stop => do
    let _ : EventKind ← Json.Readable.read kind
    .error ((stop.map Json.Damage.reading).getD .malformed)
  | .array (kind :: object :: rest) stop => do
    let event ← ofObject object (← Json.Readable.read kind)
    match rest, stop with
    | [], none => return event
    | [], some damage => .error damage.reading
    | _, _ => .error .malformed
  | d => .error d.refusal

end WatchEvent

structure Delivery (α : Type) where
  delay : Nat
  event : Except Fault (WatchEvent α)

/-- All that comes out of one watch; then it ends after some time, or stays open without a
word. -/
structure Feed (α : Type) where
  deliveries : List (Delivery α)
  ends : Option Nat

structure Listed (α : Type) where
  items : List α
  version : String

end Recovery
