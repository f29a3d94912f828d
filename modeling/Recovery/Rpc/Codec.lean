import Recovery.Rpc.Message
import Recovery.Rpc.Wire
/-!
# Requests in binary form

Which number each field of a request has. Fields are written in the order of their numbers and
those that hold their default are left out; a message inside another one is written even if it is
empty. On reading the last value of a field counts, messages inside another one are merged, and
unknown fields are ignored.
-/
set_option autoImplicit false

namespace Recovery

namespace Rpc

namespace Wire

/-- Messages at the outside may hold groups this deep. -/
def maxDepth : Nat := 100

def utf8 (s : String) : Bytes := s.toUTF8.toList

namespace Field

def text? (f : Field) : Option String :=
  match f.value with
  | .bytes bs => String.fromUTF8? ⟨bs.toArray⟩
  | _ => none

def bytes? (f : Field) : Option Bytes :=
  match f.value with
  | .bytes bs => some bs
  | _ => none

def number? (f : Field) : Option Nat :=
  match f.value with
  | .number n => some n
  | _ => none

def bool? (f : Field) : Option Bool := f.number?.map (· != 0)

def word? (f : Field) : Option Nat := f.number?.map (· % 4294967296)

def signed? (f : Field) : Option Int := f.word?.map fun n => Int.bmod n 4294967296

def ofText (number : Nat) (s : String) : List Field :=
  if s.isEmpty then [] else [⟨number, .bytes (utf8 s)⟩]

def ofTexts (number : Nat) (xs : List String) : List Field :=
  xs.map fun s => ⟨number, .bytes (utf8 s)⟩

def ofNumber (number n : Nat) : List Field := if n = 0 then [] else [⟨number, .number n⟩]

/-- A negative number is written as the one that is 2^64 above it. -/
def ofSigned (number : Nat) (n : Int) : List Field :=
  ofNumber number (n % 18446744073709551616).toNat

def ofBool (number : Nat) (b : Bool) : List Field := ofNumber number b.toNat

end Field

class Message (α : Type) where
  empty : α
  fields : α → List Field
  /-- The message after one more field has been read, with the depth that groups may have. -/
  merge? : Nat → α → Field → Option α

namespace Message

variable {α : Type} [Message α]

def encode (message : α) : Bytes := Wire.encode (fields message)

def mergeBytes? (depth : Nat) (message : α) (bs : Bytes) : Option α :=
  (Wire.decode? depth bs).bind (·.foldlM (merge? depth) message)

def decode? (bs : Bytes) : Option α := mergeBytes? maxDepth empty bs

def inside (number : Nat) (message : Option α) : List Field :=
  match message with
  | some message => [⟨number, .bytes (encode message)⟩]
  | none => []

def mergeInside? (depth : Nat) (message : Option α) (f : Field) : Option (Option α) :=
  f.bytes?.bind fun bs => (mergeBytes? (depth - 1) (message.getD empty) bs).map some

end Message

end Wire

open Wire

instance : Message PostgresTls where
  empty := ⟨"", "", ""⟩
  fields m := Field.ofText 1 m.clientCertPath ++ Field.ofText 2 m.clientKeyPath ++
    Field.ofText 3 m.caCertPath
  merge? _ m f :=
    match f.number with
    | 1 => f.text?.map fun s => { m with clientCertPath := s }
    | 2 => f.text?.map fun s => { m with clientKeyPath := s }
    | 3 => f.text?.map fun s => { m with caCertPath := s }
    | _ => some m

instance : Message PostgresTarget where
  empty := ⟨"", 0, "", [], none⟩
  fields m := Field.ofText 1 m.host ++ Field.ofNumber 2 m.port ++ Field.ofText 3 m.username ++
    Field.ofTexts 4 m.databases ++ Message.inside 5 m.tls
  merge? depth m f :=
    match f.number with
    | 1 => f.text?.map fun s => { m with host := s }
    | 2 => f.word?.map fun n => { m with port := n }
    | 3 => f.text?.map fun s => { m with username := s }
    | 4 => f.text?.map fun s => { m with databases := m.databases ++ [s] }
    | 5 => (Message.mergeInside? depth m.tls f).map fun tls => { m with tls }
    | _ => some m

instance : Message DumpPostgres where
  empty := ⟨none, ""⟩
  fields m := Message.inside 1 m.target ++ Field.ofText 2 m.outputDir
  merge? depth m f :=
    match f.number with
    | 1 => (Message.mergeInside? depth m.target f).map fun target => { m with target }
    | 2 => f.text?.map fun s => { m with outputDir := s }
    | _ => some m

instance : Message RestorePostgres where
  empty := ⟨none, "", false⟩
  fields m := Message.inside 1 m.target ++ Field.ofText 2 m.inputDir ++ Field.ofBool 3 m.clean
  merge? depth m f :=
    match f.number with
    | 1 => (Message.mergeInside? depth m.target f).map fun target => { m with target }
    | 2 => f.text?.map fun s => { m with inputDir := s }
    | 3 => f.bool?.map fun b => { m with clean := b }
    | _ => some m

instance : Message SyncObjectStorage where
  empty := ⟨0, "", "", "", "", ""⟩
  fields m := Field.ofSigned 1 m.direction ++ Field.ofText 2 m.localPath ++
    Field.ofText 3 m.remoteUrl ++ Field.ofText 4 m.credentialsDir ++ Field.ofText 5 m.endpoint ++
    Field.ofText 6 m.region
  merge? _ m f :=
    match f.number with
    | 1 => f.signed?.map fun n => { m with direction := n }
    | 2 => f.text?.map fun s => { m with localPath := s }
    | 3 => f.text?.map fun s => { m with remoteUrl := s }
    | 4 => f.text?.map fun s => { m with credentialsDir := s }
    | 5 => f.text?.map fun s => { m with endpoint := s }
    | 6 => f.text?.map fun s => { m with region := s }
    | _ => some m

instance : Message SyncFiles where
  empty := ⟨"", "", false⟩
  fields m := Field.ofText 1 m.sourcePath ++ Field.ofText 2 m.destinationPath ++
    Field.ofBool 3 m.deleteExtraneous
  merge? _ m f :=
    match f.number with
    | 1 => f.text?.map fun s => { m with sourcePath := s }
    | 2 => f.text?.map fun s => { m with destinationPath := s }
    | 3 => f.bool?.map fun b => { m with deleteExtraneous := b }
    | _ => some m

namespace Request

def encode : Request → Bytes
  | .dumpPostgres m => Message.encode m
  | .restorePostgres m => Message.encode m
  | .syncObjectStorage m => Message.encode m
  | .syncFiles m => Message.encode m

def decode? (method : Method) (bs : Bytes) : Option Request :=
  match method with
  | .dumpPostgres => (Message.decode? bs).map dumpPostgres
  | .restorePostgres => (Message.decode? bs).map restorePostgres
  | .syncObjectStorage => (Message.decode? bs).map syncObjectStorage
  | .syncFiles => (Message.decode? bs).map syncFiles

end Request

end Rpc

end Recovery
