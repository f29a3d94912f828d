import Mathlib.Algebra.Group.Int.Defs
import Recovery.Proofs.Rpc.Wire
import Recovery.Rpc.Codec
/-!
# Requests survive their binary form

A request that is read from what it is written as is the same request, also if fields follow that
the reader does not know.
-/
set_option autoImplicit false

namespace Recovery

namespace Rpc

namespace Wire

/-! ## Texts as bytes -/

theorem toList_loop (bs : ByteArray) (i : Nat) (read : List UInt8) :
    ByteArray.toList.loop bs i read = read.reverse ++ bs.data.toList.drop i := by
  fun_induction ByteArray.toList.loop bs i read with
  | case1 i read inside ih =>
    rw [ih, List.drop_eq_getElem_cons inside]
    simp [ByteArray.get!, getElem!_pos, inside]
  | case2 i read past =>
    rw [List.drop_eq_nil_of_le (by simpa using past)]
    simp

theorem text?_utf8 (number : Nat) (s : String) :
    (⟨number, .bytes (utf8 s)⟩ : Field).text? = some s := by
  have bytes : (utf8 s).toArray = s.toUTF8.data := by
    rw [utf8, ByteArray.toList, toList_loop]
    simp
  show String.fromUTF8? ⟨(utf8 s).toArray⟩ = some s
  rw [bytes]
  simp only [String.fromUTF8?, String.toUTF8_eq_toByteArray, dif_pos s.isValidUTF8]
  rfl

/-! ## Fields of messages -/

namespace Message

variable {α β : Type} [Message α] [Message β] {depth number : Nat} {a b c : α}
  {fs fs' : List Field}

/-- Fields that can be written and that take a message from `a` to `b` when they are read. -/
structure Carries (depth : Nat) (a : α) (fs : List Field) (b : α) : Prop where
  proper : ∀ f ∈ fs, f.Proper
  reads : fs.foldlM (merge? depth) a = some b

namespace Carries

theorem nil (depth : Nat) (a : α) : Carries depth a [] a := ⟨by simp, rfl⟩

theorem single {f : Field} (proper : f.Proper) (h : merge? depth a f = some b) :
    Carries depth a [f] b :=
  ⟨by simpa using proper, by simp [h]⟩

theorem append (h : Carries depth a fs b) (h' : Carries depth b fs' c) :
    Carries depth a (fs ++ fs') c where
  proper := List.forall_mem_append.mpr ⟨h.proper, h'.proper⟩
  reads := by
    rw [List.foldlM_append, h.reads]
    exact h'.reads

end Carries

/-! A part of a message that is set by one field. What is not written stands there already. -/

section Part

variable (positive : 1 ≤ number) (bound : number < 2 ^ 29)

include positive bound

theorem carries_ofText (set : String → α) (s : String)
    (read : ∀ f : Field, f.number = number → merge? depth (set "") f = f.text?.map set) :
    Carries depth (set "") (Field.ofText number s) (set s) := by
  unfold Field.ofText
  split
  · rename_i empty
    rw [show s = "" by simpa using empty]
    exact .nil depth _
  · apply Carries.single ⟨positive, bound, by simp, by simp⟩
    rw [read _ rfl, text?_utf8]
    rfl

theorem carries_ofTexts (set : List String → α) (xs done : List String)
    (read : ∀ done (f : Field), f.number = number →
      merge? depth (set done) f = f.text?.map fun s => set (done ++ [s])) :
    Carries depth (set done) (Field.ofTexts number xs) (set (done ++ xs)) := by
  induction xs generalizing done with
  | nil =>
    rw [List.append_nil]
    exact .nil depth _
  | cons s xs ih =>
    have first : merge? depth (set done) ⟨number, .bytes (utf8 s)⟩ = some (set (done ++ [s])) := by
      rw [read done _ rfl, text?_utf8]
      rfl
    have rest := ih (done ++ [s])
    rw [List.append_assoc] at rest
    exact (Carries.single ⟨positive, bound, by simp, by simp⟩ first).append rest

theorem carries_ofNumber (set : Nat → α) {n : Nat} (word : n < 2 ^ 32)
    (read : ∀ f : Field, f.number = number → merge? depth (set 0) f = f.word?.map set) :
    Carries depth (set 0) (Field.ofNumber number n) (set n) := by
  unfold Field.ofNumber
  split
  · rename_i zero
    rw [zero]
    exact .nil depth _
  · apply Carries.single ⟨positive, bound, by simp, by simp; omega⟩
    rw [read _ rfl]
    show some (set (n % 2 ^ 32)) = some (set n)
    rw [Nat.mod_eq_of_lt word]

/-- A number with a sign is read from its lower half. -/
theorem carries_ofSigned (set : Int → α) {n : Int} (low : -2 ^ 31 ≤ n) (high : n < 2 ^ 31)
    (read : ∀ f : Field, f.number = number → merge? depth (set 0) f = f.signed?.map set) :
    Carries depth (set 0) (Field.ofSigned number n) (set n) := by
  obtain ⟨m, written⟩ : ∃ m, m = (n % 18446744073709551616).toNat := ⟨_, rfl⟩
  have back : Int.bmod (m % 4294967296 : Nat) 4294967296 = n := by
    rw [Int.bmod_def]
    omega
  unfold Field.ofSigned Field.ofNumber
  rw [← written]
  split
  · rename_i zero
    rw [show n = 0 by omega]
    exact .nil depth _
  · apply Carries.single ⟨positive, bound, by simp, by simp; omega⟩
    rw [read _ rfl]
    show some (set (Int.bmod (m % 4294967296 : Nat) 4294967296)) = some (set n)
    rw [back]

theorem carries_ofBool (set : Bool → α) (b : Bool)
    (read : ∀ f : Field, f.number = number → merge? depth (set false) f = f.bool?.map set) :
    Carries depth (set false) (Field.ofBool number b) (set b) := by
  cases b with
  | false => exact .nil depth _
  | true => exact .single ⟨positive, bound, by simp, by simp⟩ (read ⟨number, .number 1⟩ rfl)

end Part

/-- The message is read again from the fields that it is written as. -/
def Returns (depth : Nat) (a : α) : Prop := Carries (depth + 1) empty (fields a) a

theorem Returns.mergeBytes? (h : Returns depth a) (fits : (encode a).length < 2 ^ 64)
    {parts : List (Field × Bytes)} (stands : ∀ p ∈ parts, Stands (depth + 1) p.1 p.2)
    (unknown : ∀ p ∈ parts, merge? (depth + 1) a p.1 = some a) :
    mergeBytes? (depth + 1) empty (encode a ++ parts.flatMap (·.2)) = some a := by
  have ignored : (parts.map (·.1)).foldlM (merge? (depth + 1)) a = some a := by
    clear stands
    induction parts with
    | nil => rfl
    | cons p parts ih =>
      rw [List.map_cons, List.foldlM_cons, unknown p (by simp)]
      exact ih fun q mem => unknown q (by simp [mem])
  have read := decode?_flatMap stands []
  rw [List.append_nil, decode?_nil] at read
  rw [Message.mergeBytes?, encode, decode?_encode h.proper fits, read]
  show (fields a ++ _).foldlM (merge? (depth + 1)) empty = some a
  simpa [List.foldlM_append, h.reads] using ignored

theorem Returns.mergeBytes?_encode (h : Returns depth a) (fits : (encode a).length < 2 ^ 64) :
    Message.mergeBytes? (depth + 1) empty (encode a) = some a := by
  have read := h.mergeBytes? fits (List.forall_mem_nil _) (List.forall_mem_nil _)
  rwa [List.flatMap_nil, List.append_nil] at read

/-- What is written inside a message is no longer than the message. -/
theorem length_inside_lt {message : Option β} (fits : (encode a).length < 2 ^ 64)
    (part : inside number message ⊆ fields a) : ∀ m ∈ message, (encode m).length < 2 ^ 64 := by
  rintro m rfl
  have mem : ⟨number, .bytes (encode m)⟩ ∈ fields a := part (List.mem_singleton_self _)
  apply Nat.lt_of_le_of_lt _ (Nat.lt_of_le_of_lt (length_encode_le mem) fits)
  simp only [Field.encode, List.length_append]
  omega

/-- A message inside another one, present or not. -/
theorem carries_inside (positive : 1 ≤ number) (bound : number < 2 ^ 29) (set : Option β → α)
    (message : Option β) (fits : ∀ m ∈ message, (encode m).length < 2 ^ 64)
    (returns : ∀ m ∈ message, Returns depth m)
    (read : ∀ f : Field, f.number = number →
      merge? (depth + 2) (set none) f = (mergeInside? (depth + 2) none f).map set) :
    Carries (depth + 2) (set none) (inside number message) (set message) := by
  cases message with
  | none => exact .nil _ _
  | some m =>
    have whole := (returns m rfl).mergeBytes?_encode (fits m rfl)
    apply Carries.single ⟨positive, bound, by simp, by simp⟩
    rw [read _ rfl]
    show Option.map set ((Message.mergeBytes? (depth + 1) empty (encode m)).map some) = _
    rw [whole]
    rfl

end Message

end Wire

open Wire Message

theorem PostgresTls.returns (m : PostgresTls) (depth : Nat) : Returns depth m := by
  have cert : Carries (depth + 1) empty (Field.ofText 1 m.clientCertPath)
      (PostgresTls.mk m.clientCertPath "" "") :=
    carries_ofText (by decide) (by decide) (PostgresTls.mk · "" "") _ (by rintro ⟨_, _⟩ rfl; rfl)
  have key : Carries (depth + 1) _ (Field.ofText 2 m.clientKeyPath) _ :=
    carries_ofText (by decide) (by decide) (PostgresTls.mk m.clientCertPath · "") _
      (by rintro ⟨_, _⟩ rfl; rfl)
  have ca : Carries (depth + 1) _ (Field.ofText 3 m.caCertPath) _ :=
    carries_ofText (by decide) (by decide) (PostgresTls.mk m.clientCertPath m.clientKeyPath) _
      (by rintro ⟨_, _⟩ rfl; rfl)
  exact (cert.append key).append ca

theorem PostgresTarget.returns (m : PostgresTarget) (port : m.port < 2 ^ 32)
    (fits : (Message.encode m).length < 2 ^ 64) (depth : Nat) : Returns (depth + 1) m := by
  have short := length_inside_lt fits (List.subset_append_right _ (Message.inside 5 m.tls))
  have host : Carries (depth + 2) empty (Field.ofText 1 m.host)
      (PostgresTarget.mk m.host 0 "" [] none) :=
    carries_ofText (by decide) (by decide) (PostgresTarget.mk · 0 "" [] none) _
      (by rintro ⟨_, _⟩ rfl; rfl)
  have number : Carries (depth + 2) _ (Field.ofNumber 2 m.port) _ :=
    carries_ofNumber (by decide) (by decide) (PostgresTarget.mk m.host · "" [] none) port
      (by rintro ⟨_, _⟩ rfl; rfl)
  have user : Carries (depth + 2) _ (Field.ofText 3 m.username) _ :=
    carries_ofText (by decide) (by decide) (PostgresTarget.mk m.host m.port · [] none) _
      (by rintro ⟨_, _⟩ rfl; rfl)
  have databases : Carries (depth + 2) _ (Field.ofTexts 4 m.databases) _ :=
    carries_ofTexts (by decide) (by decide)
      (PostgresTarget.mk m.host m.port m.username · none) _ [] (by rintro _ ⟨_, _⟩ rfl; rfl)
  have tls : Carries (depth + 2) _ (Message.inside 5 m.tls) _ :=
    carries_inside (by decide) (by decide)
      (PostgresTarget.mk m.host m.port m.username m.databases) _ short
      (fun tls _ => tls.returns depth) (by rintro ⟨_, _⟩ rfl; rfl)
  exact (((host.append number).append user).append databases).append tls

namespace Request

/-- The numbers in it are those that its fields have room for. -/
def InRange : Request → Prop
  | .dumpPostgres m => ∀ target ∈ m.target, target.port < 2 ^ 32
  | .restorePostgres m => ∀ target ∈ m.target, target.port < 2 ^ 32
  | .syncObjectStorage m => -2 ^ 31 ≤ m.direction ∧ m.direction < 2 ^ 31
  | .syncFiles _ => True

end Request

theorem DumpPostgres.returns (m : DumpPostgres) (inRange : (Request.dumpPostgres m).InRange)
    (fits : (Message.encode m).length < 2 ^ 64) (depth : Nat) : Returns (depth + 2) m := by
  have short := length_inside_lt fits
    (List.subset_append_left (Message.inside 1 m.target) (Field.ofText 2 m.outputDir))
  have target : Carries (depth + 3) empty (Message.inside 1 m.target)
      (DumpPostgres.mk m.target "") :=
    carries_inside (by decide) (by decide) (DumpPostgres.mk · "") _ short
      (fun target present => target.returns (inRange target present) (short target present) depth)
      (by rintro ⟨_, _⟩ rfl; rfl)
  have dir : Carries (depth + 3) _ (Field.ofText 2 m.outputDir) _ :=
    carries_ofText (by decide) (by decide) (DumpPostgres.mk m.target) _ (by rintro ⟨_, _⟩ rfl; rfl)
  exact target.append dir

theorem RestorePostgres.returns (m : RestorePostgres)
    (inRange : (Request.restorePostgres m).InRange) (fits : (Message.encode m).length < 2 ^ 64)
    (depth : Nat) : Returns (depth + 2) m := by
  have short := length_inside_lt fits (List.Subset.trans
    (List.subset_append_left (Message.inside 1 m.target) (Field.ofText 2 m.inputDir))
    (List.subset_append_left _ (Field.ofBool 3 m.clean)))
  have target : Carries (depth + 3) empty (Message.inside 1 m.target)
      (RestorePostgres.mk m.target "" false) :=
    carries_inside (by decide) (by decide) (RestorePostgres.mk · "" false) _ short
      (fun target present => target.returns (inRange target present) (short target present) depth)
      (by rintro ⟨_, _⟩ rfl; rfl)
  have dir : Carries (depth + 3) _ (Field.ofText 2 m.inputDir) _ :=
    carries_ofText (by decide) (by decide) (RestorePostgres.mk m.target · false) _
      (by rintro ⟨_, _⟩ rfl; rfl)
  have clean : Carries (depth + 3) _ (Field.ofBool 3 m.clean) _ :=
    carries_ofBool (by decide) (by decide) (RestorePostgres.mk m.target m.inputDir) _
      (by rintro ⟨_, _⟩ rfl; rfl)
  exact (target.append dir).append clean

theorem SyncObjectStorage.returns (m : SyncObjectStorage)
    (inRange : (Request.syncObjectStorage m).InRange) (depth : Nat) : Returns depth m := by
  have direction : Carries (depth + 1) empty (Field.ofSigned 1 m.direction)
      (SyncObjectStorage.mk m.direction "" "" "" "" "") :=
    carries_ofSigned (by decide) (by decide) (SyncObjectStorage.mk · "" "" "" "" "") inRange.1
      inRange.2 (by rintro ⟨_, _⟩ rfl; rfl)
  have path : Carries (depth + 1) _ (Field.ofText 2 m.localPath) _ :=
    carries_ofText (by decide) (by decide) (SyncObjectStorage.mk m.direction · "" "" "" "") _
      (by rintro ⟨_, _⟩ rfl; rfl)
  have url : Carries (depth + 1) _ (Field.ofText 3 m.remoteUrl) _ :=
    carries_ofText (by decide) (by decide)
      (SyncObjectStorage.mk m.direction m.localPath · "" "" "") _ (by rintro ⟨_, _⟩ rfl; rfl)
  have credentials : Carries (depth + 1) _ (Field.ofText 4 m.credentialsDir) _ :=
    carries_ofText (by decide) (by decide)
      (SyncObjectStorage.mk m.direction m.localPath m.remoteUrl · "" "") _
      (by rintro ⟨_, _⟩ rfl; rfl)
  have endpoint : Carries (depth + 1) _ (Field.ofText 5 m.endpoint) _ :=
    carries_ofText (by decide) (by decide)
      (SyncObjectStorage.mk m.direction m.localPath m.remoteUrl m.credentialsDir · "") _
      (by rintro ⟨_, _⟩ rfl; rfl)
  have region : Carries (depth + 1) _ (Field.ofText 6 m.region) _ :=
    carries_ofText (by decide) (by decide)
      (SyncObjectStorage.mk m.direction m.localPath m.remoteUrl m.credentialsDir m.endpoint) _
      (by rintro ⟨_, _⟩ rfl; rfl)
  exact ((((direction.append path).append url).append credentials).append endpoint).append region

theorem SyncFiles.returns (m : SyncFiles) (depth : Nat) : Returns depth m := by
  have source : Carries (depth + 1) empty (Field.ofText 1 m.sourcePath)
      (SyncFiles.mk m.sourcePath "" false) :=
    carries_ofText (by decide) (by decide) (SyncFiles.mk · "" false) _ (by rintro ⟨_, _⟩ rfl; rfl)
  have destination : Carries (depth + 1) _ (Field.ofText 2 m.destinationPath) _ :=
    carries_ofText (by decide) (by decide) (SyncFiles.mk m.sourcePath · false) _
      (by rintro ⟨_, _⟩ rfl; rfl)
  have extraneous : Carries (depth + 1) _ (Field.ofBool 3 m.deleteExtraneous) _ :=
    carries_ofBool (by decide) (by decide) (SyncFiles.mk m.sourcePath m.destinationPath) _
      (by rintro ⟨_, _⟩ rfl; rfl)
  exact (source.append destination).append extraneous

/-- The fields of a request have the numbers from one up to this. -/
def Method.lastNumber : Method → Nat
  | .dumpPostgres => 2
  | .restorePostgres => 3
  | .syncObjectStorage => 6
  | .syncFiles => 3

section Ignores

variable {f : Field} (depth : Nat)

theorem DumpPostgres.ignores (m : DumpPostgres) (h : Method.dumpPostgres.lastNumber < f.number) :
    merge? depth m f = some m := by
  obtain ⟨number, value⟩ := f
  match number, h with
  | n + 3, _ => rfl

theorem RestorePostgres.ignores (m : RestorePostgres)
    (h : Method.restorePostgres.lastNumber < f.number) : merge? depth m f = some m := by
  obtain ⟨number, value⟩ := f
  match number, h with
  | n + 4, _ => rfl

theorem SyncObjectStorage.ignores (m : SyncObjectStorage)
    (h : Method.syncObjectStorage.lastNumber < f.number) : merge? depth m f = some m := by
  obtain ⟨number, value⟩ := f
  match number, h with
  | n + 7, _ => rfl

theorem SyncFiles.ignores (m : SyncFiles) (h : Method.syncFiles.lastNumber < f.number) :
    merge? depth m f = some m := by
  obtain ⟨number, value⟩ := f
  match number, h with
  | n + 4, _ => rfl

end Ignores

namespace Request

theorem decode?_encode (r : Request) (inRange : r.InRange) (fits : r.encode.length < 2 ^ 64) :
    decode? r.method r.encode = some r := by
  cases r with
  | dumpPostgres m =>
    exact congrArg (Option.map dumpPostgres) ((m.returns inRange fits 97).mergeBytes?_encode fits)
  | restorePostgres m =>
    exact congrArg (Option.map restorePostgres)
      ((m.returns inRange fits 97).mergeBytes?_encode fits)
  | syncObjectStorage m =>
    exact congrArg (Option.map syncObjectStorage) ((m.returns inRange 99).mergeBytes?_encode fits)
  | syncFiles m => exact congrArg (Option.map syncFiles) ((m.returns 99).mergeBytes?_encode fits)

/-- A request is read from what it is written as, also if fields follow that have numbers of none
of its own and in which groups are not nested too deep. -/
theorem decode?_encode_append (r : Request) (inRange : r.InRange)
    (fits : r.encode.length < 2 ^ 64) {later : List (Field × Bytes)}
    (stands : ∀ p ∈ later, Stands maxDepth p.1 p.2)
    (unknown : ∀ p ∈ later, r.method.lastNumber < p.1.number) :
    decode? r.method (r.encode ++ later.flatMap (·.2)) = some r := by
  cases r with
  | dumpPostgres m =>
    have read := (m.returns inRange fits 97).mergeBytes? fits stands fun p mem =>
      m.ignores maxDepth (unknown p mem)
    exact congrArg (Option.map dumpPostgres) read
  | restorePostgres m =>
    have read := (m.returns inRange fits 97).mergeBytes? fits stands fun p mem =>
      m.ignores maxDepth (unknown p mem)
    exact congrArg (Option.map restorePostgres) read
  | syncObjectStorage m =>
    have read := (m.returns inRange 99).mergeBytes? fits stands fun p mem =>
      m.ignores maxDepth (unknown p mem)
    exact congrArg (Option.map syncObjectStorage) read
  | syncFiles m =>
    have read := (m.returns 99).mergeBytes? fits stands fun p mem =>
      m.ignores maxDepth (unknown p mem)
    exact congrArg (Option.map syncFiles) read

/-- A dump of a database without a name, whose server has a certificate that is given by no files,
and after it a group of a number. -/
theorem decode?_encode_append_group :
    let r := dumpPostgres ⟨some ⟨"", 5432, "", [""], some ⟨"", "", ""⟩⟩, "/dr"⟩
    let group := key 9 3 ++ (key 10 0 ++ varint 1) ++ key 9 4
    r.InRange ∧ r.encode.length < 2 ^ 64 ∧ Stands maxDepth ⟨9, .skipped⟩ group ∧
      decode? .dumpPostgres (r.encode ++ group) = some r := by
  intro r group
  have inRange : r.InRange := by simp [r, InRange]
  have fits : r.encode.length < 2 ^ 64 := by decide +kernel
  have one : Stands 99 ⟨10, .number 1⟩ (key 10 0 ++ varint 1) :=
    .plain (key_key (by decide) (by decide) (by decide)) (.number (varint_varint (by decide)))
  have stands : Stands maxDepth ⟨9, .skipped⟩ group := by
    have parts : ∀ p ∈ [(⟨10, .number 1⟩, key 10 0 ++ varint 1)], Stands 99 p.1 p.2 :=
      List.forall_mem_singleton.mpr one
    have whole : Stands maxDepth _ _ := .group (key_key (by decide) (by decide) (by decide)) parts
      (key_key (by decide) (show 1 ≤ 9 by decide) (by decide))
    rwa [List.flatMap_singleton] at whole
  have later : ∀ p ∈ [((⟨9, .skipped⟩ : Field), group)], Stands maxDepth p.1 p.2 :=
    List.forall_mem_singleton.mpr stands
  have read := decode?_encode_append r inRange fits later
    (List.forall_mem_singleton.mpr (by decide))
  rw [List.flatMap_singleton] at read
  exact ⟨inRange, fits, stands, read⟩

/-- Groups that are nested one deeper stand for a field all the same, but are not passed over. -/
theorem decode?_encode_append_nested :
    let r := syncFiles ⟨"", "", false⟩
    r.method.lastNumber < 4 ∧ Stands 101 ⟨4, .skipped⟩ (nested 4 101) ∧
      decode? r.method (r.encode ++ nested 4 101) ≠ some r := by
  intro r
  have refused : Wire.decode? maxDepth (nested 4 101) = none :=
    decode?_nested (by decide) (by decide) 99
  refine ⟨by decide, stands_nested (by decide) (by decide) 100, ?_⟩
  show ((Wire.decode? maxDepth (nested 4 101)).bind _).map syncFiles ≠ _
  rw [refused]
  exact nofun

end Request

end Rpc

end Recovery
