import Mathlib.Tactic.Simps.Basic
import Recovery.Proofs.Json.Settled
/-!
# Values and their documents

How values of a type are written and read, such that what is written of a value is read as the
same value. Records are put together from such parts.
-/
set_option autoImplicit false

namespace Recovery

namespace Json

open Form (Field)

/-- How the values of a type stand in documents of a form. -/
structure Codec (α : Type) where
  form : Form
  ofNormal? : Json → Option α
  toJson : α → Json
  /-- What holds of each value that is read. -/
  Sound : α → Prop
  returns {a : α} : Sound a → ∃ n, form (.ofJson (toJson a)) = .ok n ∧ ofNormal? n = some a
  sound {d : Draft} {n : Json} {a : α} : form d = .ok n → ofNormal? n = some a → Sound a
  toJson_ne_null (a : α) : toJson a ≠ .null

namespace Codec

variable {α : Type}

/-- All values of the type are sound. -/
abbrev total (form : Form) (ofNormal? : Json → Option α) (toJson : α → Json)
    (returns : ∀ a, ∃ n, form (.ofJson (toJson a)) = .ok n ∧ ofNormal? n = some a)
    (toJson_ne_null : ∀ a, toJson a ≠ .null) : Codec α :=
  ⟨form, ofNormal?, toJson, fun _ => True, fun {a} _ => returns a, fun _ _ => trivial,
    toJson_ne_null⟩

@[simps! -fullyApplied]
def text : Codec String := total .text asString? .string (fun _ => ⟨_, rfl, rfl⟩) nofun

@[simps! -fullyApplied]
def flag : Codec Bool := total .flag asBool? .bool (fun _ => ⟨_, rfl, rfl⟩) nofun

/-- Numbers of 32 bits with a sign. -/
def IsInt32 (n : Int) : Prop := -2147483648 ≤ n ∧ n ≤ 2147483647

@[simps -fullyApplied]
def int32 : Codec Int where
  form := .int32
  ofNormal? := asInt?
  toJson := .integer
  Sound := IsInt32
  returns inside := ⟨_, Form.whole_ofJson inside.1 inside.2, rfl⟩
  sound made read := by
    obtain ⟨n, low, high, rfl⟩ := Form.whole_eq_ok made
    cases read
    exact ⟨low, high⟩
  toJson_ne_null _ := nofun

theorem mapM_returns (c : Codec α) {xs : List α} (sound : ∀ x ∈ xs, c.Sound x) :
    ∃ ns, (Draft.ofItems (xs.map c.toJson)).mapM c.form = .ok ns ∧
      ns.mapM c.ofNormal? = some xs := by
  induction xs with
  | nil => exact ⟨[], rfl, rfl⟩
  | cons x xs ih =>
    obtain ⟨n, made, read⟩ := c.returns (sound x List.mem_cons_self)
    obtain ⟨ns, mades, reads⟩ := ih fun y member => sound y (List.mem_cons_of_mem _ member)
    refine ⟨n :: ns, ?_, ?_⟩
    · rw [List.map_cons, Draft.ofItems, List.mapM_cons, made, ok_bind, mades]
      rfl
    · rw [List.mapM_cons, read, reads]
      rfl

theorem mapM_sound (c : Codec α) {ds : List Draft} {ns : List Json} {xs : List α}
    (made : ds.mapM c.form = .ok ns) (read : ns.mapM c.ofNormal? = some xs) :
    ∀ x ∈ xs, c.Sound x := by
  induction ds generalizing ns xs with
  | nil =>
    cases made
    cases read
    simp
  | cons d ds ih =>
    rw [List.mapM_cons] at made
    obtain ⟨n, first, rest⟩ := bind_eq_ok_iff.mp made
    obtain ⟨others, others_eq, same⟩ := bind_eq_ok_iff.mp rest
    cases same
    simp only [List.mapM_cons, Option.bind_eq_bind, Option.bind_eq_some_iff, Option.pure_def,
      Option.some.injEq] at read
    obtain ⟨x, first_read, ys, others_read, rfl⟩ := read
    exact List.forall_mem_cons.mpr ⟨c.sound first first_read, ih others_eq others_read⟩

@[simps -fullyApplied]
def list (c : Codec α) : Codec (List α) where
  form := .listOf c.form
  ofNormal? := asListOf? c.ofNormal?
  toJson xs := .array (xs.map c.toJson)
  Sound xs := ∀ x ∈ xs, c.Sound x
  returns sound := by
    obtain ⟨ns, made, read⟩ := c.mapM_returns sound
    refine ⟨.array ns, ?_, read⟩
    rw [Draft.ofJson, Form.listOf, made]
    rfl
  sound made read := by
    obtain ⟨items, ns, rfl, each, rfl⟩ := Form.listOf_eq_ok made
    exact c.mapM_sound each read
  toJson_ne_null _ := nofun

/-! ## Fields of records -/

/-- A field of a record that is written, and what is then read of the record. -/
structure Entry where
  field : Field
  written : Option Json
  Read : Json → Prop

/-- What is made of the field is all it takes to read what should be read. -/
def Entry.Returns (e : Entry) : Prop :=
  ∃ made, e.field.Makes (e.written.map Draft.ofJson) made ∧
    ∀ n, n.get? e.field.name = made → e.Read n

theorem makes_some (c : Codec α) {f : Field} (form_eq : f.form = c.form) {a : α}
    (sound : c.Sound a) :
    ∃ n, f.Makes (some (.ofJson (c.toJson a))) (some n) ∧ c.ofNormal? n = some a := by
  obtain ⟨n, made, read⟩ := c.returns sound
  refine ⟨n, ⟨some n, ?_, rfl⟩, read⟩
  have read_eq : ∀ j, j ≠ .null → f.read (.ofJson j) = (c.form (.ofJson j)).map some := by
    intro j other
    rw [← form_eq]
    cases j <;> first | contradiction | rfl
  rw [Field.readGiven, read_eq _ (c.toJson_ne_null a), made]
  rfl

/-- A value that must be there. -/
def required (c : Codec α) (name : String) (a : α) : Entry :=
  ⟨.required name c.form, some (c.toJson a), fun n => n.required name c.ofNormal? = some a⟩

@[simp] theorem required_returns (c : Codec α) (name : String) {a : α} (sound : c.Sound a) :
    (c.required name a).Returns := by
  obtain ⟨n, makes, read⟩ := c.makes_some (f := .required name c.form) rfl sound
  exact ⟨some n, makes, fun _ found => Option.bind_eq_some_iff.mpr ⟨n, found, read⟩⟩

/-- A value with a default, for which it may be left out. -/
def defaulted (c : Codec α) (name : String) (default : Json) (written : Option Json) (a : α) :
    Entry :=
  ⟨.defaulted name default c.form, written, fun n => n.required name c.ofNormal? = some a⟩

@[simp] theorem defaulted_returns (c : Codec α) (name : String) (default : Json) {a : α}
    (sound : c.Sound a) : (c.defaulted name default (some (c.toJson a)) a).Returns := by
  obtain ⟨n, makes, read⟩ := c.makes_some (f := .defaulted name default c.form) rfl sound
  exact ⟨some n, makes, fun _ found => Option.bind_eq_some_iff.mpr ⟨n, found, read⟩⟩

theorem defaulted_none_returns (c : Codec α) (name : String) {default : Json} {a : α}
    (read : c.ofNormal? default = some a) : (c.defaulted name default none a).Returns :=
  ⟨some default, ⟨none, rfl, rfl⟩, fun _ found =>
    Option.bind_eq_some_iff.mpr ⟨default, found, read⟩⟩

/-- A value that may be missing, where the field is a kind of optional one. -/
def perhaps (c : Codec α) (field : Field) (a : Option α) : Entry :=
  ⟨field, a.map c.toJson, fun n => n.optional field.name c.ofNormal? = some a⟩

theorem perhaps_returns (c : Codec α) {f : Field} (form_eq : f.form = c.form)
    (omitted : f.absence = .omitted) {a : Option α} (sound : ∀ b ∈ a, c.Sound b) :
    (c.perhaps f a).Returns := by
  cases a with
  | none =>
    refine ⟨none, Form.Field.makes_none omitted, fun record found => ?_⟩
    show record.optional f.name c.ofNormal? = some none
    rw [Json.optional, show record.get? f.name = none from found]
  | some b =>
    obtain ⟨n, makes, read⟩ := c.makes_some form_eq (sound b rfl)
    refine ⟨some n, makes, fun record found => ?_⟩
    show record.optional f.name c.ofNormal? = some (some b)
    rw [Json.optional, show record.get? f.name = some n from found]
    simp only [read, Option.map_some]

def optional (c : Codec α) (name : String) (a : Option α) : Entry :=
  c.perhaps (.optional name c.form) a

def optionalLast (c : Codec α) (name : String) (a : Option α) : Entry :=
  c.perhaps (.optionalLast name c.form) a

@[simp] theorem optional_returns (c : Codec α) (name : String) {a : Option α}
    (sound : ∀ b ∈ a, c.Sound b) : (c.optional name a).Returns :=
  c.perhaps_returns rfl rfl sound

@[simp] theorem optionalLast_returns (c : Codec α) (name : String) {a : Option α}
    (sound : ∀ b ∈ a, c.Sound b) : (c.optionalLast name a).Returns :=
  c.perhaps_returns rfl rfl sound

section Simp

variable (c : Codec α) (name : String) (default : Json) (written : Option Json) (a : α)
  (b : Option α) (n : Json)

@[simp] theorem required_name : (c.required name a).field.name = name := rfl

@[simp] theorem defaulted_name : (c.defaulted name default written a).field.name = name := rfl

@[simp] theorem optional_name : (c.optional name b).field.name = name := rfl

@[simp] theorem optionalLast_name : (c.optionalLast name b).field.name = name := rfl

@[simp] theorem required_read :
    (c.required name a).Read n ↔ n.required name c.ofNormal? = some a :=
  Iff.rfl

@[simp] theorem defaulted_read :
    (c.defaulted name default written a).Read n ↔ n.required name c.ofNormal? = some a :=
  Iff.rfl

@[simp] theorem optional_read :
    (c.optional name b).Read n ↔ n.optional name c.ofNormal? = some b :=
  Iff.rfl

@[simp] theorem optionalLast_read :
    (c.optionalLast name b).Read n ↔ n.optional name c.ofNormal? = some b :=
  Iff.rfl

end Simp

/-! ## Records -/

theorem record_once {written : List (String × Option Json)} (once : (written.map (·.1)).Nodup) :
    ((written.filterMap fun (name, value) => value.map (name, ·)).map (·.1)).Nodup := by
  have sublist : ((written.filterMap fun (name, value) => value.map (name, ·)).map (·.1)).Sublist
      (written.map (·.1)) := by
    clear once
    induction written with
    | nil => exact .slnil
    | cons field written ih =>
      obtain ⟨name, value⟩ := field
      cases value with
      | none => simpa using ih.cons name
      | some j => simpa using ih.cons_cons name
  exact sublist.nodup once

theorem lookup_record {written : List (String × Option Json)} (once : (written.map (·.1)).Nodup)
    (name : String) :
    (written.filterMap fun (name, value) => value.map (name, ·)).lookup name =
      (written.lookup name).join := by
  induction written with
  | nil => rfl
  | cons field written ih =>
    obtain ⟨head, value⟩ := field
    rw [List.map_cons, List.nodup_cons] at once
    rw [lookup_cons_eq_ite]
    by_cases same : name = head
    · subst same
      cases value with
      | none => simp [ih once.2, lookup_of_not_mem once.1]
      | some j => simp
    · have other : (name == head) = false := by simpa using same
      cases value <;> simp [ih once.2, other, lookup_cons_eq_ite]

theorem append_record (written : List (String × Option Json)) (more : List (String × Json)) :
    (Json.record written).append more =
      .record (written ++ more.map fun field => (field.1, some field.2)) := by
  rw [Json.record, Json.record, Json.append, List.filterMap_append, List.filterMap_map]
  congr 2
  exact (List.filterMap_some ..).symm

/-- A record is accepted if its entries return and the rest of its fields is accepted. Its entries
are then read. -/
theorem record_returns {layout : Form.Layout} {fields : List Field} {entries : List Entry}
    {written : List (String × Option Json)} (exact_names : layout.readable = false)
    (distinct : (fields.map (·.name)).Nodup) (once : (written.map (·.1)).Nodup)
    (declared : ∀ e ∈ entries, e.field ∈ fields)
    (inside : ∀ e ∈ entries, (e.field.name, e.written) ∈ written)
    (returns : ∀ e ∈ entries, e.Returns)
    (rest : ∀ f ∈ fields, (∃ e ∈ entries, e.field = f) ∨
      ∃ made, f.Makes ((written.lookup f.name).join.map Draft.ofJson) made) :
    ∃ n, Form.record layout fields (.ofJson (.record written)) = .ok n ∧
      Form.Makes fields (fun name => (written.lookup name).join.map Draft.ofJson) n ∧
      ∀ e ∈ entries, e.Read n := by
  have written_eq : ∀ e ∈ entries, (written.lookup e.field.name).join = e.written := by
    intro e member
    rw [lookup_of_mem once (inside e member)]
    rfl
  obtain ⟨n, made, makes⟩ := Form.record_ofJson exact_names distinct (record_once once) (by
    intro f member
    rw [lookup_record once]
    rcases rest f member with ⟨e, e_member, rfl⟩ | accepted
    · obtain ⟨made, makes, _⟩ := returns e e_member
      exact ⟨made, written_eq e e_member ▸ makes⟩
    · exact accepted)
  simp only [lookup_record once] at makes
  refine ⟨n, made, makes, fun e member => ?_⟩
  obtain ⟨made, makes_e, read⟩ := returns e member
  have makes_n := makes.makes e.field (declared e member)
  rw [written_eq e member] at makes_n
  exact read n (makes_n.unique makes_e)

/-- A record all of whose fields are entries is read as it was written, also if other fields are
written with them. -/
theorem strict_returns {form : Form} {ofNormal? : Json → Option α} {toJson : α → Json} {a : α}
    (others : List (String × Option Json)) (entries : List Entry)
    (form_eq : form = Form.strict (entries.map (·.field)))
    (toJson_eq : toJson a =
      .record (others ++ entries.map fun e => (e.field.name, e.written)))
    (once : (others.map (·.1) ++ entries.map fun e => e.field.name).Nodup)
    (returns : ∀ e ∈ entries, e.Returns)
    (read : ∀ n, (∀ e ∈ entries, e.Read n) → ofNormal? n = some a) :
    ∃ n, form (.ofJson (toJson a)) = .ok n ∧ ofNormal? n = some a := by
  have names_eq : (others ++ entries.map fun e => (e.field.name, e.written)).map (·.1) =
      others.map (·.1) ++ entries.map fun e => e.field.name := by
    simp
  have distinct : ((entries.map (·.field)).map (·.name)).Nodup := by
    rw [List.map_map]
    exact (List.nodup_append.mp once).2.1
  have exact_names : (⟨true, false, false⟩ : Form.Layout).readable = false := rfl
  obtain ⟨n, made, _, reads⟩ := record_returns exact_names distinct (names_eq ▸ once)
    (fun e member => List.mem_map_of_mem member)
    (fun e member => List.mem_append_right _ (List.mem_map_of_mem member)) returns
    (fun f member => .inl (List.mem_map.mp member))
  rw [form_eq, toJson_eq]
  exact ⟨n, made, read n reads⟩

/-- Records all of whose values are sound. Entries that return by their own lemmas need no argument
but how they are read. -/
abbrev ofEntries (form : Form) (ofNormal? : Json → Option α) (toJson : α → Json)
    (entries : α → List Entry)
    (read : ∀ a n, (∀ e ∈ entries a, e.Read n) → ofNormal? n = some a)
    (returns : ∀ a, ∀ e ∈ entries a, e.Returns := by simp)
    (form_eq : ∀ a, form = Form.strict ((entries a).map (·.field)) := by exact fun _ => rfl)
    (toJson_eq : ∀ a, toJson a =
      .record ((entries a).map fun e => (e.field.name, e.written)) := by exact fun _ => rfl)
    (once : ∀ a, ((entries a).map fun e => e.field.name).Nodup := by simp) : Codec α :=
  total form ofNormal? toJson
    (fun a => strict_returns [] (entries a) (form_eq a) (toJson_eq a) (once a) (returns a) (read a))
    fun a => by
      rw [toJson_eq a]
      nofun

/-! ## What is read of a record is sound -/

section Sound

variable {layout : Form.Layout} {fields : List Field} {f : Field} {d : Draft} {n : Json}

theorem sound_of_get? (c : Codec α) (distinct : (fields.map (·.name)).Nodup)
    (made : Form.record layout fields d = .ok n) (declared : f ∈ fields)
    (form_eq : f.form = c.form) (plain : ∀ j, f.absence ≠ .given j) {j : Json} {a : α}
    (found : n.get? f.name = some j) (read : c.ofNormal? j = some a) : c.Sound a := by
  have makes := (Form.record_eq_ok distinct made).makes f declared
  rw [found] at makes
  obtain ⟨d', _, inside⟩ := makes.form_eq_ok plain
  rw [form_eq] at inside
  exact c.sound inside read

theorem sound_of_required (c : Codec α) (distinct : (fields.map (·.name)).Nodup)
    (made : Form.record layout fields d = .ok n) {name : String}
    (declared : .required name c.form ∈ fields) {a : α}
    (read : n.required name c.ofNormal? = some a) : c.Sound a := by
  obtain ⟨j, found, read⟩ := Option.bind_eq_some_iff.mp read
  exact c.sound_of_get? distinct made declared rfl nofun found read

theorem sound_of_optional (c : Codec α) (distinct : (fields.map (·.name)).Nodup)
    (made : Form.record layout fields d = .ok n) (declared : f ∈ fields)
    (form_eq : f.form = c.form) (omitted : f.absence = .omitted) {a : Option α}
    (read : n.optional f.name c.ofNormal? = some a) : ∀ b ∈ a, c.Sound b := by
  rintro b rfl
  unfold Json.optional at read
  cases found : n.get? f.name with
  | none =>
    rw [found] at read
    cases read
  | some j =>
    rw [found] at read
    obtain ⟨_, read, same⟩ := Option.map_eq_some_iff.mp read
    cases same
    exact c.sound_of_get? distinct made declared form_eq (by rw [omitted]; nofun) found read

end Sound

end Codec

section Readable

variable {α : Type} [Readable α]

theorem read_eq_ok_iff {d : Draft} {a : α} : Readable.read d = .ok a ↔
    ∃ n, Readable.form α d = .ok n ∧ Readable.ofNormal? n = some a := by
  rw [Readable.read, bind_eq_ok_iff]
  refine exists_congr fun n => and_congr_right fun _ => ?_
  cases Readable.ofNormal? (α := α) n with
  | none => simp
  | some b => simp [pure, Except.pure]

theorem ofJson?_eq_some_iff {j : Json} {a : α} :
    Readable.ofJson? j = some a ↔ Readable.read (.ofJson j) = .ok a := by
  rw [Readable.ofJson?]
  cases Readable.read (α := α) (.ofJson j) <;> simp [Except.toOption]

end Readable

end Json

end Recovery
