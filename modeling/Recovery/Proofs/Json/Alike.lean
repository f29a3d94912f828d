import Recovery.Proofs.Json.Record
/-!
# Documents that say the same

To a record it makes no difference whether a field that may be null is null or absent, and none what
stands in fields of undeclared names. Documents that differ in nothing else, however deep, are read
as the same.
-/
set_option autoImplicit false

namespace Recovery

namespace Json

open Form

/-- The documents say the same to a form. -/
inductive Alike : Form → Json → Json → Prop where
  | refl (form : Form) (j : Json) : Alike form j j
  | symm {form : Form} {j j' : Json} : Alike form j j' → Alike form j' j
  | trans {form : Form} {j j' j'' : Json} : Alike form j j' → Alike form j' j'' → Alike form j j''
  /-- A field of an undeclared name may be dropped. -/
  | unknown {layout : Layout} {fields : List Field} {name : String}
      (exact_names : layout.readable = false)
      (undeclared : fields.find? (·.name == name) = none) (before after : List (String × Json))
      (j : Json) :
      Alike (Form.record layout fields) (.object (before ++ (name, j) :: after))
        (.object (before ++ after))
  /-- A field that may be null may as well be absent. -/
  | null {layout : Layout} {fields : List Field} {f : Field} {before after : List (String × Json)}
      (declared : fields.find? (·.name == f.name) = some f) (nullable : f.nullable = true)
      (once : f.name ∉ (before ++ after).map (·.1)) :
      Alike (Form.record layout fields) (.object (before ++ (f.name, .null) :: after))
        (.object (before ++ after))
  /-- In an array of the fields it may be absent from the end. -/
  | last {layout : Layout} {fields later : List Field} {f : Field} {before : List Json}
      (nullable : f.nullable = true) (trailing : f.trailing = true)
      (place : before.length = fields.length) :
      Alike (Form.record layout (fields ++ f :: later)) (.array (before ++ [.null])) (.array before)
  | field {layout : Layout} {fields : List Field} {f : Field} {j j' : Json}
      (declared : fields.find? (·.name == f.name) = some f) (inside : Alike f.form j j')
      (before after : List (String × Json)) :
      Alike (Form.record layout fields) (.object (before ++ (f.name, j) :: after))
        (.object (before ++ (f.name, j') :: after))
  | position {layout : Layout} {fields later : List Field} {f : Field} {before : List Json}
      {j j' : Json} (place : before.length = fields.length) (inside : Alike f.form j j')
      (after : List Json) :
      Alike (Form.record layout (fields ++ f :: later)) (.array (before ++ j :: after))
        (.array (before ++ j' :: after))
  | item {item : Form} {j j' : Json} (inside : Alike item j j') (before after : List Json) :
      Alike (listOf item) (.array (before ++ j :: after)) (.array (before ++ j' :: after))

namespace Form

variable {layout : Layout} {fields later : List Field} {f : Field}

theorem ofItems_append (before after : List Json) :
    Draft.ofItems (before ++ after) = Draft.ofItems before ++ Draft.ofItems after := by
  simp [ofItems_eq_map]

theorem ofFields_append (before after : List (String × Json)) :
    Draft.ofFields (before ++ after) = Draft.ofFields before ++ Draft.ofFields after := by
  simp [ofFields_eq_map]

theorem record_object (written : List (String × Json)) :
    record layout fields (.ofJson (.object written)) =
      ((Draft.ofFields written).foldlM (readField layout fields) [] >>= complete fields) :=
  rfl

/-! ## Fields that agree -/

theorem complete_congr {read read' : List (String × Option Json)}
    (same : ∀ name, (read.lookup name).join = (read'.lookup name).join) :
    complete fields read = complete fields read' := by
  simp only [complete, same]

/-- What was read so far differs at most in whether a field is null or absent. -/
structure Agree (name : String) (read read' : List (String × Option Json)) : Prop where
  others : ∀ asked, asked ≠ name → read.lookup asked = read'.lookup asked
  here : (read.lookup name).join = (read'.lookup name).join

theorem Agree.put {name other : String} {read read' : List (String × Option Json)}
    (agree : Agree name read read') (value : Option Json) :
    Agree name (put other value read) (put other value read') where
  others asked different := by
    rw [lookup_put, lookup_put, agree.others asked different]
  here := by
    rw [lookup_put, lookup_put]
    split
    · rfl
    · exact agree.here

theorem Agree.complete {name : String} {read read' : List (String × Option Json)}
    (agree : Agree name read read') : complete fields read = complete fields read' := by
  apply complete_congr
  intro asked
  by_cases same : asked = name
  · rw [same, agree.here]
  · rw [agree.others asked same]

theorem Agree.foldlM {name : String} {read read' : List (String × Option Json)}
    (agree : Agree name read read') {written : List (Option String × Draft)}
    (absent : some name ∉ written.map (·.1)) :
    (written.foldlM (readField layout fields) read >>= Form.complete fields) =
      (written.foldlM (readField layout fields) read' >>= Form.complete fields) := by
  induction written generalizing read read' with
  | nil => exact agree.complete
  | cons field written ih =>
    obtain ⟨asked, d⟩ := field
    rw [List.map_cons, List.mem_cons, not_or] at absent
    rw [List.foldlM_cons, List.foldlM_cons, bind_assoc, bind_assoc]
    cases asked with
    | none => rfl
    | some asked =>
      have different : asked ≠ name := fun same => absent.1 (congrArg some same.symm)
      simp only [readField, nameOf, ok_bind, agree.others asked different]
      split
      next g found =>
        split
        · rfl
        · cases g.read d with
          | error e => rfl
          | ok value => exact ih (agree.put value) absent.2
      next =>
        split
        · cases any d with
          | error e => rfl
          | ok j => exact ih agree absent.2
        · split
          · rfl
          · exact ih agree absent.2

/-! ## One difference -/

theorem lookup_foldlM_readField {name : String} {read read' : List (String × Option Json)}
    {written : List (Option String × Draft)} (absent : some name ∉ written.map (·.1))
    (all : written.foldlM (readField layout fields) read = .ok read') :
    read'.lookup name = read.lookup name := by
  induction written generalizing read with
  | nil =>
    cases all
    rfl
  | cons field written ih =>
    rw [List.map_cons, List.mem_cons, not_or] at absent
    rw [List.foldlM_cons] at all
    obtain ⟨next, step, rest⟩ := bind_eq_ok_iff.mp all
    rw [ih absent.2 rest, lookup_readField_of_ne step (Ne.symm absent.1)]

theorem read_congr {j j' : Json} (same : f.form (.ofJson j) = f.form (.ofJson j'))
    (nulls : j = .null ↔ j' = .null) : f.read (.ofJson j) = f.read (.ofJson j') := by
  by_cases absent : j = .null
  · rw [absent, nulls.mp absent]
  · have read_eq : ∀ j, j ≠ .null → f.read (.ofJson j) = (f.form (.ofJson j)).map some := by
      intro j other
      cases j <;> first | contradiction | rfl
    rw [read_eq j absent, read_eq j' (mt nulls.mpr absent), same]

theorem record_null (declared : fields.find? (·.name == f.name) = some f)
    (nullable : f.nullable = true) {before after : List (String × Json)}
    (once : f.name ∉ (before ++ after).map (·.1)) :
    record layout fields (.ofJson (.object (before ++ (f.name, .null) :: after))) =
      record layout fields (.ofJson (.object (before ++ after))) := by
  rw [List.map_append, List.mem_append, not_or] at once
  have names_eq : ∀ written : List (String × Json), (Draft.ofFields written).map (·.1) =
      (written.map (·.1)).map some := by
    intro written
    rw [ofFields_eq_map, List.map_map, List.map_map]
    rfl
  have absent_before : some f.name ∉ (Draft.ofFields before).map (·.1) := by
    rw [names_eq]
    simpa using once.1
  have absent_after : some f.name ∉ (Draft.ofFields after).map (·.1) := by
    rw [names_eq]
    simpa using once.2
  rw [record_object, record_object, ofFields_append, ofFields_append, List.foldlM_append,
    List.foldlM_append, bind_assoc, bind_assoc]
  cases first : (Draft.ofFields before).foldlM (readField layout fields) [] with
  | error e => rfl
  | ok read =>
    have fresh := lookup_foldlM_readField absent_before first
    have step : readField layout fields read (some f.name, .null) = .ok (put f.name none read) := by
      simp [readField, nameOf, declared, fresh, Field.read, nullable, pure, Except.pure]
    have agree : Agree f.name (put f.name none read) read := by
      constructor
      · intro asked different
        rw [lookup_put, if_neg different]
      · rw [lookup_put, if_pos rfl, fresh]
        rfl
    rw [ok_bind, ok_bind, Draft.ofFields, List.foldlM_cons]
    show (readField layout fields read (some f.name, .null) >>= _ >>= _) = _
    rw [step]
    exact agree.foldlM absent_after

theorem readItems_congr {d d' : Draft} (same : f.read d = f.read d') {stop : Option Damage}
    {before : List Draft} (place : before.length = fields.length) (after : List Draft) :
    readItems stop (fields ++ f :: later) (before ++ d :: after) =
      readItems stop (fields ++ f :: later) (before ++ d' :: after) := by
  induction fields generalizing before with
  | nil =>
    cases before with
    | nil => simp [readItems, same]
    | cons => cases place
  | cons g fields ih =>
    cases before with
    | nil => cases place
    | cons b before =>
      simp only [List.cons_append, readItems]
      rw [ih (by simpa using place)]

theorem readItems_last (nullable : f.nullable = true) (trailing : f.trailing = true)
    {before : List Draft} (place : before.length = fields.length) :
    readItems none (fields ++ f :: later) (before ++ [.null]) =
      (readItems none (fields ++ f :: later) before).map (· ++ [(f.name, none)]) := by
  induction fields generalizing before with
  | nil =>
    cases before with
    | nil =>
      simp only [List.nil_append, readItems, Field.read, nullable, trailing, if_true, ok_bind]
      cases rest : readItems none later [] with
      | error e => rfl
      | ok read =>
        rw [readItems_nil rest]
        rfl
    | cons => cases place
  | cons g fields ih =>
    cases before with
    | nil => cases place
    | cons b before =>
      simp only [List.cons_append, readItems]
      rw [ih (by simpa using place)]
      cases g.read b with
      | error e => rfl
      | ok value => cases readItems none (fields ++ f :: later) before <;> rfl

theorem record_last (nullable : f.nullable = true) (trailing : f.trailing = true)
    {before : List Json} (place : before.length = fields.length) :
    record layout (fields ++ f :: later) (.ofJson (.array (before ++ [.null]))) =
      record layout (fields ++ f :: later) (.ofJson (.array before)) := by
  have place' : (Draft.ofItems before).length = fields.length := by
    rw [ofItems_eq_map, List.length_map, place]
  simp only [Draft.ofJson, ofItems_append, Draft.ofItems, record,
    readItems_last nullable trailing place']
  cases readItems none (fields ++ f :: later) (Draft.ofItems before) with
  | error e => rfl
  | ok read =>
    have same : complete (fields ++ f :: later) (read ++ [(f.name, none)]) =
        complete (fields ++ f :: later) read := by
      apply complete_congr
      intro name
      rw [List.lookup_append]
      cases read.lookup name with
      | some value => rfl
      | none => by_cases here : name = f.name <;> simp [lookup_cons_eq_ite, here]
    show (if layout.positional = true then complete _ _ else _) = _
    rw [same]
    rfl

theorem record_unknown (exact_names : layout.readable = false) {name : String}
    (undeclared : fields.find? (·.name == name) = none) (before after : List (String × Json))
    (j : Json) :
    record layout fields (.ofJson (.object (before ++ (name, j) :: after))) =
      record layout fields (.ofJson (.object (before ++ after))) := by
  have step : ∀ read : List (String × Option Json),
      readField layout fields read (some name, .ofJson j) = .ok read := by
    intro read
    simp only [readField, nameOf, ok_bind, undeclared, exact_names, skip?_ofJson]
    rfl
  rw [record_object, record_object, ofFields_append, ofFields_append, Draft.ofFields,
    List.foldlM_append, List.foldlM_append]
  simp only [List.foldlM_cons, step, ok_bind]

theorem record_field (declared : fields.find? (·.name == f.name) = some f) {j j' : Json}
    (same : f.read (.ofJson j) = f.read (.ofJson j')) (before after : List (String × Json)) :
    record layout fields (.ofJson (.object (before ++ (f.name, j) :: after))) =
      record layout fields (.ofJson (.object (before ++ (f.name, j') :: after))) := by
  have step : ∀ read : List (String × Option Json),
      readField layout fields read (some f.name, .ofJson j) =
        readField layout fields read (some f.name, .ofJson j') := by
    intro read
    simp only [readField, nameOf, ok_bind, declared, same]
  rw [record_object, record_object, ofFields_append, ofFields_append, Draft.ofFields,
    Draft.ofFields, List.foldlM_append, List.foldlM_append]
  simp only [List.foldlM_cons, step]

theorem record_position {j j' : Json} (same : f.read (.ofJson j) = f.read (.ofJson j'))
    {before : List Json} (place : before.length = fields.length) (after : List Json) :
    record layout (fields ++ f :: later) (.ofJson (.array (before ++ j :: after))) =
      record layout (fields ++ f :: later) (.ofJson (.array (before ++ j' :: after))) := by
  have place' : (Draft.ofItems before).length = fields.length := by
    rw [ofItems_eq_map, List.length_map, place]
  simp only [Draft.ofJson, ofItems_append, Draft.ofItems, record,
    readItems_congr same place' (Draft.ofItems after)]

theorem listOf_item {item : Form} {j j' : Json} (same : item (.ofJson j) = item (.ofJson j'))
    (before after : List Json) :
    listOf item (.ofJson (.array (before ++ j :: after))) =
      listOf item (.ofJson (.array (before ++ j' :: after))) := by
  simp only [Draft.ofJson, ofItems_append, Draft.ofItems, listOf, List.mapM_append,
    List.mapM_cons, same]

end Form

/-- Documents that say the same to a form are read as the same. -/
theorem Alike.form_eq {form : Form} {j j' : Json} (alike : Alike form j j') :
    form (.ofJson j) = form (.ofJson j') ∧ (j = .null ↔ j' = .null) := by
  induction alike with
  | refl form j => exact ⟨rfl, Iff.rfl⟩
  | symm _ ih => exact ⟨ih.1.symm, ih.2.symm⟩
  | trans _ _ ih ih' => exact ⟨ih.1.trans ih'.1, ih.2.trans ih'.2⟩
  | unknown exact_names undeclared before after j =>
    exact ⟨record_unknown exact_names undeclared before after j, by simp⟩
  | null declared nullable once => exact ⟨record_null declared nullable once, by simp⟩
  | last nullable trailing place => exact ⟨record_last nullable trailing place, by simp⟩
  | field declared _ before after ih =>
    exact ⟨record_field declared (read_congr ih.1 ih.2) before after, by simp⟩
  | position place _ after ih =>
    exact ⟨record_position (read_congr ih.1 ih.2) place after, by simp⟩
  | item _ before after ih => exact ⟨listOf_item ih.1 before after, by simp⟩

end Json

end Recovery
