import Mathlib.Data.List.Basic
import Recovery.Proofs.Json.Fields
/-!
# What a record makes of its fields

Of each declared field the last draft that is given for it counts, if there is one. The normal form
holds what is made of these, and nothing else.
-/
set_option autoImplicit false

namespace Recovery

namespace Json

namespace Form

/-! ## Fields -/

namespace Field

def readGiven (f : Field) : Option Draft → Except ReadError (Option Json)
  | none => .ok none
  | some d => f.read d

/-- What becomes of a field for which a draft is given, or none. -/
def Makes (f : Field) (given : Option Draft) (made : Option Json) : Prop :=
  ∃ value, f.readGiven given = .ok value ∧ f.complete value = .ok (made.map (f.name, ·))

/-- The value, or else the default. -/
def orDefault (f : Field) (value : Option Json) : Option Json :=
  match value, f.absence with
  | some j, _ => some j
  | none, .given default => some default
  | none, _ => none

theorem complete_eq_ok {f : Field} {value : Option Json} {written : Option (String × Json)}
    (completed : f.complete value = .ok written) :
    written = (f.orDefault value).map (f.name, ·) := by
  unfold complete at completed
  unfold orDefault
  cases value with
  | some j =>
    cases completed
    rfl
  | none =>
    cases absence : f.absence <;> rw [absence] at completed <;> cases completed <;> rfl

theorem eq_orDefault {f : Field} {value made : Option Json}
    (completed : f.complete value = .ok (made.map (f.name, ·))) : made = f.orDefault value := by
  have shape := complete_eq_ok completed
  cases made <;> cases default : f.orDefault value <;> simp_all

theorem Makes.unique {f : Field} {given : Option Draft} {made made' : Option Json}
    (makes : f.Makes given made) (makes' : f.Makes given made') : made = made' := by
  obtain ⟨value, read, completed⟩ := makes
  obtain ⟨value', read', completed'⟩ := makes'
  obtain rfl := Except.ok.inj (read.symm.trans read')
  have same := Except.ok.inj (completed.symm.trans completed')
  cases made <;> cases made' <;> simp_all

end Field

variable {layout : Layout} {fields : List Field} {f : Field}

theorem eq_of_name_eq {g : Field} (distinct : (fields.map (·.name)).Nodup) (member : f ∈ fields)
    (member' : g ∈ fields) (same : f.name = g.name) : f = g := by
  have once : ((fields.map fun f => (f.name, f)).map (·.1)).Nodup := by
    rw [List.map_map]
    exact distinct
  have found := lookup_of_mem once (List.mem_map_of_mem (f := fun f => (f.name, f)) member)
  have found' := lookup_of_mem once (List.mem_map_of_mem (f := fun f => (f.name, f)) member')
  rw [same, found'] at found
  exact (Option.some.inj found).symm

theorem find?_name (distinct : (fields.map (·.name)).Nodup) (member : f ∈ fields) :
    fields.find? (·.name == f.name) = some f := by
  cases found : fields.find? (·.name == f.name) with
  | none => exact absurd (List.find?_eq_none.mp found f member) (by simp)
  | some g =>
    have same : g.name = f.name := by simpa using List.find?_some found
    rw [eq_of_name_eq distinct (List.mem_of_find?_eq_some found) member same]

/-! ## Normal forms -/

/-- A normal form holds what is made of the drafts that are given for its fields. -/
structure Makes (fields : List Field) (given : String → Option Draft) (n : Json) : Prop where
  fields_eq : n = .object (fields.filterMap fun f => (n.get? f.name).map (f.name, ·))
  makes : ∀ f ∈ fields, f.Makes (given f.name) (n.get? f.name)

theorem names_sublist (fields : List Field) (made : Field → Option Json) :
    ((fields.filterMap fun f => (made f).map (f.name, ·)).map (·.1)).Sublist
      (fields.map (·.name)) := by
  induction fields with
  | nil => exact .slnil
  | cons f fields ih =>
    cases value : made f with
    | none => simpa [value] using ih.cons f.name
    | some j => simpa [value] using ih.cons_cons f.name

theorem get?_made (distinct : (fields.map (·.name)).Nodup) (made : Field → Option Json)
    (member : f ∈ fields) :
    (Json.object (fields.filterMap fun f => (made f).map (f.name, ·))).get? f.name = made f := by
  have once := (names_sublist fields made).nodup distinct
  rw [get?_object once]
  cases value : made f with
  | some j =>
    apply lookup_of_mem once
    exact List.mem_filterMap.mpr ⟨f, member, by simp [value]⟩
  | none =>
    apply lookup_of_not_mem
    intro inside
    simp only [List.mem_map, List.mem_filterMap, Option.map_eq_some_iff] at inside
    obtain ⟨_, ⟨g, gMember, j, made_eq, rfl⟩, name_eq⟩ := inside
    rw [eq_of_name_eq distinct gMember member name_eq, value] at made_eq
    contradiction

theorem mapM_complete_eq_ok {read : List (String × Option Json)}
    {written : List (Option (String × Json))}
    (completed : fields.mapM (fun f => f.complete (read.lookup f.name).join) = .ok written) :
    written = fields.map (fun f => (f.orDefault (read.lookup f.name).join).map (f.name, ·)) ∧
      ∀ f ∈ fields, f.complete (read.lookup f.name).join =
        .ok ((f.orDefault (read.lookup f.name).join).map (f.name, ·)) := by
  induction fields generalizing written with
  | nil =>
    cases completed
    exact ⟨rfl, by simp⟩
  | cons f fields ih =>
    rw [List.mapM_cons] at completed
    obtain ⟨first, first_eq, rest⟩ := bind_eq_ok_iff.mp completed
    obtain ⟨others, rest_eq, same⟩ := bind_eq_ok_iff.mp rest
    cases same
    obtain ⟨others_eq, each⟩ := ih rest_eq
    have shape := Field.complete_eq_ok first_eq
    refine ⟨by rw [List.map_cons, ← shape, ← others_eq], List.forall_mem_cons.mpr ⟨?_, each⟩⟩
    rw [first_eq, ← shape]

theorem complete_eq_ok (distinct : (fields.map (·.name)).Nodup)
    {read : List (String × Option Json)} {n : Json} (completed : complete fields read = .ok n) :
    n = .object (fields.filterMap fun f => (n.get? f.name).map (f.name, ·)) ∧
      ∀ f ∈ fields,
        f.complete (read.lookup f.name).join = .ok ((n.get? f.name).map (f.name, ·)) := by
  obtain ⟨written, each, same⟩ := bind_eq_ok_iff.mp completed
  obtain ⟨written_eq, each⟩ := mapM_complete_eq_ok each
  have fields_eq : n = .object (fields.filterMap fun f =>
      (f.orDefault (read.lookup f.name).join).map (f.name, ·)) := by
    cases same
    rw [written_eq, List.filterMap_map]
    rfl
  have get?_eq : ∀ f ∈ fields, n.get? f.name = f.orDefault (read.lookup f.name).join := by
    intro f member
    rw [fields_eq, get?_made distinct _ member]
  constructor
  · refine fields_eq.trans (congrArg Json.object (List.filterMap_congr ?_))
    intro f member
    rw [get?_eq f member]
  · intro f member
    rw [get?_eq f member]
    exact each f member

theorem complete_of_forall {read : List (String × Option Json)}
    (completes : ∀ f ∈ fields, ∃ written, f.complete (read.lookup f.name).join = .ok written) :
    ∃ n, complete fields read = .ok n := by
  suffices made : ∃ written,
      fields.mapM (fun f => f.complete (read.lookup f.name).join) = .ok written by
    obtain ⟨written, each⟩ := made
    exact ⟨_, bind_eq_ok_iff.mpr ⟨written, each, rfl⟩⟩
  induction fields with
  | nil => exact ⟨[], rfl⟩
  | cons f fields ih =>
    obtain ⟨first, first_eq⟩ := completes f List.mem_cons_self
    obtain ⟨others, rest_eq⟩ := ih fun g member => completes g (List.mem_cons_of_mem _ member)
    refine ⟨first :: others, ?_⟩
    rw [List.mapM_cons, first_eq, ok_bind, rest_eq]
    rfl

/-! ## Reading the fields of an object -/

theorem lookup_readField_of_ne {read read' : List (String × Option Json)}
    {field : Option String × Draft} (step : readField layout fields read field = .ok read')
    {name : String} (other : field.1 ≠ some name) : read'.lookup name = read.lookup name := by
  obtain ⟨asked, d⟩ := field
  obtain ⟨asked', named, step⟩ := bind_eq_ok_iff.mp step
  cases asked with
  | none => cases named
  | some asked =>
    obtain rfl : asked = asked' := Except.ok.inj named
    have different : name ≠ asked := fun same => other (congrArg some same.symm)
    split at step
    · split at step
      · cases step
      · obtain ⟨value, value_eq, put_eq⟩ := bind_eq_ok_iff.mp step
        cases put_eq
        rw [lookup_put, if_neg different]
    · split at step
      · obtain ⟨_, _, same⟩ := bind_eq_ok_iff.mp step
        cases same
        rfl
      · split at step <;> cases step
        rfl

theorem readField_eq_ok (distinct : (fields.map (·.name)).Nodup) (member : f ∈ fields)
    {read read' : List (String × Option Json)} {d : Draft}
    (step : readField layout fields read (some f.name, d) = .ok read') :
    ∃ value, f.read d = .ok value ∧ read'.lookup f.name = some value := by
  simp only [readField, nameOf, ok_bind, find?_name distinct member] at step
  split at step
  · cases step
  · obtain ⟨value, value_eq, put_eq⟩ := bind_eq_ok_iff.mp step
    cases put_eq
    exact ⟨value, value_eq, by rw [lookup_put, if_pos rfl]⟩

theorem foldlM_readField_eq_ok (distinct : (fields.map (·.name)).Nodup) (member : f ∈ fields)
    {read read' : List (String × Option Json)} {written : List (Option String × Draft)}
    (all : written.foldlM (readField layout fields) read = .ok read') :
    match written.reverse.lookup (some f.name) with
    | some d => ∃ value, f.read d = .ok value ∧ read'.lookup f.name = some value
    | none => read'.lookup f.name = read.lookup f.name := by
  induction written generalizing read with
  | nil =>
    cases all
    rfl
  | cons field written ih =>
    rw [List.foldlM_cons] at all
    obtain ⟨name, d⟩ := field
    obtain ⟨next, step, rest⟩ := bind_eq_ok_iff.mp all
    have later := ih rest
    rw [List.reverse_cons, List.lookup_append]
    cases last : written.reverse.lookup (some f.name) with
    | some d =>
      rw [last] at later
      exact later
    | none =>
      rw [last] at later
      by_cases named : name = some f.name
      · subst named
        obtain ⟨value, value_eq, found⟩ := readField_eq_ok distinct member step
        simp only [Option.none_or, lookup_cons_eq_ite, BEq.rfl, if_true]
        exact ⟨value, value_eq, later.trans found⟩
      · have other : (some f.name == name) = false := by simpa using Ne.symm named
        simp only [Option.none_or, lookup_cons_eq_ite, other, Bool.false_eq_true, if_false,
          List.lookup_nil]
        exact later.trans (lookup_readField_of_ne step named)

theorem readItems_nil {stop : Option Damage} {read : List (String × Option Json)}
    (all : readItems stop fields [] = .ok read) : read = [] := by
  induction fields with
  | nil =>
    cases stop <;> cases all
    rfl
  | cons f fields ih =>
    cases stop with
    | some damage => cases all
    | none =>
      simp only [readItems] at all
      split at all
      · exact ih all
      · cases all

theorem readItems_eq_ok (distinct : (fields.map (·.name)).Nodup) {stop : Option Damage}
    {items : List Draft} {read : List (String × Option Json)}
    (all : readItems stop fields items = .ok read) (member : f ∈ fields) :
    f.readGiven (((fields.map (·.name)).zip items).lookup f.name) =
      .ok (read.lookup f.name).join := by
  induction fields generalizing items read with
  | nil => contradiction
  | cons g fields ih =>
    rw [List.map_cons, List.nodup_cons] at distinct
    cases items with
    | nil =>
      rw [readItems_nil all]
      rfl
    | cons d items =>
      obtain ⟨value, first, rest⟩ := bind_eq_ok_iff.mp all
      obtain ⟨others, rest_eq, same⟩ := bind_eq_ok_iff.mp rest
      cases same
      rw [List.map_cons, List.zip_cons_cons, lookup_cons_eq_ite, lookup_cons_eq_ite]
      cases List.mem_cons.mp member with
      | inl same =>
        rw [same, if_pos BEq.rfl, if_pos BEq.rfl]
        exact first
      | inr member =>
        have other : (f.name == g.name) = false := by
          apply beq_eq_false_iff_ne.mpr
          intro same
          exact distinct.1 (same ▸ List.mem_map_of_mem member)
        rw [other]
        exact ih distinct.2 rest_eq member

/-! ## Records -/

/-- The draft that counts for a field of some name. -/
def given (fields : List Field) : Draft → String → Option Draft
  | .object written _, name => written.reverse.lookup (some name)
  | .array items _, name => ((fields.map (·.name)).zip items).lookup name
  | _, _ => none

theorem makes_of_complete (distinct : (fields.map (·.name)).Nodup) {given : String → Option Draft}
    {read : List (String × Option Json)} {n : Json}
    (reads : ∀ f ∈ fields, f.readGiven (given f.name) = .ok (read.lookup f.name).join)
    (completed : complete fields read = .ok n) : Makes fields given n := by
  obtain ⟨fields_eq, completes⟩ := complete_eq_ok distinct completed
  exact ⟨fields_eq, fun f member => ⟨_, reads f member, completes f member⟩⟩

theorem readGiven_of_foldlM (distinct : (fields.map (·.name)).Nodup) (member : f ∈ fields)
    {read : List (String × Option Json)} {written : List (Option String × Draft)}
    (all : written.foldlM (readField layout fields) [] = .ok read) :
    f.readGiven (written.reverse.lookup (some f.name)) = .ok (read.lookup f.name).join := by
  have last := foldlM_readField_eq_ok distinct member all
  split at last
  next d found =>
    obtain ⟨value, value_eq, read_eq⟩ := last
    rw [found, read_eq]
    exact value_eq
  next found =>
    rw [found, last]
    rfl

theorem record_eq_ok (distinct : (fields.map (·.name)).Nodup) {d : Draft} {n : Json}
    (made : record layout fields d = .ok n) : Makes fields (given fields d) n := by
  cases d with
  | object written stop =>
    obtain ⟨read, all, rest⟩ := bind_eq_ok_iff.mp made
    cases stop with
    | some damage => cases rest
    | none =>
      exact makes_of_complete distinct
        (fun f member => readGiven_of_foldlM distinct member all) rest
  | array items stop =>
    simp only [record] at made
    split at made
    · obtain ⟨read, all, rest⟩ := bind_eq_ok_iff.mp made
      exact makes_of_complete distinct (fun f member => readItems_eq_ok distinct all member) rest
    · cases made
  | blank => exact makes_of_complete distinct (fun f member => rfl) made
  | _ => cases made

/-! ## Documents -/

theorem foldlM_readField_ofFields (exact_names : layout.readable = false)
    {read : List (String × Option Json)} {written : List (String × Json)}
    (once : (written.map (·.1)).Nodup)
    (fresh : ∀ name ∈ written.map (·.1), read.lookup name = none)
    (accepted : ∀ f ∈ fields, ∀ j, (f.name, j) ∈ written →
      ∃ value, f.read (.ofJson j) = .ok value) :
    ∃ read', (Draft.ofFields written).foldlM (readField layout fields) read = .ok read' := by
  induction written generalizing read with
  | nil => exact ⟨read, rfl⟩
  | cons field written ih =>
    obtain ⟨name, j⟩ := field
    rw [List.map_cons, List.nodup_cons] at once
    obtain ⟨next, step, others⟩ : ∃ next, readField layout fields read (some name, .ofJson j) =
        .ok next ∧ ∀ asked ≠ name, next.lookup asked = read.lookup asked := by
      simp only [readField, nameOf, ok_bind, exact_names, skip?_ofJson]
      split
      next f found =>
        have same : f.name = name := by simpa using List.find?_some found
        obtain ⟨value, value_eq⟩ := accepted f (List.mem_of_find?_eq_some found) j
          (same ▸ List.mem_cons_self)
        refine ⟨put name value read, ?_, fun asked other => by rw [lookup_put, if_neg other]⟩
        simp [fresh name List.mem_cons_self, value_eq, pure, Except.pure]
      next => exact ⟨read, rfl, fun _ _ => rfl⟩
    rw [Draft.ofFields, List.foldlM_cons, step, ok_bind]
    apply ih once.2
    · intro asked member
      rw [others asked fun same => once.1 (same ▸ member)]
      exact fresh asked (List.mem_cons_of_mem _ member)
    · intro f member j inside
      exact accepted f member j (List.mem_cons_of_mem _ inside)

theorem given_ofJson {written : List (String × Json)} (once : (written.map (·.1)).Nodup)
    (name : String) :
    given fields (.ofJson (.object written)) name = (written.lookup name).map Draft.ofJson := by
  rw [Draft.ofJson, given, lookup_ofFields, lookup_reverse once]

/-- A document is accepted if each declared field of it is. -/
theorem record_ofJson (exact_names : layout.readable = false)
    (distinct : (fields.map (·.name)).Nodup) {written : List (String × Json)}
    (once : (written.map (·.1)).Nodup)
    (accepted : ∀ f ∈ fields, ∃ made, f.Makes ((written.lookup f.name).map Draft.ofJson) made) :
    ∃ n, record layout fields (.ofJson (.object written)) = .ok n ∧
      Makes fields (fun name => (written.lookup name).map Draft.ofJson) n := by
  have reads : ∀ f ∈ fields, ∀ j, (f.name, j) ∈ written →
      ∃ value, f.read (.ofJson j) = .ok value := by
    intro f member j inside
    obtain ⟨made, value, value_eq, _⟩ := accepted f member
    rw [lookup_of_mem once inside] at value_eq
    exact ⟨value, value_eq⟩
  have start : ∀ name ∈ written.map (·.1), ([] : List (String × Option Json)).lookup name = none :=
    fun _ _ => rfl
  obtain ⟨read, all⟩ := foldlM_readField_ofFields exact_names once start reads
  have each := fun f member => readGiven_of_foldlM (f := f) distinct member all
  have completes : ∀ f ∈ fields, ∃ field, f.complete (read.lookup f.name).join = .ok field := by
    intro f member
    obtain ⟨made, value, value_eq, completed⟩ := accepted f member
    have same := each f member
    rw [lookup_ofFields, lookup_reverse once, value_eq] at same
    rw [← Except.ok.inj same]
    exact ⟨_, completed⟩
  obtain ⟨n, completed⟩ := complete_of_forall completes
  have made : record layout fields (.ofJson (.object written)) = .ok n := by
    rw [Draft.ofJson, record, all]
    exact completed
  refine ⟨n, made, ?_⟩
  have makes := record_eq_ok distinct made
  rw [show given fields (.ofJson (.object written)) = _ from funext (given_ofJson once)] at makes
  exact makes

end Form

end Json

end Recovery
