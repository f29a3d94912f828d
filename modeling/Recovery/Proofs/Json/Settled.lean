import Recovery.Proofs.Json.Record
/-!
# Settled records

A normal form is accepted again as it is, and so is what is left of it without some of its fields.
-/
set_option autoImplicit false

namespace Recovery

namespace Json

namespace Form

variable {layout : Layout} {fields : List Field} {f : Field}

theorem Makes.once (distinct : (fields.map (·.name)).Nodup) {given : String → Option Draft}
    {n : Json} (makes : Makes fields given n) :
    ∃ written, n = .object written ∧ (written.map (·.1)).Nodup ∧
      ∀ name, written.lookup name = n.get? name := by
  have once := (names_sublist fields fun f => n.get? f.name).nodup distinct
  refine ⟨_, makes.fields_eq, once, fun name => ?_⟩
  rw [← get?_object once, ← makes.fields_eq]

theorem Makes.unique {given : String → Option Draft} {n n' : Json} (makes : Makes fields given n)
    (makes' : Makes fields given n') : n = n' := by
  rw [makes.fields_eq, makes'.fields_eq]
  refine congrArg Json.object (List.filterMap_congr fun f member => ?_)
  rw [(makes.makes f member).unique (makes'.makes f member)]

/-! ## Settled records -/

/-- What is made of the field, or stands for it by default, is accepted again as it is. -/
structure Field.Settles (f : Field) : Prop where
  form : Form.Settles f.form
  default : ∀ j, f.absence = .given j → f.read (.ofJson j) = .ok (some j)

theorem Field.form_of_read {d : Draft} {j : Json} (read : f.read d = .ok (some j)) :
    f.form d = .ok j := by
  cases d with
  | null =>
    simp only [Field.read] at read
    split at read
    · cases read
    · obtain ⟨_, made, same⟩ := map_eq_ok_iff.mp read
      cases same
      exact made
  | _ =>
    obtain ⟨_, made, same⟩ := map_eq_ok_iff.mp read
    cases same
    exact made

theorem Field.Makes.form_eq_ok {given : Option Draft} {j : Json} (makes : f.Makes given (some j))
    (plain : ∀ default, f.absence ≠ .given default) :
    ∃ d, given = some d ∧ f.form d = .ok j := by
  obtain ⟨value, read, completed⟩ := makes
  have made_eq := Field.eq_orDefault completed
  cases value with
  | none =>
    cases absence : f.absence with
    | given default => exact absurd absence (plain default)
    | _ =>
      simp only [Field.orDefault, absence] at made_eq
      cases made_eq
  | some j' =>
    obtain rfl := Option.some.inj made_eq
    cases given with
    | none => cases read
    | some d => exact ⟨d, rfl, Field.form_of_read read⟩

theorem Field.Settles.read (settles : f.Settles) {d : Draft} {j : Json}
    (read : f.read d = .ok (some j)) : f.read (.ofJson j) = .ok (some j) := by
  have made := Field.form_of_read read
  have again := settles.form.again made
  cases j with
  | null =>
    rw [settles.form.null made] at read
    exact read
  | _ => exact map_eq_ok_iff.mpr ⟨_, again, rfl⟩

theorem Field.Settles.makes (settles : f.Settles) {given : Option Draft} {made : Option Json}
    (makes : f.Makes given made) : f.Makes (made.map Draft.ofJson) made := by
  obtain ⟨value, read, completed⟩ := makes
  have made_eq := Field.eq_orDefault completed
  cases value with
  | some j =>
    rw [Field.orDefault] at made_eq
    subst made_eq
    cases given with
    | none => cases read
    | some d => exact ⟨some j, settles.read read, rfl⟩
  | none =>
    cases absence : f.absence with
    | refused =>
      rw [Field.complete, absence] at completed
      cases completed
    | omitted =>
      simp only [Field.orDefault, absence] at made_eq
      subst made_eq
      exact ⟨none, rfl, completed⟩
    | given j =>
      simp only [Field.orDefault, absence] at made_eq
      subst made_eq
      exact ⟨some j, settles.default j absence, rfl⟩

theorem record_self (exact_names : layout.readable = false)
    (distinct : (fields.map (·.name)).Nodup) {written : List (String × Json)}
    (once : (written.map (·.1)).Nodup)
    (settled : Makes fields (fun name => (written.lookup name).map Draft.ofJson)
      (.object written)) :
    record layout fields (.ofJson (.object written)) = .ok (.object written) := by
  obtain ⟨n, again, makes⟩ := record_ofJson exact_names distinct once fun f member =>
    ⟨_, settled.makes f member⟩
  rw [again, makes.unique settled]

theorem settles_record (exact_names : layout.readable = false)
    (distinct : (fields.map (·.name)).Nodup) (each : ∀ f ∈ fields, f.Settles) :
    Settles (record layout fields) where
  again {d n} made := by
    have makes := record_eq_ok distinct made
    obtain ⟨written, rfl, once, lookup_eq⟩ := makes.once distinct
    apply record_self exact_names distinct once
    refine ⟨makes.fields_eq, fun f member => ?_⟩
    rw [lookup_eq]
    exact (each f member).makes (makes.makes f member)
  null made := by
    have absurd := (record_eq_ok distinct made).fields_eq
    cases absurd

/-! ## The rest of a record -/

theorem Field.makes_none (omitted : f.absence = .omitted) : f.Makes none none :=
  ⟨none, rfl, by rw [Field.complete, omitted]; rfl⟩

theorem Makes.others_eq {given : String → Option Draft} {n : Json} (makes : Makes fields given n)
    (names : List String) :
    n.others names = fields.filterMap fun f =>
      (if f.name ∈ names then none else n.get? f.name).map (f.name, ·) := by
  rw [makes.fields_eq, Json.others, List.filter_filterMap, ← makes.fields_eq]
  refine List.filterMap_congr fun f _ => ?_
  cases n.get? f.name <;> by_cases known : f.name ∈ names <;> simp [known]

theorem Makes.get?_others (distinct : (fields.map (·.name)).Nodup) {given : String → Option Draft}
    {n : Json} (makes : Makes fields given n) (names : List String) (member : f ∈ fields) :
    (Json.object (n.others names)).get? f.name =
      if f.name ∈ names then none else n.get? f.name := by
  rw [makes.others_eq,
    get?_made distinct (fun f => if f.name ∈ names then none else n.get? f.name) member]

theorem record_others (exact_names : layout.readable = false)
    (distinct : (fields.map (·.name)).Nodup) (each : ∀ f ∈ fields, f.Settles)
    (omitted : ∀ f ∈ fields, f.absence = .omitted) {d : Draft} {n : Json}
    (made : record layout fields d = .ok n) (names : List String) :
    record layout fields (.ofJson (.object (n.others names))) = .ok (.object (n.others names)) := by
  have makes := record_eq_ok distinct made
  have once : ((n.others names).map (·.1)).Nodup := by
    rw [makes.others_eq]
    apply List.Sublist.nodup _ distinct
    exact names_sublist fields fun f => if f.name ∈ names then none else n.get? f.name
  apply record_self exact_names distinct once
  constructor
  · refine (congrArg Json.object (makes.others_eq names)).trans
      (congrArg Json.object (List.filterMap_congr fun f member => ?_))
    rw [makes.get?_others distinct names member]
  · intro f member
    rw [← get?_object once, makes.get?_others distinct names member]
    by_cases known : f.name ∈ names
    · rw [if_pos known]
      exact Field.makes_none (omitted f member)
    · rw [if_neg known]
      exact (each f member).makes (makes.makes f member)

end Form

end Json

end Recovery
