import Recovery.Event
import Recovery.Proofs.Instant.Text
import Recovery.Proofs.Json.Codec
import Recovery.Proofs.Json.Text
/-!
# Events survive their JSON text

An event that is read from the text it is written as is the same event. Its instants are written
with as many digits as they need, and its name may hold any characters.
-/
set_option autoImplicit false

namespace Recovery

namespace Event

open Json (Codec Legible)

variable {t : Instant} {e : Event}

theorem timeForm_toJson (readable : t.IsReadable) :
    timeForm (.ofJson (timeToJson t)) = .ok (timeToJson t) := by
  have passes : (Instant.read? (t.text .fewest)).isSome = true := by
    rw [Instant.read?_text_fewest readable, Option.isSome_some]
  rw [timeForm, timeToJson, Json.Draft.ofJson, Json.Form.passing, if_pos passes]

theorem timeOfJson?_toJson (readable : t.IsReadable) : timeOfJson? (timeToJson t) = some t := by
  rw [timeOfJson?, timeToJson, Json.asString?_string, Option.bind_some,
    Instant.read?_text_fewest readable]

/-- Instants with the fewest digits that are exact. -/
@[simps -fullyApplied]
def time : Codec Instant where
  form := timeForm
  ofNormal? := timeOfJson?
  toJson := timeToJson
  Sound := Instant.IsReadable
  returns {t} readable := ⟨timeToJson t, timeForm_toJson readable, timeOfJson?_toJson readable⟩
  sound {d n t} made read := by
    obtain ⟨s, -, read⟩ := Option.bind_eq_some_iff.mp read
    exact Instant.isReadable_of_read? read
  toJson_ne_null _ := nofun

/-- What every event is like that is read from a document. -/
structure IsReadable (e : Event) : Prop where
  startTime : e.startTime.IsReadable
  endTime : ∀ t ∈ e.endTime, t.IsReadable

/-- The fields of an event as they are written. -/
def entries (e : Event) : List Codec.Entry :=
  [Codec.text.required "name" e.name, time.required "startTime" e.startTime,
    time.optionalLast "endTime" e.endTime]

theorem entries_return (readable : e.IsReadable) : ∀ entry ∈ e.entries, entry.Returns := by
  simp only [entries, List.forall_mem_cons, List.not_mem_nil, false_implies, implies_true, and_true]
  exact ⟨Codec.text.required_returns _ trivial, time.required_returns _ readable.startTime,
    time.optionalLast_returns _ readable.endTime⟩

theorem ofNormal?_of_entries {n : Json} (read : ∀ entry ∈ e.entries, entry.Read n) :
    ofNormal? n = some e := by
  simp only [entries, List.forall_mem_cons, List.not_mem_nil, false_implies, implies_true, and_true,
    Codec.required_read, Codec.optionalLast_read] at read
  obtain ⟨name, startTime, endTime⟩ := read
  have name : n.required "name" Json.asString? = some e.name := name
  have startTime : n.required "startTime" timeOfJson? = some e.startTime := startTime
  have endTime : n.optional "endTime" timeOfJson? = some e.endTime := endTime
  rw [ofNormal?, name, startTime, endTime]
  rfl

theorem form_toJson (readable : e.IsReadable) :
    ∃ n, form (.ofJson e.toJson) = .ok n ∧ ofNormal? n = some e := by
  have form_eq : form = .strict (e.entries.map (·.field)) := rfl
  have toJson_eq : e.toJson =
      .record ([] ++ e.entries.map fun entry => (entry.field.name, entry.written)) := rfl
  apply Codec.strict_returns [] e.entries form_eq toJson_eq
  · simp [entries]
  · exact entries_return readable
  · exact fun n => ofNormal?_of_entries

theorem timeToJson_legible (t : Instant) (levels : Nat) : Legible levels (timeToJson t) :=
  .string _

theorem legible_toJson (e : Event) : Legible Json.Draft.depth e.toJson := by
  apply Legible.record
  simp only [List.forall_mem_cons, List.not_mem_nil, false_implies, implies_true, and_true,
    Option.mem_def, Option.some.injEq, forall_eq', Option.map_eq_some_iff, forall_exists_index,
    and_imp, forall_apply_eq_imp_iff₂]
  exact ⟨.string _, timeToJson_legible _ _, fun t _ => timeToJson_legible t _⟩

theorem ofText_render (readable : e.IsReadable) :
    Json.Readable.ofText e.toJson.render = .ok e := by
  rw [Json.readableOfText_render e.legible_toJson, Json.read_eq_ok_iff]
  exact form_toJson readable

/-- An event in the years 0 to 9999 is read from its text as it is: its name, its instants to the
nanosecond, and whether it has stopped. -/
theorem survives_text (e : Event) (start : e.startTime.IsPlain)
    (stop : ∀ t ∈ e.endTime, t.IsPlain) :
    ∃ read : Event, Json.Readable.ofText e.toJson.render = .ok read ∧ read = e ∧
      read.fullName = e.fullName ∧ read.isStopped = e.isStopped ∧ read.duration = e.duration := by
  have readable : e.IsReadable := ⟨start.isReadable, fun t ended => (stop t ended).isReadable⟩
  exact ⟨e, ofText_render readable, rfl, rfl, rfl, rfl⟩

theorem stopped_survives_text :
    let e : Event := ⟨"a \"b\"\n\u0001", ⟨-1, 5⟩, some ⟨951782400, 120000000⟩⟩
    ∃ read : Event, Json.Readable.ofText e.toJson.render = .ok read ∧ read = e ∧
      read.fullName = e.fullName ∧ read.isStopped = true ∧
      read.duration = some 951782401119999995 := by
  intro e
  have start : e.startTime.IsPlain := ⟨by decide, by decide, by decide⟩
  have stop : ∀ t ∈ e.endTime, t.IsPlain := by
    rintro t ⟨⟩
    exact ⟨by decide, by decide, by decide⟩
  obtain ⟨read, text, same, name, stopped, duration⟩ := survives_text e start stop
  exact ⟨read, text, same, name, stopped, duration.trans (by decide)⟩

end Event

end Recovery
