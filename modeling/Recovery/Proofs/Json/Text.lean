import Recovery.Json.Readable
import Recovery.Proofs.Json.Fields
import Recovery.Proofs.Json.Token
/-!
# Written documents are read back

The text of a document is read as that document, whatever stands in its texts and names, as long as
it is not nested too deeply and its numbers are whole ones.
-/
set_option autoImplicit false

namespace Recovery

namespace Json

/-- Whole numbers of 64 bits, and arrays and objects at most this many levels deep. -/
inductive Legible : Nat → Json → Prop where
  | null {levels : Nat} : Legible levels .null
  | bool {levels : Nat} (b : Bool) : Legible levels (.bool b)
  | integer {levels : Nat} {n : Int} (word : Token.isWord n = true) : Legible levels (.integer n)
  | string {levels : Nat} (s : String) : Legible levels (.string s)
  | array {levels : Nat} {items : List Json} (inside : ∀ j ∈ items, Legible levels j) :
      Legible (levels + 1) (.array items)
  | object {levels : Nat} {fields : List (String × Json)}
      (inside : ∀ field ∈ fields, Legible levels field.2) : Legible (levels + 1) (.object fields)

namespace Legible

variable {levels : Nat} {j : Json}

theorem record {written : List (String × Option Json)}
    (inside : ∀ field ∈ written, ∀ j ∈ field.2, Legible levels j) :
    Legible (levels + 1) (.record written) := by
  apply Legible.object
  intro field member
  obtain ⟨⟨name, value⟩, written, value_eq⟩ := List.mem_filterMap.mp member
  obtain ⟨j, found, rfl⟩ := Option.map_eq_some_iff.mp value_eq
  exact inside _ written j found

/-! ## What is within the limit -/

theorem limit_eq (legible : Legible levels j) : (Draft.ofJson j).limit levels = .ofJson j := by
  induction legible with
  | array inside ih =>
    rename_i levels items
    have same : Draft.limitItems levels (Draft.ofItems items) = Draft.ofItems items := by
      clear inside
      induction items with
      | nil => rfl
      | cons j items step =>
        rw [Draft.ofItems, Draft.limitItems, ih j List.mem_cons_self,
          step fun j member => ih j (List.mem_cons_of_mem _ member)]
    rw [Draft.ofJson, Draft.limit, same]
  | object inside ih =>
    rename_i levels fields
    have same : Draft.limitFields levels (Draft.ofFields fields) = Draft.ofFields fields := by
      clear inside
      induction fields with
      | nil => rfl
      | cons field fields step =>
        rw [Draft.ofFields, Draft.limitFields, ih field List.mem_cons_self,
          step fun field member => ih field (List.mem_cons_of_mem _ member)]
    rw [Draft.ofJson, Draft.limit, same]
  | _ => rw [Draft.ofJson, Draft.limit] <;> simp

end Legible

/-! ## The machine -/

namespace Reading

variable {stack : List Frame} {fields : List (Option String × Draft)} {waiting : Waiting}

theorem run_cons {reading next : Reading} {token : Token} (step : reading.step token = .ok next)
    (tokens : List Token) : reading.run (token :: tokens) = next.run tokens := by
  rw [run, step]

/-- A value may stand here. -/
def TakesValue (waiting : Waiting) : Prop := waiting = .value ∨ waiting = .valueOrClose

theorem TakesValue.step (takes : TakesValue waiting) {token : Token}
    (no_close : token ≠ .closeArray) :
    (Reading.open stack fields waiting).step token = value stack token := by
  rcases takes with rfl | rfl
  · cases token <;> rfl
  · cases token <;> first | rfl | exact absurd rfl no_close

theorem TakesValue.run (takes : TakesValue waiting) (token : Token) {next : Reading}
    (no_close : token ≠ .closeArray) (placed : value stack token = .ok next)
    (tokens : List Token) :
    (Reading.open stack fields waiting).run (token :: tokens) = next.run tokens :=
  run_cons ((takes.step no_close).trans placed) tokens

/-- The text of the value is read as the value, wherever it stands. -/
def Reads (j : Json) : Prop :=
  ∀ {stack : List Frame} {waiting : Waiting} {rest : List Char}, TakesValue waiting →
    Token.Ends rest → (Reading.open stack [] waiting).run (Token.all (j.render.toList ++ rest)) =
      (place (.ofJson j) stack).run (Token.all rest)

theorem ends_renderItems (items : List Json) (rest : List Char) :
    Token.Ends ((renderItems items).toList ++ ']' :: rest) := by
  cases items with
  | nil => simpa [renderItems] using Token.Ends.cons rest (.inr (.inl rfl))
  | cons j items => simpa [renderItems] using Token.Ends.cons _ (.inl rfl)

theorem ends_renderFields (fields : List (String × Json)) (rest : List Char) :
    Token.Ends ((renderFields fields).toList ++ '\x7d' :: rest) := by
  cases fields with
  | nil => simpa [renderFields] using Token.Ends.cons rest (.inr (.inr rfl))
  | cons field fields => simpa [renderFields] using Token.Ends.cons _ (.inl rfl)

/-- The items of an array after the first one, up to its end. -/
theorem run_renderItems {items : List Json} (reads : ∀ j ∈ items, Reads j) (done : List Draft)
    (rest : List Char) :
    (Reading.open (.array done :: stack) [] .more).run
        (Token.all ((renderItems items).toList ++ ']' :: rest)) =
      (place (.array (done.reverse ++ Draft.ofItems items) none) stack).run (Token.all rest) := by
  induction items generalizing done with
  | nil =>
    have text : (renderItems []).toList ++ ']' :: rest = ']' :: rest := by simp [renderItems]
    rw [text, Token.all_closeArray, run_cons rfl, Draft.ofItems, List.append_nil]
  | cons j items ih =>
    have text : (renderItems (j :: items)).toList ++ ']' :: rest =
        ',' :: (j.render.toList ++ ((renderItems items).toList ++ ']' :: rest)) := by
      simp [renderItems]
    rw [text, Token.all_comma, run_cons rfl,
      reads j List.mem_cons_self (.inl rfl) (ends_renderItems items rest), place,
      ih fun k member => reads k (List.mem_cons_of_mem _ member), List.reverse_cons,
      List.append_assoc, Draft.ofItems, List.singleton_append]

/-- One field of an object, where a name may stand. -/
theorem run_field {x : Json} (reads : Reads x) (name : String)
    (takes : waiting = .name ∨ waiting = .nameOrClose) {rest : List Char} (ends : Token.Ends rest) :
    (Reading.open stack fields waiting).run
        (Token.all ((quote name).toList ++ ':' :: (x.render.toList ++ rest))) =
      (Reading.open (.object ((some name, .ofJson x) :: fields) (some name) :: stack) []
        .more).run (Token.all rest) := by
  have named : (Reading.open stack fields waiting).step (.text (some name)) =
      .ok (.open stack fields (.colon (some name))) := by
    rcases takes with rfl | rfl <;> rfl
  rw [Token.all_quote, run_cons named, Token.all_colon, run_cons rfl, reads (.inl rfl) ends, place]

/-- The fields of an object after the first one, up to its end. -/
theorem run_renderFields {more : List (String × Json)} (reads : ∀ field ∈ more, Reads field.2)
    (done : List (Option String × Draft)) (last : Option String) (rest : List Char) :
    (Reading.open (.object done last :: stack) [] .more).run
        (Token.all ((renderFields more).toList ++ '\x7d' :: rest)) =
      (place (.object (done.reverse ++ Draft.ofFields more) none) stack).run (Token.all rest) := by
  induction more generalizing done last with
  | nil =>
    have text : (renderFields []).toList ++ '\x7d' :: rest = '\x7d' :: rest := by
      simp [renderFields]
    rw [text, Token.all_closeObject, run_cons rfl, Draft.ofFields, List.append_nil]
  | cons field more ih =>
    obtain ⟨name, x⟩ := field
    have text : (renderFields ((name, x) :: more)).toList ++ '\x7d' :: rest =
        ',' :: ((quote name).toList ++
          ':' :: (x.render.toList ++ ((renderFields more).toList ++ '\x7d' :: rest))) := by
      simp [renderFields]
    rw [text, Token.all_comma, run_cons rfl,
      run_field (reads _ List.mem_cons_self) name (.inl rfl) (ends_renderFields more rest),
      ih fun other member => reads other (List.mem_cons_of_mem _ member), List.reverse_cons,
      List.append_assoc, Draft.ofFields, List.singleton_append]

theorem reads_of_legible {levels : Nat} {j : Json} (legible : Legible levels j) : Reads j := by
  induction legible with
  | null =>
    intro stack waiting rest takes ends
    rw [render, Token.all_null]
    exact takes.run (.atom _) nofun rfl _
  | bool b =>
    intro stack waiting rest takes ends
    rw [Token.all_bool]
    exact takes.run (.atom _) nofun rfl _
  | integer word =>
    intro stack waiting rest takes ends
    rw [render, Token.all_integer word ends]
    exact takes.run (.atom _) nofun rfl _
  | string s =>
    intro stack waiting rest takes ends
    rw [render, Token.all_quote]
    exact takes.run (.text _) nofun rfl _
  | array inside ih =>
    rename_i levels items
    intro stack waiting rest takes ends
    cases items with
    | nil =>
      have text : (render (.array [])).toList ++ rest = '[' :: ']' :: rest := by simp [render]
      rw [text, Token.all_openArray, takes.run .openArray nofun rfl, Token.all_closeArray,
        run_cons rfl]
      rfl
    | cons x items =>
      have text : (render (.array (x :: items))).toList ++ rest =
          '[' :: (x.render.toList ++ ((renderItems items).toList ++ ']' :: rest)) := by
        simp [render]
      rw [text, Token.all_openArray, takes.run .openArray nofun rfl,
        ih x List.mem_cons_self (.inr rfl) (ends_renderItems items rest), place,
        run_renderItems fun j member => ih j (List.mem_cons_of_mem _ member)]
      rfl
  | object inside ih =>
    rename_i levels fields
    intro stack waiting rest takes ends
    cases fields with
    | nil =>
      have text : (render (.object [])).toList ++ rest = '\x7b' :: '\x7d' :: rest := by
        simp [render]
      rw [text, Token.all_openObject, takes.run .openObject nofun rfl, Token.all_closeObject,
        run_cons rfl]
      rfl
    | cons field fields =>
      obtain ⟨name, x⟩ := field
      have text : (render (.object ((name, x) :: fields))).toList ++ rest =
          '\x7b' :: ((quote name).toList ++
            ':' :: (x.render.toList ++ ((renderFields fields).toList ++ '\x7d' :: rest))) := by
        simp [render]
      rw [text, Token.all_openObject, takes.run .openObject nofun rfl,
        run_field (ih _ List.mem_cons_self) name (.inr rfl) (ends_renderFields fields rest),
        run_renderFields fun field member => ih field (List.mem_cons_of_mem _ member)]
      rfl

end Reading

theorem ofText_render {j : Json} (legible : Legible Draft.depth j) :
    Draft.ofText j.render = .ofJson j := by
  have read : Reading.start.run (Token.all (j.render.toList ++ [])) =
      (Reading.place (.ofJson j) []).run (Token.all []) :=
    Reading.reads_of_legible legible (.inl rfl) .nil
  rw [List.append_nil, Token.all] at read
  rw [Draft.ofText, read, Reading.place, Reading.run, legible.limit_eq]

theorem readableOfText_render {α : Type} [Readable α] {j : Json} (legible : Legible Draft.depth j) :
    (Readable.ofText j.render : Except ReadError α) = Readable.read (.ofJson j) := by
  rw [Readable.ofText, ofText_render legible]

end Json

end Recovery
