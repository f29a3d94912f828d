import Recovery.Json.Form
import Recovery.Proofs.Result
/-!
# Normal forms are settled

What a form makes of a draft is in the normal form: read again, it stays as it is. A value of any
kind is settled once no object in it has two fields of one name.
-/
set_option autoImplicit false

namespace Recovery

namespace Json

/-! ## Values without repeated names -/

/-- No object in the document has two fields of one name. -/
inductive Proper : Json → Prop where
  | null : Proper .null
  | bool (b : Bool) : Proper (.bool b)
  | integer (n : Int) : Proper (.integer n)
  | decimal (spelling : String) : Proper (.decimal spelling)
  | string (s : String) : Proper (.string s)
  | array {items : List Json} (inside : ∀ j ∈ items, Proper j) : Proper (.array items)
  | object {fields : List (String × Json)} (once : (fields.map (·.1)).Nodup)
      (inside : ∀ field ∈ fields, Proper field.2) : Proper (.object fields)

mutual

/-- The document with only the last field of each name kept in its objects. -/
def tidy : Json → Json
  | .array items => .array (tidyItems items)
  | .object fields => .object (tidyFields fields)
  | j => j

def tidyItems : List Json → List Json
  | [] => []
  | j :: items => tidy j :: tidyItems items

def tidyFields : List (String × Json) → List (String × Json)
  | [] => []
  | (name, j) :: fields =>
    if name ∈ fields.map (·.1) then tidyFields fields else (name, tidy j) :: tidyFields fields

end

theorem Proper.tidy_eq {j : Json} (proper : j.Proper) : j.tidy = j := by
  induction proper with
  | array inside ih =>
    rename_i items
    have same : tidyItems items = items := by
      clear inside
      induction items with
      | nil => rfl
      | cons j items step =>
        rw [tidyItems, ih j List.mem_cons_self,
          step fun j member => ih j (List.mem_cons_of_mem _ member)]
    rw [tidy, same]
  | object once inside ih =>
    rename_i fields
    have same : tidyFields fields = fields := by
      clear inside
      induction fields with
      | nil => rfl
      | cons field fields step =>
        rw [List.map_cons, List.nodup_cons] at once
        rw [tidyFields, if_neg once.1, ih field List.mem_cons_self,
          step once.2 fun field member => ih field (List.mem_cons_of_mem _ member)]
    rw [tidy, same]
  | _ => rfl

namespace Form

theorem put_of_not_mem {α : Type} {name : String} {fields : List (String × α)}
    (absent : name ∉ fields.map (·.1)) (value : α) :
    put name value fields = fields ++ [(name, value)] := by
  rw [put, List.filter_eq_self.mpr]
  intro field member
  apply bne_iff_ne.mpr
  rintro rfl
  exact absent (List.mem_map_of_mem member)

theorem nodup_put {α : Type} {fields : List (String × α)} (name : String) (value : α)
    (once : (fields.map (·.1)).Nodup) : ((put name value fields).map (·.1)).Nodup := by
  have kept : ((fields.filter (·.1 != name)).map (·.1)).Nodup :=
    ((List.filter_sublist (l := fields)).map _).nodup once
  rw [put, List.map_append, List.nodup_append]
  refine ⟨kept, by simp, ?_⟩
  intro kept_name member new_name new
  simp only [List.mem_map, List.mem_filter, bne_iff_ne] at member
  obtain ⟨field, ⟨_, other⟩, rfl⟩ := member
  rw [List.mem_singleton.mp new]
  exact other

mutual

theorem any_ofJson (j : Json) : any (.ofJson j) = .ok j.tidy := by
  cases j with
  | array items => simp [Draft.ofJson, any, anyItems_ofItems items, tidy, close]
  | object fields => simp [Draft.ofJson, any, anyFields_ofFields [] fields, tidy, close]
  | _ => rfl

theorem anyItems_ofItems (items : List Json) :
    anyItems (Draft.ofItems items) = .ok (tidyItems items) := by
  cases items with
  | nil => rfl
  | cons j items =>
    simp [Draft.ofItems, anyItems, any_ofJson j, anyItems_ofItems items, tidyItems, pure,
      Except.pure]

theorem anyFields_ofFields (read fields : List (String × Json)) :
    anyFields read (Draft.ofFields fields) =
      .ok (read.filter (fun field => field.1 ∉ fields.map (·.1)) ++ tidyFields fields) := by
  cases fields with
  | nil =>
    have kept : read.filter (fun field => field.1 ∉ ([] : List (String × Json)).map (·.1)) = read :=
      List.filter_eq_self.mpr fun field _ => by simp
    rw [kept, tidyFields, List.append_nil]
    rfl
  | cons field fields =>
    obtain ⟨name, j⟩ := field
    have kept : ∀ field : String × Json,
        decide (field.1 ∉ name :: fields.map (·.1)) =
          (decide (field.1 ∉ fields.map (·.1)) && field.1 != name) := by
      intro field
      by_cases same : field.1 = name <;> simp [same, bne, Bool.and_comm]
    simp only [Draft.ofFields, anyFields, nameOf, ok_bind, any_ofJson j,
      anyFields_ofFields _ fields, tidyFields, List.map_cons, kept, ← List.filter_filter]
    by_cases again : name ∈ fields.map (·.1)
    · simp [put, again, -List.mem_map]
    · simp [put, again, -List.mem_map]

end

/-! ## What is made of any value -/

theorem proper_close {stop : Option Damage} {j n : Json}
    (proper : n.Proper) (closed : close n stop = .ok j) : j.Proper := by
  cases stop with
  | none =>
    cases closed
    exact proper
  | some damage => cases closed

mutual

theorem proper_of_any {d : Draft} {j : Json} (made : any d = .ok j) : j.Proper := by
  cases d with
  | array items stop =>
    obtain ⟨js, items_eq, closed⟩ := bind_eq_ok_iff.mp made
    exact proper_close (.array (proper_of_anyItems items_eq)) closed
  | object fields stop =>
    obtain ⟨read, fields_eq, closed⟩ := bind_eq_ok_iff.mp made
    have all := proper_of_anyFields fields_eq .nil (by simp)
    exact proper_close (.object all.1 all.2) closed
  | blank =>
    cases made
    exact .object .nil (by simp)
  | garbled => cases made
  | broken damage => cases made
  | _ =>
    cases made
    constructor

theorem proper_of_anyItems {items : List Draft} {js : List Json} (made : anyItems items = .ok js) :
    ∀ j ∈ js, j.Proper := by
  cases items with
  | nil =>
    cases made
    simp
  | cons d items =>
    obtain ⟨j, first, rest⟩ := bind_eq_ok_iff.mp made
    obtain ⟨others, rest_eq, same⟩ := bind_eq_ok_iff.mp rest
    cases same
    exact List.forall_mem_cons.mpr ⟨proper_of_any first, proper_of_anyItems rest_eq⟩

theorem proper_of_anyFields {read read' : List (String × Json)}
    {fields : List (Option String × Draft)} (made : anyFields read fields = .ok read')
    (once : (read.map (·.1)).Nodup) (inside : ∀ field ∈ read, field.2.Proper) :
    (read'.map (·.1)).Nodup ∧ ∀ field ∈ read', field.2.Proper := by
  cases fields with
  | nil =>
    cases made
    exact ⟨once, inside⟩
  | cons field fields =>
    obtain ⟨name, named, rest⟩ := bind_eq_ok_iff.mp made
    obtain ⟨j, first, rest⟩ := bind_eq_ok_iff.mp rest
    have proper := proper_of_any first
    apply proper_of_anyFields rest (nodup_put name j once)
    intro field member
    rcases List.mem_append.mp member with kept | new
    · exact inside field (List.mem_filter.mp kept).1
    · rw [List.mem_singleton.mp new]
      exact proper

end

/-! ## Forms -/

/-- What the form makes is accepted again as it is, and it makes null of nothing but null. -/
structure Settles (form : Form) : Prop where
  again : ∀ {d j}, form d = .ok j → form (.ofJson j) = .ok j
  null : ∀ {d}, form d = .ok .null → d = .null

theorem settles_any : Settles any where
  again made := by
    rw [any_ofJson, (proper_of_any made).tidy_eq]
  null {d} made := by
    cases d with
    | array items stop =>
      obtain ⟨js, _, closed⟩ := bind_eq_ok_iff.mp made
      cases stop <;> cases closed
    | object fields stop =>
      obtain ⟨read, _, closed⟩ := bind_eq_ok_iff.mp made
      cases stop <;> cases closed
    | null => rfl
    | _ => cases made

theorem settles_text : Settles text where
  again {d j} made := by
    cases d <;> cases made
    rfl
  null {d} made := by
    cases d <;> cases made

theorem settles_flag : Settles flag where
  again {d j} made := by
    cases d <;> cases made
    rfl
  null {d} made := by
    cases d <;> cases made

theorem whole_eq_ok {lo hi : Int} {d : Draft} {j : Json} (made : whole lo hi d = .ok j) :
    ∃ n, lo ≤ n ∧ n ≤ hi ∧ j = .integer n := by
  cases d with
  | integer n =>
    simp only [whole] at made
    split at made
    next inside =>
      cases made
      exact ⟨n, inside.1, inside.2, rfl⟩
    next => cases made
  | _ => cases made

theorem whole_ofJson {lo hi n : Int} (low : lo ≤ n) (high : n ≤ hi) :
    whole lo hi (.ofJson (.integer n)) = .ok (.integer n) :=
  if_pos ⟨low, high⟩

theorem settles_whole (lo hi : Int) : Settles (whole lo hi) where
  again made := by
    obtain ⟨n, low, high, rfl⟩ := whole_eq_ok made
    exact whole_ofJson low high
  null made := by
    obtain ⟨n, _, _, absurd⟩ := whole_eq_ok made
    cases absurd

/-- A spelling settles if what is written of a value that was read is read as a value that is
written in the same way. -/
theorem settles_spelled {α : Type} {read : String → Option α} {write : α → String}
    (back : ∀ {s a}, read s = some a → ∃ a', read (write a) = some a' ∧ write a' = write a) :
    Settles (spelled read write) where
  again {d j} made := by
    cases d with
    | string s =>
      simp only [spelled] at made
      split at made
      next a known =>
        cases made
        obtain ⟨a', again, same⟩ := back known
        simp only [Draft.ofJson, spelled, again, same]
      next => cases made
    | _ => cases made
  null {d} made := by
    cases d with
    | string s =>
      simp only [spelled] at made
      split at made <;> cases made
    | _ => cases made

theorem listOf_eq_ok {item : Form} {d : Draft} {j : Json} (made : listOf item d = .ok j) :
    ∃ items js, d = .array items none ∧ items.mapM item = .ok js ∧ j = .array js := by
  cases d with
  | array items stop =>
    obtain ⟨js, items_eq, closed⟩ := bind_eq_ok_iff.mp made
    cases stop <;> cases closed
    exact ⟨items, js, rfl, items_eq, rfl⟩
  | _ => cases made

theorem mapM_ofItems {item : Form} {items js : List Json}
    (each : items.map (fun j => item (.ofJson j)) = js.map .ok) :
    (Draft.ofItems items).mapM item = .ok js := by
  induction items generalizing js with
  | nil =>
    cases js with
    | nil => rfl
    | cons => simp at each
  | cons j items ih =>
    cases js with
    | nil => simp at each
    | cons n js =>
      rw [List.map_cons, List.map_cons, List.cons.injEq] at each
      rw [Draft.ofItems, List.mapM_cons, each.1, ok_bind, ih each.2, ok_bind]
      rfl

theorem mapM_eq_ok {ε α β : Type} {f : α → Except ε β} {xs : List α} {ys : List β}
    (made : xs.mapM f = .ok ys) : xs.map f = ys.map .ok := by
  induction xs generalizing ys with
  | nil =>
    cases made
    rfl
  | cons x xs ih =>
    rw [List.mapM_cons] at made
    obtain ⟨y, first, rest⟩ := bind_eq_ok_iff.mp made
    obtain ⟨others, rest_eq, same⟩ := bind_eq_ok_iff.mp rest
    cases same
    rw [List.map_cons, List.map_cons, first, ih rest_eq]

theorem settles_listOf {item : Form} (settles : Settles item) : Settles (listOf item) where
  again made := by
    obtain ⟨items, js, rfl, each, rfl⟩ := listOf_eq_ok made
    have settled : js.map (fun j => item (.ofJson j)) = js.map .ok := by
      apply List.map_congr_left
      intro j member
      have made : (.ok j : Except ReadError Json) ∈ js.map .ok := List.mem_map_of_mem member
      rw [← mapM_eq_ok each] at made
      obtain ⟨d, _, item_eq⟩ := List.mem_map.mp made
      exact settles.again item_eq
    rw [Draft.ofJson, listOf, mapM_ofItems settled]
    rfl
  null made := by
    obtain ⟨_, _, _, _, absurd⟩ := listOf_eq_ok made
    cases absurd

/-! ## Tables -/

def readEntry (value : Form) (read : List (String × Json)) (field : Option String × Draft) :
    Except ReadError (List (String × Json)) := do
  let name ← nameOf field.1
  return put name (← value field.2) read

theorem tableOf_object (value : Form) (fields : List (Option String × Draft))
    (stop : Option Damage) :
    tableOf value (.object fields stop) =
      (fields.foldlM (readEntry value) [] >>= fun read => close (.object read) stop) :=
  rfl

theorem foldlM_readEntry_any (read : List (String × Json))
    (fields : List (Option String × Draft)) :
    fields.foldlM (readEntry any) read = anyFields read fields := by
  induction fields generalizing read with
  | nil => rfl
  | cons field fields ih =>
    rw [List.foldlM_cons, readEntry, anyFields]
    simp only [ih, bind_assoc, pure_bind]

theorem tableOf_any_object (fields : List (Option String × Draft)) (stop : Option Damage) :
    tableOf any (.object fields stop) = any (.object fields stop) := by
  rw [tableOf_object, foldlM_readEntry_any, any]

theorem any_of_tableOf_any {d : Draft} {j : Json} (made : tableOf any d = .ok j) :
    any d = .ok j := by
  cases d with
  | object fields stop =>
    rw [tableOf_any_object] at made
    exact made
  | blank => exact made
  | _ => cases made

theorem foldlM_readEntry {value : Form} {read fields : List (String × Json)}
    (once : ((read ++ fields).map (·.1)).Nodup)
    (settled : ∀ field ∈ fields, value (.ofJson field.2) = .ok field.2) :
    (Draft.ofFields fields).foldlM (readEntry value) read = .ok (read ++ fields) := by
  induction fields generalizing read with
  | nil => simp [Draft.ofFields, pure, Except.pure]
  | cons field fields ih =>
    obtain ⟨name, j⟩ := field
    have first : value (.ofJson j) = .ok j := settled (name, j) List.mem_cons_self
    have absent : name ∉ read.map (·.1) := by
      rw [List.map_append, List.nodup_append] at once
      intro member
      exact once.2.2 name member name (by simp) rfl
    have step : readEntry value read (some name, .ofJson j) = .ok (read ++ [(name, j)]) := by
      simp only [readEntry, nameOf, ok_bind, first, put_of_not_mem absent]
      rfl
    rw [Draft.ofFields, List.foldlM_cons, step, ok_bind,
      ih (by simpa using once) fun field member => settled field (List.mem_cons_of_mem _ member),
      List.append_assoc, List.singleton_append]

theorem tableOf_ofJson {value : Form} {fields : List (String × Json)}
    (once : (fields.map (·.1)).Nodup)
    (settled : ∀ field ∈ fields, value (.ofJson field.2) = .ok field.2) :
    tableOf value (.ofJson (.object fields)) = .ok (.object fields) := by
  rw [Draft.ofJson, tableOf_object, foldlM_readEntry (by simpa using once) settled]
  rfl

theorem foldlM_readEntry_eq_ok {value : Form} (settles : Settles value)
    {read read' : List (String × Json)} {fields : List (Option String × Draft)}
    (all : fields.foldlM (readEntry value) read = .ok read')
    (once : (read.map (·.1)).Nodup)
    (settled : ∀ field ∈ read, value (.ofJson field.2) = .ok field.2) :
    (read'.map (·.1)).Nodup ∧ ∀ field ∈ read', value (.ofJson field.2) = .ok field.2 := by
  induction fields generalizing read with
  | nil =>
    cases all
    exact ⟨once, settled⟩
  | cons field fields ih =>
    rw [List.foldlM_cons] at all
    obtain ⟨next, step, rest⟩ := bind_eq_ok_iff.mp all
    obtain ⟨name, _, step⟩ := bind_eq_ok_iff.mp step
    obtain ⟨j, made, same⟩ := bind_eq_ok_iff.mp step
    cases same
    apply ih rest (nodup_put name j once)
    intro field member
    rcases List.mem_append.mp member with kept | new
    · exact settled field (List.mem_filter.mp kept).1
    · rw [List.mem_singleton.mp new]
      exact settles.again made

theorem settles_tableOf {value : Form} (settles : Settles value) : Settles (tableOf value) where
  again {d j} made := by
    cases d with
    | object fields stop =>
      obtain ⟨read, all, closed⟩ := bind_eq_ok_iff.mp made
      cases stop <;> cases closed
      have kept := foldlM_readEntry_eq_ok settles all (by simp) (by simp)
      exact tableOf_ofJson kept.1 kept.2
    | blank =>
      cases made
      rfl
    | _ => cases made
  null {d} made := by
    cases d with
    | object fields stop =>
      obtain ⟨read, _, closed⟩ := bind_eq_ok_iff.mp made
      cases stop <;> cases closed
    | _ => cases made

end Form

end Json

end Recovery
