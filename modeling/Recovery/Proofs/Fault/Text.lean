import Recovery.Proofs.Fault.Tree
/-!
# What the text of a fault shows

Wherever a fault stands in a tree, its text can be read in that of the tree. An aggregate shows its
members in order, each in brackets of its own.
-/
set_option autoImplicit false

namespace Recovery

namespace Text

/-- The pieces stand in the text one after the other, each of them behind the one before it. -/
inductive Strung : List (List Char) → List Char → Prop where
  | nil (text : List Char) : Strung [] text
  | cons (gap piece : List Char) {pieces : List (List Char)} {rest : List Char} :
    Strung pieces rest → Strung (piece :: pieces) (gap ++ piece ++ rest)

theorem Strung.behind {pieces : List (List Char)} {text : List Char} (h : Strung pieces text)
    (front : List Char) : Strung pieces (front ++ text) := by
  cases h with
  | nil text => exact .nil _
  | cons gap piece rest =>
    rw [← List.append_assoc, ← List.append_assoc]
    exact .cons (front ++ gap) piece rest

theorem strung_intercalate (separator : List Char) (pieces : List (List Char)) :
    Strung pieces (separator.intercalate pieces) := by
  induction pieces with
  | nil => exact .nil _
  | cons piece pieces ih =>
    cases pieces with
    | nil =>
      have alone : Strung [piece] ([] ++ piece ++ []) := .cons [] piece (.nil [])
      rw [List.intercalate_singleton]
      rwa [List.nil_append, List.append_nil] at alone
    | cons next rest =>
      have first : Strung (piece :: next :: rest)
          ([] ++ piece ++ (separator ++ separator.intercalate (next :: rest))) :=
        .cons [] piece (ih.behind separator)
      rw [List.intercalate_cons_cons, List.append_assoc]
      rwa [List.nil_append] at first

end Text

namespace Fault

theorem Holds.shows {f e : Fault} (h : f.Holds e) : f.Shows e := by
  induction h with
  | root f => exact .refl f
  | phase p action _ ih => exact (shows_phase p action _).trans ih
  | context doing _ ih => exact (shows_context doing _).trans ih
  | member among _ ih => exact (shows_member among).trans ih

def bracket (e : Fault) : String := "[" ++ e.message ++ "]"

theorem bracketed_eq_intercalate (es : List Fault) :
    bracketed es = "; ".intercalate (es.map bracket) := by
  induction es with
  | nil => exact String.intercalate_nil.symm
  | cons e rest ih =>
    cases rest with
    | nil => exact String.intercalate_singleton.symm
    | cons next rest =>
      have first : "[" ++ e.message ++ "]; " = bracket e ++ "; " :=
        String.toList_inj.mp (by simp [bracket])
      calc bracketed (e :: next :: rest)
        _ = bracket e ++ "; " ++ "; ".intercalate ((next :: rest).map bracket) := by
          rw [bracketed_cons_cons, first, ih]
        _ = "; ".intercalate ((e :: next :: rest).map bracket) :=
          String.intercalate_cons_cons.symm

/-- The text of every fault in a tree is part of the text of the tree. That of an aggregate says how
many members there are and then has them in brackets, all apart and in their order. -/
theorem constituents_stay_visible :
    (∀ f e : Fault, f.Holds e → e.message.toList <:+: f.message.toList) ∧
    ∀ es : List Fault,
      (Fault.aggregate es).message =
        toString es.length ++ " errors occurred: " ++ "; ".intercalate (es.map bracket) ∧
      Text.Strung (es.map fun e => (bracket e).toList) (Fault.aggregate es).message.toList := by
  refine ⟨fun f e held => held.shows, fun es => ?_⟩
  have text : (Fault.aggregate es).message =
      toString es.length ++ " errors occurred: " ++ "; ".intercalate (es.map bracket) := by
    rw [message_aggregate, bracketed_eq_intercalate]
  refine ⟨text, ?_⟩
  rw [text, String.toList_append, String.toList_intercalate, List.map_map]
  exact (Text.strung_intercalate _ _).behind _

/-- One of the texts in it looks like the end of a member. -/
def crowded : Fault :=
  .phase .cleanup "restore" (.aggregate [.cancelled "a]; [b",
    .context "delete worker" (.aggregate [.plain "gone", .timeout "pod w" "ready"])])

theorem constituents_stay_visible_of_crowded :
    crowded.message = "cleanup failed for action restore: 2 errors occurred: " ++
      "[cancelled: a]; [b]; [delete worker: 2 errors occurred: " ++
      "[internal error [unknown]: gone]; [timed out waiting for pod w: ready]]" ∧
    crowded.Holds (.timeout "pod w" "ready") ∧
    (Fault.timeout "pod w" "ready").message.toList <:+: crowded.message.toList := by
  have held : crowded.Holds (.timeout "pod w" "ready") :=
    .phase _ _ (.member (.tail _ (.head _)) (.context _ (.member (.tail _ (.head _)) (.root _))))
  exact ⟨by decide +kernel, held, constituents_stay_visible.1 crowded _ held⟩

end Fault

end Recovery
