import Recovery.Fault
/-!
# No fault is lost

The text of a fault shows the texts of all it wraps. `Cites` is the stronger relation that joining
respects: joining faults dissolves aggregates, so a fault is cited by a member that is none.
-/
set_option autoImplicit false

namespace Recovery

namespace Fault

/-- The text of `e` occurs in that of `f`. -/
def Shows (f e : Fault) : Prop := e.message.toList <:+: f.message.toList

namespace Shows

theorem refl (f : Fault) : f.Shows f := List.infix_refl _

theorem trans {f e e' : Fault} (h : f.Shows e) (h' : e.Shows e') : f.Shows e' :=
  List.IsInfix.trans h' h

end Shows

theorem shows_context (doing : String) (e : Fault) : (Fault.context doing e).Shows e := by
  refine ⟨(doing ++ ": ").toList, [], ?_⟩
  rw [List.append_nil, ← String.toList_append, message_context]

theorem shows_phase (p : Phase) (action : String) (e : Fault) :
    (Fault.phase p action e).Shows e := by
  refine ⟨(p.name ++ " failed for action " ++ action ++ ": ").toList, [], ?_⟩
  rw [List.append_nil, ← String.toList_append, message_phase]

theorem infix_bracketed {e : Fault} {es : List Fault} (h : e ∈ es) :
    e.message.toList <:+: (bracketed es).toList := by
  induction es with
  | nil => cases h
  | cons first rest ih =>
    cases rest with
    | nil =>
      obtain rfl := List.mem_singleton.mp h
      refine ⟨"[".toList, "]".toList, ?_⟩
      rw [bracketed_singleton, String.toList_append, String.toList_append]
    | cons next rest =>
      rw [bracketed_cons_cons]
      rcases List.mem_cons.mp h with rfl | h
      · refine ⟨"[".toList, ("]; " ++ bracketed (next :: rest)).toList, ?_⟩
        simp only [String.toList_append, List.append_assoc]
      · refine (ih h).trans ⟨("[" ++ first.message ++ "]; ").toList, [], ?_⟩
        rw [List.append_nil, ← String.toList_append]

theorem shows_member {e : Fault} {es : List Fault} (h : e ∈ es) :
    (Fault.aggregate es).Shows e := by
  refine (infix_bracketed h).trans ⟨(toString es.length ++ " errors occurred: ").toList, [], ?_⟩
  rw [List.append_nil, ← String.toList_append, message_aggregate]

/-- No aggregate. -/
def IsSingle (f : Fault) : Prop := f.errors = [f]

/-- One of the faults that `f` stands for shows `e` and is no aggregate itself. -/
def Cites (f e : Fault) : Prop := ∃ c ∈ f.errors, c.IsSingle ∧ c.Shows e

theorem Cites.shows {f e : Fault} (h : f.Cites e) : f.Shows e := by
  obtain ⟨c, member, -, cited⟩ := h
  cases f with
  | aggregate es => exact (shows_member member).trans cited
  | _ =>
    obtain rfl := List.mem_singleton.mp member
    exact cited

theorem IsSingle.mem_errors {f : Fault} (single : f.IsSingle) : f ∈ f.errors := by
  rw [single]
  exact List.mem_singleton_self f

theorem cites_of_shows {f e : Fault} (single : f.IsSingle) (h : f.Shows e) : f.Cites e :=
  ⟨f, single.mem_errors, single, h⟩

theorem cites_context {e f : Fault} (doing : String) (h : f.Shows e) :
    (Fault.context doing f).Cites e :=
  cites_of_shows rfl ((shows_context doing f).trans h)

theorem cites_phase {e f : Fault} (p : Phase) (action : String) (h : f.Shows e) :
    (Fault.phase p action f).Cites e :=
  cites_of_shows rfl ((shows_phase p action f).trans h)

/-! ## Joining -/

theorem cites_ofList? {faults : List Fault} {f g e : Fault} (h : ofList? faults = some f)
    (member : g ∈ faults) (cited : g.Cites e) : f.Cites e := by
  obtain ⟨c, hc, single, shown⟩ := cited
  have among : c ∈ faults.flatMap errors := List.mem_flatMap.mpr ⟨g, member, hc⟩
  unfold ofList? at h
  split at h
  · cases h
  · rename_i only
    cases h
    rw [only] at among
    obtain rfl := List.mem_singleton.mp among
    exact cites_of_shows single shown
  · cases h
    exact ⟨c, among, single, shown⟩

theorem ofList?_ne_none {faults : List Fault} {g e : Fault} (member : g ∈ faults)
    (cited : g.Cites e) : ofList? faults ≠ none := by
  obtain ⟨c, hc, -⟩ := cited
  have among : c ∈ faults.flatMap errors := List.mem_flatMap.mpr ⟨g, member, hc⟩
  unfold ofList?
  split
  · rename_i nothing
    rw [nothing] at among
    cases among
  · simp
  · simp

theorem ofList?_ne_none_of_single {faults : List Fault} {g : Fault} (member : g ∈ faults)
    (single : g.IsSingle) : ofList? faults ≠ none :=
  ofList?_ne_none member (cites_of_shows single (.refl g))

theorem ofList?_eq_none {faults : List Fault} (single : ∀ f ∈ faults, f.IsSingle) :
    ofList? faults = none ↔ faults = [] := by
  constructor
  · intro none
    refine List.eq_nil_iff_forall_not_mem.mpr fun f mem => ?_
    exact ofList?_ne_none_of_single mem (single f mem) none
  · rintro rfl
    rfl

theorem shows_ofList? {faults : List Fault} {f g : Fault} (h : ofList? faults = some f)
    (member : g ∈ faults) (single : g.IsSingle) : f.Shows g :=
  (cites_ofList? h member (cites_of_shows single (.refl g))).shows

theorem cites_join {earlier later g e : Fault} (member : g ∈ [earlier, later])
    (cited : g.Cites e) : (join earlier later).Cites e := by
  obtain ⟨f, hf⟩ := Option.ne_none_iff_exists'.mp (ofList?_ne_none member cited)
  rw [join, hf]
  exact cites_ofList? hf member cited

/-- What a fault stands for is kept when a single one is joined to it. -/
theorem errors_join {earlier later : Fault} (single : later.IsSingle) :
    (join earlier later).errors = earlier.errors ++ [later] := by
  have both : [earlier, later].flatMap errors = earlier.errors ++ [later] := by
    rw [List.flatMap_cons, List.flatMap_singleton, single]
  rw [join, ofList?, both]
  cases earlier.errors with
  | nil => exact single
  | cons e es =>
    cases es <;> rfl

/-- Whatever is joined to a fault that is none of several comes after it. -/
theorem errors_head?_join {earlier later : Fault} (single : earlier.IsSingle) :
    (join earlier later).errors.head? = some earlier := by
  have both : [earlier, later].flatMap errors = earlier :: later.errors := by
    rw [List.flatMap_cons, List.flatMap_singleton, single]
    rfl
  rw [join, ofList?, both]
  cases later.errors with
  | nil => exact congrArg List.head? single
  | cons e es => rfl

/-! ## Covering -/

/-- What the faults in `told` cite is cited by those in `retold`. -/
def Covers (told retold : List Fault) : Prop :=
  ∀ f ∈ told, ∃ f' ∈ retold, ∀ e, f.Cites e → f'.Cites e

namespace Covers

theorem of_subset {told retold : List Fault} (h : told ⊆ retold) : Covers told retold :=
  fun f hf => ⟨f, h hf, fun _ cited => cited⟩

theorem refl (told : List Fault) : Covers told told := .of_subset fun _ h => h

theorem trans {told retold again : List Fault} (h : Covers told retold)
    (h' : Covers retold again) : Covers told again := by
  intro f hf
  obtain ⟨f', hf', cites⟩ := h f hf
  obtain ⟨f'', hf'', cites'⟩ := h' f' hf'
  exact ⟨f'', hf'', fun e cited => cites' e (cites e cited)⟩

theorem append {told retold told' retold' : List Fault} (h : Covers told retold)
    (h' : Covers told' retold') : Covers (told ++ told') (retold ++ retold') := by
  intro f hf
  rcases List.mem_append.mp hf with hf | hf
  · obtain ⟨f', hf', cites⟩ := h f hf
    exact ⟨f', List.mem_append_left _ hf', cites⟩
  · obtain ⟨f', hf', cites⟩ := h' f hf
    exact ⟨f', List.mem_append_right _ hf', cites⟩

theorem eq_nil {told : List Fault} (h : Covers told []) : told = [] := by
  refine List.eq_nil_iff_forall_not_mem.mpr fun f hf => ?_
  obtain ⟨_, hf', _⟩ := h f hf
  cases hf'

theorem context (doing : String) (f : Fault) : Covers [f] [.context doing f] := by
  intro g hg
  obtain rfl := List.mem_singleton.mp hg
  exact ⟨_, List.mem_singleton_self _, fun e cited => cites_context doing cited.shows⟩

theorem phase (p : Phase) (action : String) (f : Fault) : Covers [f] [.phase p action f] := by
  intro g hg
  obtain rfl := List.mem_singleton.mp hg
  exact ⟨_, List.mem_singleton_self _, fun e cited => cites_phase p action cited.shows⟩

theorem join (earlier later : Fault) : Covers [earlier, later] [Fault.join earlier later] :=
  fun _ hg => ⟨_, List.mem_singleton_self _, fun _ cited => cites_join hg cited⟩

end Covers

/-- What a result tells of. -/
def told {α : Type} : Except Fault α → List Fault
  | .ok _ => []
  | .error f => [f]

section Told

variable {α β : Type}

@[simp] theorem told_ok (a : α) : told (.ok a : Except Fault α) = [] := rfl

@[simp] theorem told_error (f : Fault) : told (.error f : Except Fault α) = [f] := rfl

theorem told_eq_nil {result : Except Fault α} : told result = [] ↔ ∃ a, result = .ok a := by
  cases result <;> simp

theorem covers_mapError {change : Fault → Fault} (h : ∀ f, Covers [f] [change f])
    (result : Except Fault α) : Covers (told result) (told (result.mapError change)) := by
  cases result with
  | ok a => exact .refl []
  | error f => exact h f

/-- Folding a later failure into a result loses neither. -/
theorem covers_foldInto (result : Except Fault α) (later : Fault) :
    Covers (told result ++ [later]) (told (foldInto result later)) := by
  cases result with
  | ok a => exact .refl _
  | error earlier => exact .join earlier later

end Told

/-! ## Telling in order -/

section Tells

variable {α : Type} {result : Except Fault α} {faults : List Fault} {f later : Fault}

theorem flatMap_errors (single : ∀ f ∈ faults, f.IsSingle) : faults.flatMap errors = faults := by
  induction faults with
  | nil => rfl
  | cons f faults ih =>
    obtain ⟨first, rest⟩ := List.forall_mem_cons.mp single
    rw [List.flatMap_cons, first, ih rest]
    rfl

/-- Faults none of which is an aggregate are what one that stands for them comes to. -/
theorem errors_of_ofList? (single : ∀ f ∈ faults, f.IsSingle) (h : ofList? faults = some f) :
    f.errors = faults := by
  rw [ofList?, flatMap_errors single] at h
  split at h
  · cases h
  · cases h
    exact single _ (List.mem_singleton_self _)
  · cases h
    rfl

/-- The result tells of these faults, which came in this order, and of nothing else. -/
structure Tells (result : Except Fault α) (faults : List Fault) : Prop where
  single : ∀ f ∈ faults, f.IsSingle
  told : told result = (ofList? faults).toList

namespace Tells

theorem ok (a : α) : Tells (.ok a) [] := ⟨nofun, rfl⟩

theorem error (single : f.IsSingle) : Tells (.error f : Except Fault α) [f] := by
  refine ⟨List.forall_mem_singleton.mpr single, ?_⟩
  rw [ofList?, List.flatMap_singleton, single]
  rfl

theorem errors (h : Tells (.error f : Except Fault α) faults) : f.errors = faults :=
  errors_of_ofList? h.single (Option.toList_eq_singleton_iff.mp h.told.symm)

theorem ok_iff (h : Tells result faults) : (∃ a, result = .ok a) ↔ faults = [] := by
  rw [← told_eq_nil, h.told, Option.toList_eq_nil_iff, ofList?_eq_none h.single]

theorem foldInto (h : Tells result faults) (single : later.IsSingle) :
    Tells (foldInto result later) (faults ++ [later]) := by
  cases result with
  | ok a =>
    rw [h.ok_iff.mp ⟨a, rfl⟩]
    exact error single
  | error earlier =>
    have all : ∀ f ∈ faults ++ [later], f.IsSingle :=
      List.forall_mem_append.mpr ⟨h.single, List.forall_mem_singleton.mpr single⟩
    refine ⟨all, ?_⟩
    have same : ofList? [earlier, later] = ofList? (faults ++ [later]) := by
      rw [ofList?, ofList?, flatMap_errors all, List.flatMap_cons, List.flatMap_singleton, h.errors,
        single]
    have last : later ∈ faults ++ [later] := List.mem_append_right _ (List.mem_singleton_self _)
    obtain ⟨f, hf⟩ := Option.ne_none_iff_exists'.mp (ofList?_ne_none_of_single last single)
    show [join earlier later] = _
    rw [join, same, hf]
    rfl

/-- The first of the faults is the one to blame. -/
theorem failedPhase (h : Tells (.error f : Except Fault α) faults)
    (blames : ∀ e ∈ faults, e.failedPhase ≠ none) :
    f.failedPhase = faults.head?.bind Fault.failedPhase := by
  have stands := Option.toList_eq_singleton_iff.mp h.told.symm
  rw [ofList?, flatMap_errors h.single] at stands
  split at stands
  · cases stands
  · cases stands
    rfl
  · cases stands
    rename_i single several
    cases faults with
    | nil => rfl
    | cons e rest =>
      obtain ⟨blamed, same⟩ := Option.ne_none_iff_exists'.mp (blames e List.mem_cons_self)
      show firstFailedPhase (e :: rest) = e.failedPhase
      rw [firstFailedPhase, same]
      rfl

end Tells

end Tells

end Fault

end Recovery
