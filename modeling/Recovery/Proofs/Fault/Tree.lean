import Recovery.Proofs.Fault
/-!
# Trees of faults

However faults are wrapped and joined, no aggregate stands directly within another and none is for
a single fault. On such trees joining is appending, and nothing gets into a tree that it was not
made of.
-/
set_option autoImplicit false

namespace Recovery

namespace Fault

variable {f g e later : Fault} {es : List Fault}

/-- `e` stands somewhere in the tree of `f`. -/
inductive Holds : Fault → Fault → Prop where
  | root (f : Fault) : Holds f f
  | phase (p : Phase) (action : String) {f e : Fault} : Holds f e → Holds (.phase p action f) e
  | context (doing : String) {f e : Fault} : Holds f e → Holds (.context doing f) e
  | member {es : List Fault} {f e : Fault} : f ∈ es → Holds f e → Holds (.aggregate es) e

/-- It wraps no fault. -/
def IsLeaf : Fault → Prop
  | .phase .. | .context .. | .aggregate .. => False
  | _ => True

/-- Every aggregate in the tree has at least two members, none of which is an aggregate. -/
def IsFlat (f : Fault) : Prop :=
  ∀ es, f.Holds (.aggregate es) → 2 ≤ es.length ∧ ∀ e ∈ es, e.IsSingle

theorem isSingle_iff : f.IsSingle ↔ ∀ es, f ≠ .aggregate es := by
  constructor
  · rintro single es rfl
    have smaller := List.sizeOf_lt_of_mem (show Fault.aggregate es ∈ es from single.mem_errors)
    rw [aggregate.sizeOf_spec] at smaller
    omega
  · intro other
    cases f with
    | aggregate es => exact absurd rfl (other es)
    | _ => rfl

theorem Holds.trans (h : f.Holds g) (h' : g.Holds e) : f.Holds e := by
  induction h with
  | root => exact h'
  | phase p action _ ih => exact .phase p action (ih h')
  | context doing _ ih => exact .context doing (ih h')
  | member mem _ ih => exact .member mem (ih h')

theorem holds_of_mem_errors (h : e ∈ f.errors) : f.Holds e := by
  cases f with
  | aggregate es => exact .member h (.root e)
  | _ =>
    obtain rfl := List.mem_singleton.mp h
    exact .root _

/-- What stands in an aggregate is the aggregate or stands in one of its members. -/
theorem holds_aggregate :
    (Fault.aggregate es).Holds e ↔ e = .aggregate es ∨ ∃ g ∈ es, g.Holds e := by
  constructor
  · intro h
    cases h with
    | root => exact .inl rfl
    | member mem held => exact .inr ⟨_, mem, held⟩
  · rintro (rfl | ⟨g, mem, held⟩)
    · exact .root _
    · exact .member mem held

/-! ## Flat trees -/

theorem IsLeaf.eq_of_holds (leaf : f.IsLeaf) (h : f.Holds e) : e = f := by
  cases h with
  | root => rfl
  | phase | context | member => exact leaf.elim

theorem IsLeaf.isFlat (leaf : f.IsLeaf) : f.IsFlat := by
  intro es held
  rw [← leaf.eq_of_holds held] at leaf
  exact leaf.elim

theorem IsFlat.of_holds (flat : f.IsFlat) (h : f.Holds e) : e.IsFlat :=
  fun es held => flat es (h.trans held)

theorem IsFlat.phase (flat : f.IsFlat) (p : Phase) (action : String) :
    (Fault.phase p action f).IsFlat := by
  intro es held
  cases held with
  | phase _ _ held => exact flat es held

theorem IsFlat.context (flat : f.IsFlat) (doing : String) : (Fault.context doing f).IsFlat := by
  intro es held
  cases held with
  | context _ held => exact flat es held

theorem isFlat_aggregate (several : 2 ≤ es.length) (single : ∀ e ∈ es, e.IsSingle)
    (flat : ∀ e ∈ es, e.IsFlat) : (Fault.aggregate es).IsFlat := by
  intro es' held
  rcases holds_aggregate.mp held with same | ⟨g, mem, held⟩
  · cases same
    exact ⟨several, single⟩
  · exact flat g mem es' held

theorem IsFlat.errors_ne_nil (flat : f.IsFlat) : f.errors ≠ [] := by
  cases f with
  | aggregate es =>
    obtain ⟨several, -⟩ := flat es (.root _)
    exact List.ne_nil_of_length_pos (by simp; omega)
  | _ => simp [errors]

theorem IsFlat.single_of_mem (flat : f.IsFlat) (mem : e ∈ f.errors) : e.IsSingle := by
  cases f with
  | aggregate es => exact (flat es (.root _)).2 e mem
  | _ =>
    obtain rfl := List.mem_singleton.mp mem
    rfl

theorem IsFlat.of_mem (flat : f.IsFlat) (mem : e ∈ f.errors) : e.IsFlat :=
  flat.of_holds (holds_of_mem_errors mem)

/-! ## Joining flat trees -/

section OfList

variable (flat : ∀ e ∈ es, e.IsFlat)

include flat

theorem ofList?_eq_none_iff : ofList? es = none ↔ es = [] := by
  constructor
  · intro nothing
    cases es with
    | nil => rfl
    | cons e rest =>
      have first := flat e List.mem_cons_self
      obtain ⟨c, hc⟩ := List.exists_mem_of_ne_nil e.errors first.errors_ne_nil
      have cited : e.Cites c := ⟨c, hc, first.single_of_mem hc, .refl c⟩
      exact absurd nothing (ofList?_ne_none List.mem_cons_self cited)
  · rintro rfl
    rfl

theorem errors_ofList? (h : ofList? es = some f) : f.errors = es.flatMap errors := by
  have single : ∀ c ∈ es.flatMap errors, c.IsSingle := by
    intro c mem
    obtain ⟨e, he, hc⟩ := List.mem_flatMap.mp mem
    exact (flat e he).single_of_mem hc
  apply errors_of_ofList? single
  rwa [ofList?, flatMap_errors single]

theorem isFlat_ofList? (h : ofList? es = some f) : f.IsFlat := by
  have members : ∀ c ∈ es.flatMap errors, c.IsSingle ∧ c.IsFlat := by
    intro c mem
    obtain ⟨e, he, hc⟩ := List.mem_flatMap.mp mem
    exact ⟨(flat e he).single_of_mem hc, (flat e he).of_mem hc⟩
  rw [ofList?] at h
  split at h
  · cases h
  · rename_i only
    cases h
    exact (members f (by simp [only])).2
  · rename_i nonempty several
    cases h
    refine isFlat_aggregate ?_ (fun c mem => (members c mem).1) fun c mem => (members c mem).2
    obtain ⟨c, rest, found⟩ := List.exists_cons_of_ne_nil nonempty
    cases rest with
    | nil => exact absurd found (several c)
    | cons d others => simp [found]

end OfList

/-- Faults that are not empty make an aggregate, whatever they are made of themselves. -/
theorem join_eq_aggregate (some_error : f.errors ≠ []) (some_error' : g.errors ≠ []) :
    join f g = .aggregate (f.errors ++ g.errors) := by
  have both : [f, g].flatMap errors = f.errors ++ g.errors := by simp
  rw [join, ofList?, both]
  obtain ⟨c, rest, left⟩ := List.exists_cons_of_ne_nil some_error
  obtain ⟨d, others, right⟩ := List.exists_cons_of_ne_nil some_error'
  rw [left, right]
  cases rest <;> rfl

theorem join_eq (flat : f.IsFlat) (flat' : g.IsFlat) :
    join f g = .aggregate (f.errors ++ g.errors) :=
  join_eq_aggregate flat.errors_ne_nil flat'.errors_ne_nil

theorem ofList?_pair (flat : f.IsFlat) (flat' : g.IsFlat) : ofList? [f, g] = some (join f g) := by
  have stands : ofList? [f, g] ≠ none := by
    rw [Ne, ofList?_eq_none_iff (by simp [flat, flat'])]
    simp
  obtain ⟨joined, h⟩ := Option.ne_none_iff_exists'.mp stands
  rw [join, h]
  rfl

example : join (join (.cancelled "a") (.context "b" (.cancelled "c"))) (.cancelled "d") =
    .aggregate [.cancelled "a", .context "b" (.cancelled "c"), .cancelled "d"] := rfl

theorem join_assoc (flat : f.IsFlat) (flat' : g.IsFlat) (flat'' : e.IsFlat) :
    join (join f g) e = join f (join g e) := by
  have left : (join f g).IsFlat := isFlat_ofList? (by simp [flat, flat']) (ofList?_pair flat flat')
  have right : (join g e).IsFlat :=
    isFlat_ofList? (by simp [flat', flat'']) (ofList?_pair flat' flat'')
  rw [join_eq left flat'', join_eq flat right, join_eq flat flat', join_eq flat' flat'']
  simp

/-! ## What faults are made of -/

/-- Folds a later fault into a result that is changed in place. What was there is taken out first,
and for as long a placeholder stands in its place. -/
def foldInPlace {α : Type} (later : Fault) : StateM (Except Fault α) Unit := do
  let previous : Except Fault α ← get
  set (Except.error (plain "fold placeholder") : Except Fault α)
  set (match previous with
    | .ok _ => .error later
    | .error original => .error (join original later) : Except Fault α)

theorem run_foldInPlace {α : Type} (slot : Except Fault α) (later : Fault) :
    (foldInPlace later).run slot = ((), foldInto slot later) := by
  cases slot <;> rfl

/-- Faults that are made of some leaves by wrapping, joining and folding. -/
inductive MadeOf (leaves : Fault → Prop) : Fault → Prop where
  | leaf {e : Fault} : e.IsLeaf → leaves e → MadeOf leaves e
  | context (doing : String) {e : Fault} : MadeOf leaves e → MadeOf leaves (.context doing e)
  | phase (p : Phase) (action : String) {e : Fault} :
    MadeOf leaves e → MadeOf leaves (.phase p action e)
  | aggregate {es : List Fault} {f : Fault} :
    (∀ e ∈ es, MadeOf leaves e) → ofList? es = some f → MadeOf leaves f
  | join {earlier later : Fault} :
    MadeOf leaves earlier → MadeOf leaves later → MadeOf leaves (join earlier later)
  | fold {α : Type} {slot : Except Fault α} {later f : Fault} :
    (∀ e, slot = .error e → MadeOf leaves e) → MadeOf leaves later →
    ((foldInPlace later).run slot).2 = .error f → MadeOf leaves f

/-- A flat tree of some leaves. -/
structure IsTreeOf (leaves : Fault → Prop) (f : Fault) : Prop where
  flat : f.IsFlat
  leaves : ∀ e, f.Holds e → e.IsLeaf → leaves e

section IsTreeOf

variable {leaves : Fault → Prop}

theorem IsTreeOf.of_ofList? (trees : ∀ e ∈ es, IsTreeOf leaves e) (h : ofList? es = some f) :
    IsTreeOf leaves f := by
  have flat : ∀ e ∈ es, e.IsFlat := fun e mem => (trees e mem).flat
  refine ⟨isFlat_ofList? flat h, fun e held leaf => ?_⟩
  -- the leaves of `f` stand in one of those that `f` comes to, and so in one of `es`
  have below : ∃ c ∈ f.errors, c.Holds e := by
    cases f with
    | aggregate cs =>
      rcases holds_aggregate.mp held with rfl | below
      · exact leaf.elim
      · exact below
    | _ => exact ⟨_, List.mem_singleton_self _, held⟩
  obtain ⟨c, mem, held⟩ := below
  rw [errors_ofList? flat h] at mem
  obtain ⟨g, hg, hc⟩ := List.mem_flatMap.mp mem
  exact (trees g hg).leaves e ((holds_of_mem_errors hc).trans held) leaf

theorem IsTreeOf.join (tree : IsTreeOf leaves f) (tree' : IsTreeOf leaves g) :
    IsTreeOf leaves (join f g) := by
  have both : ∀ e ∈ [f, g], IsTreeOf leaves e := by simp [tree, tree']
  exact .of_ofList? both (ofList?_pair tree.flat tree'.flat)

theorem MadeOf.isTreeOf (h : MadeOf leaves f) : IsTreeOf leaves f := by
  induction h with
  | leaf isLeaf among =>
    refine ⟨isLeaf.isFlat, fun e held _ => ?_⟩
    rw [isLeaf.eq_of_holds held]
    exact among
  | context doing _ ih =>
    refine ⟨ih.flat.context doing, fun e held leaf => ?_⟩
    cases held with
    | root => exact leaf.elim
    | context _ held => exact ih.leaves e held leaf
  | phase p action _ ih =>
    refine ⟨ih.flat.phase p action, fun e held leaf => ?_⟩
    cases held with
    | root => exact leaf.elim
    | phase _ _ held => exact ih.leaves e held leaf
  | aggregate _ made ih => exact .of_ofList? ih made
  | join _ _ ih ih' => exact ih.join ih'
  | @fold α slot later f _ _ made ih ih' =>
    rw [run_foldInPlace] at made
    cases slot with
    | ok a =>
      cases made
      exact ih'
    | error earlier =>
      cases made
      exact (ih earlier rfl).join ih'

end IsTreeOf

/-- Faults made of leaves are flat and hold no other leaves, in particular not those that would
stand for the aggregate of no faults or for a fault that is being folded; and for flat faults
joining is appending and associative, and an aggregate comes to what its members come to. -/
theorem made_faults_are_flat :
    (∀ leaves f, MadeOf leaves f → f.IsFlat ∧ ∀ e, f.Holds e → e.IsLeaf → leaves e) ∧
    (∀ leaves f, MadeOf leaves f →
      ¬ leaves (plain "empty aggregate") → ¬ leaves (plain "fold placeholder") →
      ¬ f.Holds (plain "empty aggregate") ∧ ¬ f.Holds (plain "fold placeholder")) ∧
    (∀ f g : Fault, f.IsFlat → g.IsFlat → (join f g).errors = f.errors ++ g.errors) ∧
    (∀ f g e : Fault, f.IsFlat → g.IsFlat → e.IsFlat →
      join (join f g) e = join f (join g e)) ∧
    ∀ es : List Fault, (∀ e ∈ es, e.IsFlat) → (ofList? es = none ↔ es = []) ∧
      ∀ f, ofList? es = some f → f.errors = es.flatMap errors := by
  refine ⟨fun leaves f made => ?_, fun leaves f made notEmpty notFolding => ?_,
    fun f g flat flat' => ?_, fun f g e flat flat' flat'' => ?_, fun es flat => ?_⟩
  · exact ⟨made.isTreeOf.flat, made.isTreeOf.leaves⟩
  · exact ⟨fun held => notEmpty (made.isTreeOf.leaves _ held trivial),
      fun held => notFolding (made.isTreeOf.leaves _ held trivial)⟩
  · rw [join_eq flat flat']
    rfl
  · exact join_assoc flat flat' flat''
  · exact ⟨ofList?_eq_none_iff flat, fun f made => errors_ofList? flat made⟩

def undeleted : Fault := .context "delete worker" (.aggregate [plain "gone", .timeout "pod" "left"])

/-- An export is cancelled, and then its worker cannot be deleted. -/
def folded : Fault := .aggregate [.cancelled "export", undeleted]

theorem made_faults_are_flat_of_folded :
    let leaves (e : Fault) := e ∈ [.cancelled "export", plain "gone", .timeout "pod" "left"]
    let restore : Fault := .cancelled "restore"
    MadeOf leaves folded ∧ (∀ e, folded.Holds e → e.IsLeaf → leaves e) ∧
    folded.IsFlat ∧ ¬ folded.Holds (plain "empty aggregate") ∧
    ¬ folded.Holds (plain "fold placeholder") ∧
    (join restore folded).errors = [restore, .cancelled "export", undeleted] ∧
    join (join folded restore) folded = join folded (join restore folded) ∧
    ∃ f, ofList? [folded, restore] = some f ∧
      f.errors = [.cancelled "export", undeleted, restore] := by
  intro leaves restore
  have left_over : ofList? [plain "gone", .timeout "pod" "left"] =
      some (.aggregate [plain "gone", .timeout "pod" "left"]) := rfl
  have deletion : MadeOf leaves undeleted := by
    apply MadeOf.context
    apply MadeOf.aggregate _ left_over
    intro e mem
    apply MadeOf.leaf _ (List.mem_cons_of_mem _ mem)
    have either : e = plain "gone" ∨ e = .timeout "pod" "left" := by simpa using mem
    rcases either with rfl | rfl <;> trivial
  have folds : ((foldInPlace undeleted).run (.error (.cancelled "export") : Except Fault Unit)).2 =
      .error folded := rfl
  have made : MadeOf leaves folded := by
    apply MadeOf.fold _ deletion folds
    rintro e ⟨⟩
    exact .leaf trivial List.mem_cons_self
  obtain ⟨flat, among⟩ := made_faults_are_flat.1 leaves folded made
  obtain ⟨notEmpty, notFolding⟩ := made_faults_are_flat.2.1 leaves folded made
    (by simp [leaves, plain]) (by simp [leaves, plain])
  have single : restore.IsFlat := IsLeaf.isFlat trivial
  have both : ∀ e ∈ [folded, restore], e.IsFlat := by simp [flat, single]
  refine ⟨made, among, flat, notEmpty, notFolding, ?_, ?_, ?_⟩
  · exact made_faults_are_flat.2.2.1 restore folded single flat
  · exact made_faults_are_flat.2.2.2.1 folded restore folded flat single flat
  · exact ⟨_, rfl, (made_faults_are_flat.2.2.2.2 _ both).2 _ rfl⟩

end Fault

end Recovery
