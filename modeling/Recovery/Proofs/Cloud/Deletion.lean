import Recovery.Proofs.Cloud.Ledger
/-!
# Deletions settle what is owed

Parts are deleted one after the other in a scope that is sheltered: whatever a deletion comes to,
the next one is asked for, and what is owed for the parts is settled. A cleanup that undoes parts
settles them on every way out of it.
-/
set_option autoImplicit false

namespace Recovery

variable {Other : Interface} {α : Type}

namespace Part

def key (ns : String) (p : Part) : ObjectKey := ⟨p.kind, ns, p.name⟩

/-- What is owed for parts that are recorded. -/
def keys (ns : String) (parts : List Part) : Multiset ObjectKey := (parts.map (key ns) : List _)

@[simp] theorem keys_nil (ns : String) : keys ns [] = 0 := rfl

theorem keys_cons (ns : String) (p : Part) (parts : List Part) :
    keys ns (p :: parts) = {p.key ns} + keys ns parts := rfl

theorem keys_append (ns : String) (ps qs : List Part) :
    keys ns (ps ++ qs) = keys ns ps + keys ns qs := by
  simp [keys]

end Part

section Deletion

variable {script : Script (Cloud Other)} {base : List (Mark (Cloud Other))}
  {owed : Multiset ObjectKey} {told : List Fault} {guards front back : List Guard} {g : Guard}
  {w w' : World (Cloud Other)} {scope : Scope} {ns : String}

theorem Part.only_delete (p : Part) :
    Task.Only (· = CloudCall.delete p.kind ns p.name)
      (p.delete scope ns : Saga (Cloud Other) Unit).run :=
  (Scope.only_run scope _ (Task.only_call _)).map _

theorem Part.delete_done {p : Part} {r : Except Fault Unit} (sheltered : w.Shelters script scope)
    (a : Account script base ({p.key ns} + owed) told w)
    (h : (p.delete scope ns).run script guards w = .done r w') :
    Account script base owed (told ++ Fault.told r) w' := by
  obtain ⟨r, ran, rfl⟩ := Task.map_done.mp h
  have covers : Fault.Covers told
      (told ++ Fault.told (Fault.during ("delete " ++ p.kind.title ns p.name) r)) :=
    .of_subset (List.subset_append_left ..)
  rcases (Scope.run_done sheltered.isCancelled).mp ran with inside | ⟨why, inside, rfl⟩
  · have adds := Task.call_done inside
    refine a.adds adds fun ms books => books.delete covers r ?_ _ _
    rintro e rfl
    exact ⟨_, by simp [Fault.during, Except.mapError],
      Fault.cites_context ("delete " ++ p.kind.title ns p.name) (.refl e)⟩
  · refine a.adds (Task.call_interrupted inside) fun ms books => books.delete_cut covers ?_ _
    simp [Fault.during, Except.mapError]

/-- The guard of the scope is noticed before one further out with the same deadline. -/
theorem Scope.guard_sooner (deadline : scope.deadline = g.deadline) (front : List Guard)
    (instant : Nat) (expired : g.isExpired instant = true) :
    ∃ f ∈ scope.guard :: front, f.isExpired instant = true := by
  refine ⟨scope.guard, List.mem_cons_self, ?_⟩
  rw [Guard.isExpired] at expired ⊢
  rwa [show scope.guard.deadline = g.deadline from deadline]

theorem Part.delete_ne {p : Part} {s : Scope} {why : Interrupt}
    (sheltered : w.Shelters script scope) (outer : w.Shelters script s)
    (guard : g.tokens = s.tokens) (deadline : scope.deadline = g.deadline) :
    (p.delete scope ns).run script (front ++ g :: back) w ≠ .interrupted back.length why w' := by
  intro h
  have h := ((Scope.run_interrupted sheltered.isCancelled).mp (Task.map_interrupted.mp h)).1
  exact Task.call_ne (scope.guard :: front) outer guard
    (fun instant _ => Scope.guard_sooner deadline front instant) h

theorem Part.deleteEach_done {parts kept : List Part} {faults : List Fault}
    (sheltered : w.Shelters script scope)
    (a : Account script base (Part.keys ns parts + owed) told w)
    (h : deleteEach scope ns parts script guards w = .done (kept, faults) w') :
    Account script base owed (told ++ faults) w' := by
  induction parts generalizing w w' told kept faults with
  | nil =>
    obtain ⟨h, rfl⟩ := Task.pure_done.mp h
    cases h
    simpa using a
  | cons p parts ih =>
    obtain ⟨result, v, deleted, h⟩ := Task.bind_done.mp h
    obtain ⟨⟨kept', faults'⟩, v', rest, h⟩ := Task.bind_done.mp h
    rw [keys_cons, add_assoc] at a
    obtain ⟨added, adds, -⟩ := (only_delete p).done deleted
    have all := ih (adds.shelters scope sheltered) (delete_done sheltered a deleted) rest
    cases result with
    | ok _ =>
      obtain ⟨h, rfl⟩ := Task.pure_done.mp h
      cases h
      simpa using all
    | error fault =>
      obtain ⟨h, rfl⟩ := Task.pure_done.mp h
      cases h
      simpa [List.append_assoc] using all

theorem Part.deleteEach_ne (front : List Guard) {parts : List Part} {s : Scope}
    {why : Interrupt}
    (sheltered : w.Shelters script scope) (outer : w.Shelters script s)
    (guard : g.tokens = s.tokens) (deadline : scope.deadline = g.deadline) :
    deleteEach scope ns parts script (front ++ g :: back) w ≠
      .interrupted back.length why w' := by
  induction parts generalizing w with
  | nil => exact fun h => by cases h
  | cons p parts ih =>
    intro h
    rcases Task.bind_interrupted.mp h with h | ⟨result, v, deleted, h⟩
    · exact delete_ne sheltered outer guard deadline h
    · obtain ⟨added, adds, -⟩ := (only_delete p).done deleted
      rcases Task.bind_interrupted.mp h with h | ⟨_, _, _, h⟩
      · exact ih (adds.shelters scope sheltered) (adds.shelters s outer) h
      · cases result <;> cases h

theorem Part.deleteEach_single {parts kept : List Part} {faults : List Fault}
    (h : deleteEach scope ns parts script guards w = .done (kept, faults) w') :
    ∀ f ∈ faults, f.IsSingle := by
  induction parts generalizing w w' kept faults with
  | nil =>
    obtain ⟨h, rfl⟩ := Task.pure_done.mp h
    cases h
    simp
  | cons p parts ih =>
    obtain ⟨result, v, deleted, h⟩ := Task.bind_done.mp h
    obtain ⟨⟨kept', faults'⟩, v', rest, h⟩ := Task.bind_done.mp h
    obtain ⟨r, -, rfl⟩ := Task.map_done.mp deleted
    cases r with
    | ok _ =>
      obtain ⟨h, rfl⟩ := Task.pure_done.mp h
      cases h
      exact ih rest
    | error fault =>
      obtain ⟨h, rfl⟩ := Task.pure_done.mp h
      cases h
      exact List.forall_mem_cons.mpr ⟨rfl, ih rest⟩

theorem Part.covers_settle {faults : List Fault} (single : ∀ f ∈ faults, f.IsSingle) :
    Fault.Covers faults (Fault.told (settle faults)) := by
  intro f hf
  obtain ⟨g, hg⟩ :=
    Option.ne_none_iff_exists'.mp (Fault.ofList?_ne_none_of_single hf (single f hf))
  rw [settle, hg]
  exact ⟨g, List.mem_singleton_self g, fun e cited => Fault.cites_ofList? hg hf cited⟩

theorem Part.deleteAll_done {parts kept : List Part} {r : Except Fault Unit} :
    (deleteAll scope ns).runFrom parts script guards w = .done (r, kept) w' ↔
      ∃ faults, deleteEach scope ns parts script guards w = .done (kept, faults) w' ∧
        r = settle faults := by
  show (deleteEach scope ns parts >>= fun p => pure (settle p.2, p.1)) script guards w = _ ↔ _
  rw [Task.bind_done]
  constructor
  · rintro ⟨⟨_, faults⟩, v, h, ended⟩
    obtain ⟨ended, rfl⟩ := Task.pure_done.mp ended
    cases ended
    exact ⟨faults, h, rfl⟩
  · rintro ⟨faults, h, rfl⟩
    exact ⟨_, _, h, rfl⟩

theorem Part.deleteAll_ne (front : List Guard) {parts : List Part} {s : Scope}
    {why : Interrupt}
    (sheltered : w.Shelters script scope) (outer : w.Shelters script s)
    (guard : g.tokens = s.tokens) (deadline : scope.deadline = g.deadline) :
    (deleteAll scope ns).runFrom parts script (front ++ g :: back) w ≠
      .interrupted back.length why w' := by
  intro h
  rcases Task.bind_interrupted.mp h with h | ⟨_, _, _, h⟩
  · exact deleteEach_ne front sheltered outer guard deadline h
  · cases h

end Deletion

/-! ## Cleanups -/

/-- In a scope that is sheltered the operation settles what is due, cut short or not; its troubles
are told of by what is reported of its failure. -/
structure Undoes (report : Fault → Fault) (operation : Scope → Saga (Cloud Other) α)
    (due : Multiset ObjectKey) : Prop where
  done : ∀ {script : Script (Cloud Other)} {s : Scope} {guards : List Guard}
    {base : List (Mark (Cloud Other))} {owed : Multiset ObjectKey} {told : List Fault}
    {r : Except Fault α} {w w' : World (Cloud Other)},
    w.Shelters script s → Account script base (due + owed) told w →
    (operation s).run script (s.guard :: guards) w = .done r w' →
    Account script base owed (told ++ Fault.told (r.mapError report)) w'
  cut : ∀ {script : Script (Cloud Other)} {s : Scope} {guards : List Guard}
    {base : List (Mark (Cloud Other))} {owed : Multiset ObjectKey} {told : List Fault}
    {why : Interrupt} {w w' : World (Cloud Other)},
    w.Shelters script s → Account script base (due + owed) told w →
    (operation s).run script (s.guard :: guards) w = .interrupted guards.length why w' →
    ∀ fault, Account script base owed (told ++ [fault]) w'

/-- The cleanup settles what is due on every way out of it. -/
structure Cleanup.Settles (c : Cleanup (Cloud Other) α) (due : Multiset ObjectKey) :
    Prop where
  account : ∀ {script : Script (Cloud Other)} {caller : Scope} {guards : List Guard}
    {base : List (Mark (Cloud Other))} {owed : Multiset ObjectKey} {told : List Fault}
    {r : Except Fault α} {w w' : World (Cloud Other)},
    Account script base (due + owed) told w →
    (c.run caller).run script guards w = .done r w' →
    Account script base owed (told ++ Fault.told r) w'

namespace Cleanup

theorem covers_report {I : Interface} {c : Cleanup I α}
    (h : ∀ f, Fault.Covers [f] [c.mapFault f]) (f : Fault) : Fault.Covers [f] [c.report f] := by
  unfold report
  split
  · exact (Fault.Covers.context _ f).trans (h _)
  · exact h f

theorem settles_of_undoes {c : Cleanup (Cloud Other) α}
    {operation : Scope → Saga (Cloud Other) α} {due : Multiset ObjectKey} {milliseconds : Nat}
    (h : Undoes c.report operation due) (operates : c.operation = .inr operation)
    (timeout : c.timeout = some milliseconds) : c.Settles due := by
  constructor
  intro script caller guards base owed told r w w' a ended
  obtain ⟨s, v, adds, sheltered, -, ran⟩ := ran_of_timeout a.rooted operates timeout ended
  have a : Account script base (due + owed) told v :=
    a.adds adds fun ms books => by rwa [List.append_nil]
  cases ran with
  | through r inside => exact h.done sheltered a inside
  | cut why what inside => exact h.cut sheltered a inside _

/-- A cleanup that is folded into a result tells of what that told of and of its own failure. -/
theorem Settles.foldInto {β : Type} {c : Cleanup (Cloud Other) α} {due : Multiset ObjectKey}
    (h : c.Settles due) {script : Script (Cloud Other)} {caller : Scope} {guards : List Guard}
    {base : List (Mark (Cloud Other))} {owed : Multiset ObjectKey} {told : List Fault}
    {result r : Except Fault β} {w w' : World (Cloud Other)}
    (a : Account script base (due + owed) (told ++ Fault.told result) w)
    (ended : c.foldInto caller result script guards w = .done r w') :
    Account script base owed (told ++ Fault.told r) w' := by
  obtain ⟨cleaned, ran, rfl⟩ := foldInto_done.mp ended
  have settled := h.account a ran
  cases cleaned with
  | ok _ => simpa [folded] using settled
  | error fault =>
    rw [List.append_assoc] at settled
    exact settled.retell ((Fault.Covers.refl told).append (Fault.covers_foldInto result fault))

end Cleanup

section Undoes

variable {report : Fault → Fault}

theorem Part.undoes_deleteAll (keeps : ∀ f, Fault.Covers [f] [report f]) (ns : String)
    (parts : List Part) :
    Undoes report
      (fun scope => ((deleteAll scope ns).evalFrom parts : Saga (Cloud Other) Unit))
      (keys ns parts) where
  done sheltered a ended := by
    obtain ⟨kept, ran⟩ := Recorded.evalFrom_done.mp ended
    obtain ⟨faults, each, rfl⟩ := deleteAll_done.mp ran
    refine (deleteEach_done sheltered a each).retell ((Fault.Covers.refl _).append ?_)
    exact (covers_settle (deleteEach_single each)).trans (Fault.covers_mapError keeps _)
  cut sheltered a ended :=
    absurd (Recorded.evalFrom_interrupted.mp ended)
      (deleteAll_ne [] sheltered sheltered rfl rfl)

/-- A single deletion may be cut short; a failure of it has to be wrapped in the report. -/
theorem undoes_delete (report : Fault → Fault) (single : ∀ f, (report f).IsSingle)
    (shows_ : ∀ f, (report f).Shows f) (kind : Kind) (ns name : String) :
    Undoes report (fun _ => (Cloud.delete kind ns name : Saga (Cloud Other) Unit))
      {⟨kind, ns, name⟩} where
  done _ a ended := by
    have adds := Task.call_done ended
    refine a.adds adds fun ms books =>
      books.delete (.of_subset (List.subset_append_left ..)) _ ?_ _ _
    rintro e rfl
    exact ⟨_, List.mem_append_right _ (List.mem_singleton_self _),
      Fault.cites_of_shows (single e) (shows_ e)⟩
  cut _ a ended fault :=
    a.adds (Task.call_interrupted ended) fun ms books =>
      books.delete_cut (.of_subset (List.subset_append_left ..)) (by simp) _

end Undoes

end Recovery
