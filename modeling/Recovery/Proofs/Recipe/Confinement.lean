import Recovery.Command.Restore
import Recovery.Proofs.Recipe.Path
import Recovery.Proofs.Recipe.Reference
import Recovery.Proofs.Result
/-!
# How far requests lead

A directory in object storage is refused if it names a parent, so that a transfer stays on the
store. The source of a restore is not looked at: it may lead back, and then the restore reads where
it leads.
-/
set_option autoImplicit false

namespace Recovery

variable {Other : Interface}

namespace Layout

/-! ## Excursions -/

/-- What a path comes to, wherever it is followed from: so far back, and on through these names. -/
structure Excursion where
  back : Nat
  on : List (List Char)
deriving Repr, DecidableEq

namespace Excursion

def step (e : Excursion) (segment : List Char) : Excursion :=
  if segment = parent then
    if e.on = [] then ⟨e.back + 1, []⟩ else ⟨e.back, e.on.dropLast⟩
  else if isName segment then ⟨e.back, e.on ++ [segment]⟩
  else e

def ofPath (path : List Char) : Excursion := (segments path).foldl step ⟨0, []⟩

def endOf (e : Excursion) (place : List (List Char)) : List (List Char) :=
  place.take (place.length - e.back) ++ e.on

/-- It goes on through what it has gone back past, and further. -/
def Returns (e : Excursion) (place : List (List Char)) : Prop :=
  ∃ rest, rest ≠ [] ∧ e.on = place.drop (place.length - e.back) ++ rest

variable {place : List (List Char)}

theorem step_endOf (e : Excursion) (segment : List Char) :
    Layout.step (e.endOf place) segment = (e.step segment).endOf place := by
  unfold Layout.step Excursion.step
  by_cases back : segment = parent
  · simp only [back, if_true]
    by_cases gone : e.on = []
    · have shorter : (place.take (place.length - e.back)).dropLast =
          place.take (place.length - (e.back + 1)) := by
        rw [List.dropLast_eq_take, List.length_take, Nat.min_eq_left (Nat.sub_le _ _),
          List.take_take, Nat.min_eq_left (Nat.sub_le _ _), Nat.sub_sub]
      rw [if_pos gone, endOf, endOf, gone, List.append_nil, List.append_nil, shorter]
    · rw [if_neg gone, endOf, endOf, List.dropLast_append_of_ne_nil gone]
  · simp only [back, if_false]
    by_cases named : isName segment
    · simp [named, endOf]
    · simp [named]

theorem walk_eq (path : List Char) : walk place path = (ofPath path).endOf place := by
  have steps (e : Excursion) : (segments path).foldl Layout.step (e.endOf place) =
      ((segments path).foldl step e).endOf place := by
    induction segments path generalizing e with
    | nil => rfl
    | cons segment segments ih => rw [List.foldl_cons, step_endOf, ih, List.foldl_cons]
  have start : endOf ⟨0, []⟩ place = place := by simp [endOf]
  rw [ofPath, ← steps, start, walk]

theorem returns_iff (e : Excursion) :
    e.Returns place ↔ ∃ rest, rest ≠ [] ∧ e.endOf place = place ++ rest := by
  have same (rest : List (List Char)) : e.endOf place = place ++ rest ↔
      e.on = place.drop (place.length - e.back) ++ rest := by
    have whole : place ++ rest = place.take (place.length - e.back) ++
        (place.drop (place.length - e.back) ++ rest) := by
      rw [← List.append_assoc, List.take_append_drop]
    rw [endOf, whole, List.append_cancel_left_eq]
  simp only [Returns, same]

end Excursion

/-- Whether a path leads to something below where it starts is a matter of the path and of the
names on the way there. -/
theorem below_join_iff {directory file : String} :
    Below directory (directory ++ "/" ++ file) ↔
      (Excursion.ofPath file.toList).Returns (resolve directory) := by
  rw [Below, resolve_join, Excursion.walk_eq, Excursion.returns_iff]

theorem below_join_of_no_parent {directory file : String} (onward : parent ∉ segments file.toList) :
    Below directory (directory ++ "/" ++ file) ↔ ∃ name ∈ segments file.toList, isName name := by
  have kept : (segments file.toList).filter isName ≠ [] ↔
      ∃ name ∈ segments file.toList, isName name := by
    simp [List.filter_eq_nil_iff]
  rw [Below, resolve_join, walk_of_no_parent onward, ← kept]
  constructor
  · rintro ⟨rest, further, same⟩
    rw [List.append_cancel_left same]
    exact further
  · intro further
    exact ⟨_, further, rfl⟩

theorem below_join_of_named {directory file : String}
    (named : VolumeName.IsObjectName file.toList) : Below directory (directory ++ "/" ++ file) := by
  have single : segments file.toList = [file.toList] := segments_plain named.plain
  have onward : parent ∉ segments file.toList := by
    rw [single, List.mem_singleton]
    exact (isName_ne_parent named.isName).symm
  apply (below_join_of_no_parent onward).mpr
  rw [single]
  exact ⟨_, List.mem_singleton_self _, named.isName⟩

/-! ## The dumps -/

def dumpRoot : String := storePath ++ "/clusters"

theorem dumpDir_eq (cluster : String) : dumpDir cluster = dumpRoot ++ "/" ++ cluster := by
  have joined : ("/clusters/" : String) = "/clusters" ++ "/" := by decide
  rw [dumpDir, dumpRoot, joined]
  simp only [String.append_assoc]

end Layout

/-! ## Transfers -/

namespace ObjectStorage

open Layout (Within isName parent resolve segments storePath)

variable {s : ObjectStorage} {scope : Scope} {script : Script (Cloud Other)} {guards : List Guard}
  {w w' : World (Cloud Other)}

theorem onward_of_check (accepted : s.check = .ok ()) :
    parent ∉ segments s.subdirectory.toList := by
  intro member
  have named : namesParent s.subdirectory = true := by
    rw [namesParent, List.contains_iff_mem]
    exact member
  unfold check at accepted
  obtain ⟨-, -, accepted⟩ := bind_eq_ok_iff.mp accepted
  by_cases undirected : s.direction = .unspecified
  · rw [if_pos undirected] at accepted
    cases accepted
  · rw [if_neg undirected] at accepted
    dsimp only at accepted
    rw [if_pos named] at accepted
    cases accepted

/-- The check sees the directory as it is given and the path has it trimmed, which makes no
difference. -/
theorem resolve_localPath (onward : parent ∉ segments s.subdirectory.toList) :
    resolve s.localPath =
      resolve storePath ++ (segments s.subdirectory.toList).filter isName := by
  rw [← Layout.filter_isName_trim]
  unfold localPath
  dsimp only
  split
  · rename_i empty
    have trimmed : Text.trimBy Layout.isSlash s.subdirectory.toList = [] := by
      simpa [Layout.trimSlashes, String.isEmpty_iff] using empty
    rw [trimmed]
    rfl
  · have onward' : parent ∉ segments (Layout.trimSlashes s.subdirectory).toList := by
      rw [Layout.trimSlashes, String.toList_ofList]
      exact fun member => onward (Layout.parent_mem_of_trim member)
    rw [Layout.resolve_join, Layout.walk_of_no_parent onward', Layout.trimSlashes,
      String.toList_ofList]

/-- Whatever the directory looks like, a transfer that is accepted stays on the store, and leads
there through just the names that the directory gives. -/
theorem transfers_stay_on_store (accepted :
      (Action.validate s scope : Saga (Cloud Other) Unit).run script guards w =
        .done (.ok ()) w') :
    Action.Requests Other s (.syncObjectStorage s.request) ∧
      Within storePath s.request.localPath ∧
      resolve s.request.localPath =
        resolve storePath ++ (segments s.subdirectory.toList).filter isName := by
  have checked : s.check = .ok () := (Task.pure_done.mp accepted).1
  have leads := resolve_localPath (onward_of_check checked)
  rw [request_localPath, Within, leads]
  exact ⟨fun _ _ => rfl, List.prefix_append _ _, rfl⟩

/-- There are slashes around the directory and in it, a dot, a name that begins with dots, and
blanks. -/
def littered : ObjectStorage :=
  ⟨.download, "dr", "/eu//./..old/ ", "s3://backups/prod", "keys", none, none⟩

theorem transfers_stay_on_store_of_littered :
    (Action.validate littered .unbounded : Saga (Cloud .silent) Unit).run
        (Cloud.parting (.immediate (.ok ()))) [] .initial = .done (.ok ()) .initial ∧
      Within storePath littered.request.localPath ∧
      resolve littered.request.localPath =
        resolve storePath ++ (segments littered.subdirectory.toList).filter isName ∧
      (segments littered.subdirectory.toList).filter isName =
        ["eu".toList, "..old".toList, " ".toList] := by
  have checked : littered.check = .ok () := rfl
  have accepted : (Action.validate littered .unbounded : Saga (Cloud .silent) Unit).run
      (Cloud.parting (.immediate (.ok ()))) [] .initial = .done (.ok ()) .initial :=
    Task.pure_done.mpr ⟨checked, rfl⟩
  obtain ⟨-, within, leads⟩ := transfers_stay_on_store accepted
  exact ⟨accepted, within, leads, by decide⟩

end ObjectStorage

/-! ## Restores -/

namespace ClusterRestore

open Layout (Below Excursion dumpRoot isName parent resolve segments)

variable {r : ClusterRestore}

/-- Validation does not look at the source, so what the restore reads is below the dumps just if the
source, should there be one, leads back to where it starts from and further. That it does if it
names no parent and is more than slashes and dots. -/
theorem reads_dumps_iff (named : VolumeName.IsObjectName r.cluster.toList) (secret : String) :
    (∀ source scope, (Action.validate { r with source } scope : Saga (Cloud Other) Unit) =
      Action.validate r scope) ∧
    Action.Requests Other { r with certificate := some secret }
      (.restorePostgres (r.request secret)) ∧
    (Below dumpRoot (r.request secret).inputDir ↔
      ∀ source, r.source = some source →
        (Excursion.ofPath source.toList).Returns (resolve dumpRoot)) ∧
    ∀ source, r.source = some source → parent ∉ segments source.toList →
      (Below dumpRoot (r.request secret).inputDir ↔
        ∃ name ∈ segments source.toList, isName name) := by
  have input : (r.request secret).inputDir = dumpRoot ++ "/" ++ r.source.getD r.cluster :=
    Layout.dumpDir_eq _
  refine ⟨fun _ _ => rfl, fun _ _ => rfl, ?below, ?onward⟩
  case below =>
    rw [input]
    cases r.source with
    | none =>
      apply iff_of_true (Layout.below_join_of_named named)
      intro source given
      cases given
    | some source =>
      rw [Option.getD_some, Layout.below_join_iff]
      constructor
      · rintro returns _ ⟨⟩
        exact returns
      · intro returns
        exact returns source rfl
  case onward =>
    intro source given onward
    rw [input, given, Option.getD_some]
    exact Layout.below_join_of_no_parent onward

/-- The source leads out of the store. -/
def straying : ClusterRestore where
  ns := "prod"
  cluster := "main"
  source := some "../../tls"
  storeClaim := "dr"
  issuer := .issuer "ca"
  databases := []
  clean := false
  timeouts := .default
  certificate := none

theorem reads_dumps_iff_of_straying :
    VolumeName.IsObjectName straying.cluster.toList ∧
      Excursion.ofPath "../../tls".toList = ⟨2, ["tls".toList]⟩ ∧
      ¬Below dumpRoot (straying.request "client").inputDir := by
  have named : VolumeName.IsObjectName straying.cluster.toList := by decide
  obtain ⟨-, -, below, -⟩ := @reads_dumps_iff .silent straying named "client"
  refine ⟨named, by decide, fun within => ?_⟩
  obtain ⟨rest, -, same⟩ := below.mp within _ rfl
  have first : some "tls".toList = some "dr".toList := congrArg List.head? same
  exact absurd first (by decide)

/-- What the command line lets through as a source, and validation too, need not name a place below
the dumps. -/
theorem reads_beyond_dumps : ¬∀ (mapping : String) (m : ClusterMapping) (r : ClusterRestore)
    (script : Script (Cloud .silent)) (w w' : World (Cloud .silent)) (secret : String),
    ClusterMapping.read? mapping = some m → r.cluster = m.target → r.source = m.source →
      VolumeName.IsObjectName r.cluster.toList →
      (Action.validate r .unbounded : Saga (Cloud .silent) Unit).run script [] w =
        .done (.ok ()) w' →
      Below dumpRoot (r.request secret).inputDir := by
  intro reads
  have ends : ∃ w', (Action.validate straying .unbounded : Saga (Cloud .silent) Unit).run
      (Cloud.parting (.immediate (.ok ()))) [] .initial = .done (.ok ()) w' := ⟨_, rfl⟩
  obtain ⟨w', accepted⟩ := ends
  obtain ⟨rest, -, same⟩ := reads "main=../../tls" ⟨"main", some "../../tls"⟩ straying _ _ w'
    "client" (by decide) rfl rfl (by decide) accepted
  have first : some "tls".toList = some "dr".toList := congrArg List.head? same
  exact absurd first (by decide)

end ClusterRestore

end Recovery
