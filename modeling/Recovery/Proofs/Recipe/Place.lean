import Recovery.Proofs.Recipe.Path
import Recovery.Recipe.ObjectStorage
/-!
# The places of recipes

What recipes write is kept in directories of the store, and everything else that they need is
mounted outside of it. All these paths consist of names alone, so they can be compared name by name:
only the store has anything in it.
-/
set_option autoImplicit false

namespace Recovery

open VolumeName (IsObjectName)

namespace Layout

/-! ## Paths of names -/

/-- The path from the root through the names. -/
def rooted (names : List String) : String :=
  names.foldr (fun name path => "/" ++ name ++ path) ""

theorem segments_plain_append {name path : List Char} {rest : List (List Char)}
    (plain : '/' ∉ name) (after : segments path = [] :: rest) :
    segments (name ++ path) = name :: rest := by
  induction name with
  | nil => exact after
  | cons c name ih =>
    rw [List.mem_cons, not_or] at plain
    have other : isSlash c = false := beq_eq_false_iff_ne.mpr (Ne.symm plain.1)
    have within := ih plain.2
    rw [segments] at within ⊢
    rw [List.cons_append, Text.split, other, within]
    rfl

theorem segments_rooted {names : List String} (named : ∀ name ∈ names, IsObjectName name.toList) :
    segments (rooted names).toList = [] :: names.map String.toList := by
  induction names with
  | nil => rfl
  | cons name names ih =>
    obtain ⟨first, others⟩ := List.forall_mem_cons.mp named
    have spelled : (rooted (name :: names)).toList =
        [] ++ '/' :: (name.toList ++ (rooted names).toList) := by
      simp [rooted]
    rw [spelled, segments_slash, segments_plain_append first.plain (ih others)]
    rfl

theorem resolve_rooted {names : List String} (named : ∀ name ∈ names, IsObjectName name.toList) :
    resolve (rooted names) = names.map String.toList := by
  have kept : ∀ segment ∈ names.map String.toList, isName segment := by
    intro segment member
    obtain ⟨name, there, rfl⟩ := List.mem_map.mp member
    exact (named name there).isName
  have onward : parent ∉ [] :: names.map String.toList := by
    rw [List.mem_cons, not_or]
    exact ⟨by decide, fun member => isName_ne_parent (kept _ member) rfl⟩
  rw [resolve, walk, segments_rooted named, foldl_step_of_no_parent onward,
    List.filter_cons_of_neg (by decide), List.filter_eq_self.mpr kept, List.nil_append]

/-! ## Places -/

/-- A place on a worker. -/
inductive Place where
  /-- The store, which every recipe mounts. -/
  | store
  /-- Where the backup of a cluster writes. -/
  | dumps (cluster : String)
  /-- Where the backup of a claim writes, and deletes what is not in the claim. -/
  | copies (claim : String)
  /-- Where the backup of a claim mounts the clone that it reads. -/
  | source (claim : String)
  /-- Where the secret of a certificate is mounted. -/
  | keys (secret : String)
  /-- Where the secret for object storage is mounted. -/
  | credentials
deriving Repr, DecidableEq

namespace Place

def path : Place → String
  | store => storePath
  | dumps cluster => dumpDir cluster
  | copies claim => copyDir claim
  | source claim => "/src/" ++ claim
  | keys secret => tlsPath secret
  | credentials => ObjectStorage.credentialsPath

def names : Place → List String
  | store => ["dr"]
  | dumps cluster => ["dr", "clusters", cluster]
  | copies claim => ["dr", "volumes", claim]
  | source claim => ["src", claim]
  | keys secret => ["tls", secret]
  | credentials => ["credentials", "object-storage"]

/-- What the place is called after has the name of an object. -/
def Named : Place → Prop
  | store | credentials => True
  | dumps name | copies name | source name | keys name => IsObjectName name.toList

/-- A directory of the store, which one backup writes. -/
def Kept : Place → Prop
  | dumps _ | copies _ => True
  | store | source _ | keys _ | credentials => False

/-- The place is where a volume is mounted. -/
def Mounted (p : Place) : Prop := ¬p.Kept

variable {p p' : Place} {path : String}

theorem path_eq (p : Place) : p.path = rooted p.names := by
  apply String.toList_inj.mp
  cases p <;> simp [Place.path, names, rooted, storePath, dumpDir, copyDir, tlsPath,
    ObjectStorage.credentialsPath]

theorem Named.names (named : p.Named) : ∀ name ∈ p.names, IsObjectName name.toList := by
  have dr : IsObjectName "dr".toList := by decide
  cases p with
  | store => simpa [Place.names] using dr
  | dumps => simpa [Place.names] using ⟨dr, by decide, named⟩
  | copies => simpa [Place.names] using ⟨dr, by decide, named⟩
  | source => simpa [Place.names] using ⟨by decide, named⟩
  | keys => simpa [Place.names] using ⟨by decide, named⟩
  | credentials => decide

theorem segments_path (named : p.Named) :
    segments p.path.toList = [] :: p.names.map String.toList := by
  rw [path_eq, segments_rooted named.names]

theorem resolve_path (named : p.Named) : resolve p.path = p.names.map String.toList := by
  rw [path_eq, resolve_rooted named.names]

theorem map_toList_prefix_iff {names names' : List String} :
    names.map String.toList <+: names'.map String.toList ↔ names <+: names' := by
  constructor
  · intro begins
    obtain ⟨front, begins, same⟩ := List.prefix_map_iff.mp begins
    have injective : Function.Injective String.toList := fun _ _ => String.toList_inj.mp
    rwa [injective.list_map same]
  · intro begins
    exact begins.map String.toList

theorem names_prefix_iff : p.names <+: p'.names ↔ p = p' ∨ p = .store ∧ p'.Kept := by
  cases p <;> cases p' <;> simp [names, Kept]

/-- No place is above another, except that the store has in it what is kept. -/
theorem covers_iff (named : p.Named) (named' : p'.Named) :
    Covers p.path p'.path ↔ p = p' ∨ p = .store ∧ p'.Kept := by
  rw [Covers, segments_path named, segments_path named', List.cons_prefix_cons,
    map_toList_prefix_iff, names_prefix_iff]
  exact and_iff_right rfl

/-- A path leads into two places only if one of them is the store and the other is kept there. -/
theorem eq_of_within (named : p.Named) (named' : p'.Named) (within : Within p.path path)
    (within' : Within p'.path path) : p = p' ∨ p = .store ∧ p'.Kept ∨ p' = .store ∧ p.Kept := by
  rw [Within, resolve_path named] at within
  rw [Within, resolve_path named'] at within'
  rcases List.prefix_or_prefix_of_prefix within within' with begins | begins
  · rcases names_prefix_iff.mp (map_toList_prefix_iff.mp begins) with same | inside
    · exact .inl same
    · exact .inr (.inl inside)
  · rcases names_prefix_iff.mp (map_toList_prefix_iff.mp begins) with same | inside
    · exact .inl same.symm
    · exact .inr (.inr inside)

theorem Kept.below_store (kept : p.Kept) (named : p.Named) : Below storePath p.path := by
  have store : resolve storePath = ["dr".toList] := by decide
  rw [Below, resolve_path named, store]
  cases p with
  | store | source | keys | credentials => cases kept
  | dumps cluster => exact ⟨["clusters".toList, cluster.toList], by simp, rfl⟩
  | copies claim => exact ⟨["volumes".toList, claim.toList], by simp, rfl⟩

end Place

end Layout

end Recovery
