import Mathlib.Data.List.Perm.Basic
import Recovery.Proofs.Quantity.Format
import Recovery.Volume.Store
/-!
# The size of the store

A store is as large as it is asked to be, or twice as large as all the clusters together. In which
order these are listed makes no difference, and what cannot be calculated is invalid.
-/
set_option autoImplicit false

namespace Recovery

/-- What is asked for is invalid, whatever was done when that was found out. -/
inductive Fault.IsInvalid : Fault → Prop where
  | validation (resource message : String) : IsInvalid (.validation resource message)
  | context (doing : String) {fault : Fault} : IsInvalid fault → IsInvalid (.context doing fault)

theorem Quantity.isInvalid_of_parseBytes {quantity doing : String} {fault : Fault}
    (refused : Fault.during doing (parseBytes quantity) = .error fault) : fault.IsInvalid := by
  obtain ⟨cause, unread, rfl⟩ := mapError_eq_error_iff.mp refused
  obtain ⟨_, -, rfl⟩ := mapError_eq_error_iff.mp unread
  exact .context _ (.validation _ _)

namespace Store

variable {sizes other : List String} {explicit : Option String} {total bytes : Nat}

/-- The sizes can all be read and come to so many bytes together. -/
def AddUp (sizes : List String) (total : Nat) : Prop :=
  ∃ parsed, List.Forall₂ (fun size bytes => Quantity.parseBytes size = .ok bytes) sizes parsed ∧
    parsed.sum = total

theorem AddUp.perm (adds : AddUp sizes total) (order : sizes.Perm other) : AddUp other total := by
  obtain ⟨parsed, each, sum⟩ := adds
  obtain ⟨parsed', each', same⟩ := List.perm_comp_forall₂ order.symm each
  exact ⟨parsed', each', same.sum_nat.trans sum⟩

theorem totalSize_eq_ok_iff : totalSize sizes = .ok total ↔ AddUp sizes total := by
  induction sizes generalizing total with
  | nil =>
    constructor
    · rintro ⟨⟩
      exact ⟨[], .nil, rfl⟩
    · rintro ⟨_, ⟨⟩, rfl⟩
      rfl
  | cons size sizes ih =>
    simp only [totalSize, bind_eq_ok_iff]
    constructor
    · rintro ⟨bytes, read, others, rest, ⟨⟩⟩
      obtain ⟨parsed, each, sum⟩ := ih.mp rest
      exact ⟨bytes :: parsed, .cons (mapError_eq_ok_iff.mp read) each,
        by rw [List.sum_cons, sum]⟩
    · rintro ⟨_, _ | ⟨read, each⟩, rfl⟩
      exact ⟨_, mapError_eq_ok_iff.mpr read, _, ih.mpr ⟨_, each, rfl⟩, rfl⟩

theorem isInvalid_of_totalSize {fault : Fault} (refused : totalSize sizes = .error fault) :
    fault.IsInvalid := by
  induction sizes with
  | nil => cases refused
  | cons size sizes ih =>
    rw [totalSize, bind_eq_error_iff] at refused
    obtain unread | ⟨bytes, -, refused⟩ := refused
    · exact Quantity.isInvalid_of_parseBytes unread
    · obtain rest | ⟨others, -, ⟨⟩⟩ := bind_eq_error_iff.mp refused
      exact ih rest

/-- What a store is to have in bytes: as many as are asked for, or twice as many as the clusters
have together, if these are more than none. -/
inductive Calculates : Option String → List String → Nat → Prop where
  | given {text : String} {sizes : List String} {bytes : Nat} :
    Quantity.parseBytes text = .ok bytes → 0 < bytes → Calculates (some text) sizes bytes
  | derived {sizes : List String} {total : Nat} : AddUp sizes total → 0 < total →
    Calculates none sizes (2 * total)

theorem size_eq_ok_iff : size explicit sizes = .ok bytes ↔ Calculates explicit sizes bytes := by
  cases explicit with
  | some text =>
    simp only [size, bind_eq_ok_iff]
    constructor
    · rintro ⟨parsed, read, positive⟩
      split at positive
      · cases positive
      · next some_byte =>
        cases positive
        exact .given (mapError_eq_ok_iff.mp read) (Nat.pos_of_ne_zero some_byte)
    · rintro ⟨read, positive⟩
      exact ⟨bytes, mapError_eq_ok_iff.mpr read, if_neg positive.ne'⟩
  | none =>
    simp only [size, bind_eq_ok_iff, totalSize_eq_ok_iff]
    constructor
    · rintro ⟨total, adds, positive⟩
      split at positive
      · cases positive
      · next some_byte =>
        cases positive
        rw [Nat.mul_comm]
        exact .derived adds (Nat.pos_of_ne_zero some_byte)
    · rintro (_ | ⟨adds, positive⟩)
      exact ⟨_, adds, by rw [if_neg positive.ne', Nat.mul_comm]; rfl⟩

theorem isInvalid_of_size {fault : Fault} (refused : size explicit sizes = .error fault) :
    fault.IsInvalid := by
  cases explicit with
  | some text =>
    obtain unread | ⟨bytes, -, refused⟩ := bind_eq_error_iff.mp refused
    · exact Quantity.isInvalid_of_parseBytes unread
    · split at refused
      · cases refused
        exact .validation _ _
      · cases refused
  | none =>
    obtain unread | ⟨total, -, refused⟩ := bind_eq_error_iff.mp refused
    · exact isInvalid_of_totalSize unread
    · split at refused
      · cases refused
        exact .validation _ _
      · cases refused

theorem Calculates.perm (calculates : Calculates explicit sizes bytes)
    (order : sizes.Perm other) : Calculates explicit other bytes := by
  cases calculates with
  | given read positive => exact .given read positive
  | derived adds positive => exact .derived (adds.perm order) positive

theorem Calculates.lt_limit (calculates : Calculates explicit sizes bytes)
    (small : ∀ total, AddUp sizes total → total < 2 ^ 127) : bytes < Quantity.limit := by
  cases calculates with
  | given read _ => exact Quantity.lt_limit_of_parseBytes read
  | derived adds _ =>
    have limit_eq : Quantity.limit = 2 * 2 ^ 127 := rfl
    rw [limit_eq]
    exact Nat.mul_lt_mul_of_pos_left (small _ adds) Nat.two_pos

end Store

end Recovery
