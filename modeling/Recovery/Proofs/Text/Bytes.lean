/-!
# Texts as bytes

The bytes of a text in UTF-8. ASCII texts are ordered as their bytes are.
-/
set_option autoImplicit false

namespace Recovery

namespace Text

/-- As names of snapshots and of objects are compared. -/
def bytes (s : String) : List UInt8 := s.toUTF8.data.toList

theorem bytes_append (s t : String) : bytes (s ++ t) = bytes s ++ bytes t := by
  simp [bytes, ByteArray.data_append]

theorem bytes_ofList (cs : List Char) :
    bytes (String.ofList cs) = cs.flatMap String.utf8EncodeChar := by
  simp [bytes, List.utf8Encode]

theorem length_le_flatMap (cs : List Char) :
    cs.length ≤ (cs.flatMap String.utf8EncodeChar).length := by
  induction cs with
  | nil => simp
  | cons c cs ih =>
    have some_byte := c.utf8Size_pos
    rw [List.flatMap_cons, List.length_append, List.length_cons, String.length_utf8EncodeChar]
    omega

/-- No text has more characters than bytes. -/
theorem length_toList_le (s : String) : s.toList.length ≤ s.utf8ByteSize := by
  have encoded := bytes_ofList s.toList
  rw [String.ofList_toList] at encoded
  have size : (bytes s).length = s.utf8ByteSize := by simp [bytes]
  rw [← size, encoded]
  exact length_le_flatMap s.toList

theorem utf8EncodeChar_of_ascii {c : Char} (ascii : c.toNat < 128) :
    String.utf8EncodeChar c = [UInt8.ofNat c.toNat] := by
  simp only [String.utf8EncodeChar, Char.toNat_val]
  exact if_pos (Nat.le_of_lt_succ ascii)

theorem flatMap_lt_of_ascii {xs ys : List Char} (ascii : ∀ c ∈ xs, c.toNat < 128)
    (ascii' : ∀ c ∈ ys, c.toNat < 128) (h : xs < ys) :
    xs.flatMap String.utf8EncodeChar < ys.flatMap String.utf8EncodeChar := by
  induction xs generalizing ys with
  | nil =>
    cases ys with
    | nil => exact absurd h (List.lt_irrefl _)
    | cons y ys =>
      rw [List.flatMap_cons, utf8EncodeChar_of_ascii (ascii' y List.mem_cons_self)]
      exact List.nil_lt_cons _ _
  | cons x xs ih =>
    cases ys with
    | nil => exact absurd h (List.not_lt_nil _)
    | cons y ys =>
      have x_lt := ascii x List.mem_cons_self
      have y_lt := ascii' y List.mem_cons_self
      rw [List.flatMap_cons, List.flatMap_cons, utf8EncodeChar_of_ascii x_lt,
        utf8EncodeChar_of_ascii y_lt, List.singleton_append, List.singleton_append,
        List.cons_lt_cons_iff]
      rw [List.cons_lt_cons_iff] at h
      rcases h with before | ⟨same, after⟩
      · left
        have before : x.toNat < y.toNat := before
        rw [UInt8.lt_iff_toNat_lt, UInt8.toNat_ofNat', UInt8.toNat_ofNat']
        omega
      · right
        have rest := fun c member => ascii c (List.mem_cons_of_mem x member)
        have rest' := fun c member => ascii' c (List.mem_cons_of_mem y member)
        exact ⟨by rw [same], ih rest rest' after⟩

end Text

end Recovery
