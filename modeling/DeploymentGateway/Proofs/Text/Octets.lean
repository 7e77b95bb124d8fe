import DeploymentGateway.Text.Percent
/-!
The octets of a text. They are those of its characters one after the other, they tell texts apart, and a
zero among them is a NUL of the text.
-/

set_option autoImplicit false

namespace DeploymentGateway.Text.Percent

/-- What is read from a position on goes behind what was read before, which is kept in reversed order. -/
private theorem loop_eq (bytes : ByteArray) (left start : Nat) (read : List UInt8)
    (rest : start + left = bytes.size) :
    ByteArray.toList.loop bytes start read = read.reverse ++ bytes.data.toList.drop start := by
  induction left generalizing start read with
  | zero =>
    rw [ByteArray.toList.loop, if_neg (by omega), List.drop_of_length_le (by simp; omega),
      List.append_nil]
  | succ left ih =>
    have inside : start < bytes.size := by omega
    have next : bytes.data.toList.drop start = bytes.get! start :: bytes.data.toList.drop (start + 1) := by
      rw [List.drop_eq_getElem_cons (by simpa using inside)]
      simp [ByteArray.get!, inside]
    rw [ByteArray.toList.loop, if_pos inside, ih (start + 1) _ (by omega), next, List.reverse_cons,
      List.append_assoc, List.singleton_append]

theorem octets_eq_flatMap (s : String) : octets s = s.toList.flatMap String.utf8EncodeChar := by
  rw [octets, String.toUTF8_eq_toByteArray, ← String.utf8Encode_toList, List.utf8Encode,
    ByteArray.toList, loop_eq _ _ 0 [] (Nat.zero_add _)]
  simp

theorem octets_injective {s t : String} (same : octets s = octets t) : s = t := by
  rw [octets_eq_flatMap, octets_eq_flatMap] at same
  rw [← String.toByteArray_inj, ← String.utf8Encode_toList, ← String.utf8Encode_toList,
    List.utf8Encode, List.utf8Encode, same]

private theorem zero_eq_ofNat_iff {n : Nat} (small : n < 256) : 0 = UInt8.ofNat n ↔ n = 0 := by
  rw [← UInt8.toNat_inj]
  simp
  omega

/-- Of all characters only NUL has a zero among its octets. -/
theorem zero_mem_utf8EncodeChar_iff {c : Char} : 0 ∈ String.utf8EncodeChar c ↔ c = '\x00' := by
  have code : c = '\x00' ↔ c.val.toNat = 0 := by
    rw [← Char.toNat_inj]
    rfl
  rw [code]
  simp only [String.utf8EncodeChar]
  split
  · rw [List.mem_singleton, zero_eq_ofNat_iff (by omega)]
  -- In a longer sequence each octet has its highest bit set.
  · have longer : c.val.toNat ≠ 0 := by omega
    refine iff_of_false ?_ longer
    split
    · simp (disch := omega) only [List.mem_cons, List.not_mem_nil, or_false, zero_eq_ofNat_iff]
      omega
    · split <;>
      · simp (disch := omega) only [List.mem_cons, List.not_mem_nil, or_false, zero_eq_ofNat_iff]
        omega

theorem zero_mem_octets_iff {s : String} : 0 ∈ octets s ↔ '\x00' ∈ s.toList := by
  simp [octets_eq_flatMap, List.mem_flatMap, zero_mem_utf8EncodeChar_iff]

end DeploymentGateway.Text.Percent
