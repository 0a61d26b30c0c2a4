import ConditionalGateway.Text.Utf8
import Mathlib

/-!
# Texts by their bytes

The first bytes of a text can be those of another text only if its first
characters are: `encode_prefix_iff`. So where the bytes of one text end in
another, a character ends too, and what is left is a text again.
-/

namespace ConditionalGateway.Text

theorem toNat_lt (c : Char) : c.toNat < 0x110000 := by
  obtain h | ⟨-, h⟩ := c.valid
  · exact h.trans (by decide)
  · exact h

theorem encodeChar_eq (c : Char) : encodeChar c = String.utf8EncodeChar c := by
  have hmax : c.val.toNat < 0x110000 := toNat_lt c
  unfold encodeChar String.utf8EncodeChar
  simp only [Char.toNat, Nat.toUInt8]
  generalize c.val.toNat = n at hmax
  by_cases h1 : n < 0x80
  · rw [if_pos h1, if_pos (show n ≤ 0x7f by omega)]
  rw [if_neg h1, if_neg (show ¬ n ≤ 0x7f by omega)]
  by_cases h2 : n < 0x800
  · rw [if_pos h2, if_pos (show n ≤ 0x7ff by omega), show n / 64 % 0x20 = n / 64 by omega,
      Nat.add_comm 0xC0, Nat.add_comm 0x80]
  rw [if_neg h2, if_neg (show ¬ n ≤ 0x7ff by omega)]
  by_cases h3 : n < 0x10000
  · rw [if_pos h3, if_pos (show n ≤ 0xffff by omega), show n / 4096 % 0x10 = n / 4096 by omega,
      Nat.add_comm 0xE0, Nat.add_comm 0x80, Nat.add_comm 0x80]
  · rw [if_neg h3, if_neg (show ¬ n ≤ 0xffff by omega),
      show n / 262144 % 0x08 = n / 262144 by omega, Nat.add_comm 0xF0, Nat.add_comm 0x80,
      Nat.add_comm 0x80, Nat.add_comm 0x80]

theorem encode_toByteArray (s : String) : (encode s).toByteArray = s.toList.utf8Encode := by
  rw [encode, List.utf8Encode, funext encodeChar_eq]

@[simp] theorem encode_append (s t : String) : encode (s ++ t) = encode s ++ encode t := by
  simp [encode]

theorem encode_prefix_iff : encode pre <+: encode s ↔ ∃ rest, s = pre ++ rest := by
  constructor
  · rintro ⟨bytes, h⟩
    have harr := congrArg List.toByteArray h
    rw [List.toByteArray_append, encode_toByteArray, encode_toByteArray] at harr
    obtain ⟨rest, hrest⟩ := List.isPrefix_of_utf8Encode_append_eq_utf8Encode _ harr
    refine ⟨.ofList rest, ?_⟩
    rw [← String.toList_inj, String.toList_append, String.toList_ofList, hrest]
  · rintro ⟨rest, rfl⟩
    rw [encode_append]
    exact List.prefix_append _ _

/-- A byte of a character is the whole character, or lies beyond ASCII. -/
theorem toNat_mem_encodeChar (h : b ∈ encodeChar c) : b.toNat = c.toNat ∨ 128 ≤ b.toNat := by
  have hmax : c.toNat < 0x110000 := toNat_lt c
  unfold encodeChar at h
  simp only at h
  split at h
  · obtain rfl := List.mem_singleton.mp h
    exact .inl (by simp only [Nat.toUInt8, UInt8.toNat_ofNat']; omega)
  · refine .inr ?_
    split at h
    · simp only [List.mem_cons, List.not_mem_nil, or_false] at h
      obtain rfl | rfl := h <;> simp only [Nat.toUInt8, UInt8.toNat_ofNat'] <;> omega
    split at h
    · simp only [List.mem_cons, List.not_mem_nil, or_false] at h
      obtain rfl | rfl | rfl := h <;> simp only [Nat.toUInt8, UInt8.toNat_ofNat'] <;> omega
    · simp only [List.mem_cons, List.not_mem_nil, or_false] at h
      obtain rfl | rfl | rfl | rfl := h <;> simp only [Nat.toUInt8, UInt8.toNat_ofNat'] <;> omega

end ConditionalGateway.Text
