/-
# The order of names by their bytes

Names are compared character by character. Where they are listed, the order is
that of their UTF-8 bytes. The two orders are the same: the code of a smaller
character is smaller already within the bytes that both codes have, so whatever
follows the two characters does not matter.
-/

import Mathlib.Tactic.SplitIfs

namespace BuildSettings.Text

/-- The UTF-8 bytes of a text. -/
def utf8 (s : String) : List UInt8 :=
  s.toUTF8.data.toList

theorem utf8_eq_flatMap (s : String) : utf8 s = s.toList.flatMap String.utf8EncodeChar := by
  rw [utf8, String.toUTF8_eq_toByteArray, ← String.utf8Encode_toList, List.utf8Encode,
    List.toList_data_toByteArray]

/-- The code of a smaller character is smaller, whatever follows the codes. -/
theorem utf8EncodeChar_append_lt {c d : Char} (hlt : c < d) (s t : List UInt8) :
    String.utf8EncodeChar c ++ s < String.utf8EncodeChar d ++ t := by
  have hv : c.val.toNat < d.val.toNat := hlt
  have hbound : d.val.toNat < 1114112 := by
    have hvalid := d.valid
    simp only [UInt32.isValidChar, Nat.isValidChar] at hvalid
    omega
  -- No byte of a code is cut off, and each holds six bits more than the one before it.
  have inner : ∀ n, (n % 64 + 128) % 256 = n % 64 + 128 := by omega
  have lead2 : ∀ n, (n % 32 + 192) % 256 = n % 32 + 192 := by omega
  have lead3 : ∀ n, (n % 16 + 224) % 256 = n % 16 + 224 := by omega
  have lead4 : ∀ n, (n % 8 + 240) % 256 = n % 8 + 240 := by omega
  have twelve : ∀ n, n / 4096 = n / 64 / 64 := fun n => (Nat.div_div_eq_div_mul n 64 64).symm
  have eighteen : ∀ n, n / 262144 = n / 64 / 64 / 64 := by
    intro n
    rw [Nat.div_div_eq_div_mul, Nat.div_div_eq_div_mul]
  unfold String.utf8EncodeChar
  generalize c.val.toNat = v at *
  generalize d.val.toNat = w at *
  dsimp only
  -- One case for each pair of code lengths; a code of more bytes has the larger first byte.
  by_cases hst : s < t <;> split_ifs <;>
    simp only [List.cons_append, List.nil_append, List.cons_lt_cons_iff,
      UInt8.lt_iff_toNat_lt, UInt8.toNat_ofNat', ← UInt8.toNat_inj, hst, and_true, and_false,
      or_false, inner, lead2, lead3, lead4, twelve, eighteen, Nat.reducePow] <;>
    omega

/-- Smaller character lists have smaller bytes. -/
theorem flatMap_utf8EncodeChar_lt {cs ds : List Char} (h : cs < ds) :
    cs.flatMap String.utf8EncodeChar < ds.flatMap String.utf8EncodeChar := by
  induction cs generalizing ds with
  | nil =>
      cases ds with
      | nil => cases h
      | cons d ds =>
          rw [List.flatMap_nil, List.flatMap_cons]
          cases hcode : String.utf8EncodeChar d with
          | nil => exact absurd hcode String.utf8EncodeChar_ne_nil
          | cons b rest => exact List.nil_lt_cons b _
  | cons c cs ih =>
      cases ds with
      | nil => cases h
      | cons d ds =>
          rw [List.flatMap_cons, List.flatMap_cons]
          rcases List.cons_lt_cons_iff.mp h with hlt | ⟨rfl, hrest⟩
          · exact utf8EncodeChar_append_lt hlt _ _
          · exact List.append_left_lt (ih hrest)

/-- The order of texts is the order of their UTF-8 bytes. -/
theorem lt_iff_utf8_lt {a b : String} : a < b ↔ utf8 a < utf8 b := by
  have forward : ∀ {a b : String}, a < b → utf8 a < utf8 b := by
    intro a b h
    rw [utf8_eq_flatMap, utf8_eq_flatMap]
    exact flatMap_utf8EncodeChar_lt h
  apply Iff.intro
  · exact forward
  · intro h
    by_cases hab : a < b
    · exact hab
    · by_cases hba : b < a
      · exact absurd h (List.lt_asymm (forward hba))
      · have heq := String.le_antisymm (String.not_lt.mp hba) (String.not_lt.mp hab)
        rw [heq] at h
        exact absurd h (List.lt_irrefl _)

end BuildSettings.Text
