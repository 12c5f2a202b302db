import Mathlib.Data.List.Basic

/-! # The order of bytes

Texts are compared character by character, the bytes of their encoding byte by byte. Both ways give
one order (`le_iff_bytes_le`): of two different characters the greater one has the greater byte at
the first place where their encodings differ, and no encoding ends before that place.
-/

namespace SchemaGen.Text

set_option autoImplicit false

/-- The bytes of a text. -/
def bytes (text : String) : List UInt8 := text.toUTF8.data.toList

theorem bytes_eq (text : String) : bytes text = text.toList.flatMap String.utf8EncodeChar := by
  have h : text.toByteArray = text.toList.utf8Encode := by rw [String.utf8Encode_toList]
  rw [bytes, String.toUTF8_eq_toByteArray, h, List.utf8Encode]
  simp

/-- Numbers are compared digit by digit, from the top. -/
theorem digits_lt {v w : Nat} (h : v < w) :
    v / 64 / 64 / 64 < w / 64 / 64 / 64 ∨ v / 64 / 64 / 64 = w / 64 / 64 / 64 ∧
      (v / 64 / 64 % 64 < w / 64 / 64 % 64 ∨ v / 64 / 64 % 64 = w / 64 / 64 % 64 ∧
        (v / 64 % 64 < w / 64 % 64 ∨ v / 64 % 64 = w / 64 % 64 ∧ v % 64 < w % 64)) := by
  have hdigit : ∀ {v w : Nat}, v < w → v / 64 < w / 64 ∨ v / 64 = w / 64 ∧ v % 64 < w % 64 := by
    omega
  rcases hdigit h with hrest | hlast
  · rcases hdigit hrest with hrest | hlast
    · have htop := hdigit hrest
      omega
    · omega
  · omega

/-- The greater character is the greater one in bytes, whatever follows. -/
theorem encode_lt {c d : Char} (h : c < d) (x y : List UInt8) :
    String.utf8EncodeChar c ++ x < String.utf8EncodeChar d ++ y := by
  have hlt : c.val.toNat < d.val.toNat := h
  have hmax : d.val.toNat < 0x110000 := by
    have hvalid : d.val.toNat < 0xd800 ∨ 0xdfff < d.val.toNat ∧ d.val.toNat < 0x110000 := d.valid
    omega
  simp only [String.utf8EncodeChar]
  generalize c.val.toNat = v at hlt
  generalize d.val.toNat = w at hlt hmax
  have hdigits := digits_lt hlt
  simp only [Nat.div_div_eq_div_mul, Nat.reduceMul] at hdigits
  -- One case for each pair of lengths; the bytes are digits of the code points.
  repeat' split
  all_goals
    simp (disch := omega) only [List.cons_append, List.nil_append, List.cons_lt_cons_iff,
      UInt8.lt_iff_toNat_lt, ← UInt8.toNat_inj, UInt8.toNat_ofNat', Nat.mod_eq_of_lt]
    omega

theorem flatMap_encode_lt {a b : List Char} (h : a < b) :
    a.flatMap String.utf8EncodeChar < b.flatMap String.utf8EncodeChar := by
  induction a generalizing b with
  | nil =>
    cases b with
    | nil => exact absurd h (List.lt_irrefl [])
    | cons d b =>
      rw [List.flatMap_nil, List.flatMap_cons]
      cases he : String.utf8EncodeChar d with
      | nil => exact absurd he String.utf8EncodeChar_ne_nil
      | cons byte rest => exact List.nil_lt_cons byte _
  | cons c a ih =>
    cases b with
    | nil => exact absurd h (List.not_lt_nil _)
    | cons d b =>
      rw [List.flatMap_cons, List.flatMap_cons]
      rcases List.cons_lt_cons_iff.mp h with hcd | ⟨rfl, hab⟩
      · exact encode_lt hcd _ _
      · exact List.append_left_lt (ih hab)

theorem lt_iff_bytes_lt (a b : String) : a < b ↔ bytes a < bytes b := by
  have hmono : ∀ c d : String, c < d → bytes c < bytes d := by
    intro c d h
    rw [bytes_eq, bytes_eq]
    exact flatMap_encode_lt h
  constructor
  · exact hmono a b
  · intro h
    by_contra hnot
    by_cases heq : a = b
    · exact List.lt_irrefl _ (heq ▸ h)
    · have hba : b < a := by
        by_contra hge
        exact heq (String.le_antisymm (String.not_lt.mp hge) (String.not_lt.mp hnot))
      exact List.lt_asymm h (hmono b a hba)

/-- Texts are in the order of their bytes. -/
theorem le_iff_bytes_le (a b : String) : a ≤ b ↔ bytes a ≤ bytes b := by
  rw [← String.not_lt, ← List.not_lt, lt_iff_bytes_lt]

end SchemaGen.Text
