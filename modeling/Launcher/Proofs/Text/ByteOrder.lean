import Launcher.Index
/-!
Texts are compared by code points. That is the order of their UTF-8 bytes as well: the encoding of a
greater character is greater at a byte that both encodings have. -/
namespace Launcher.Text

/-- The bytes of a text in UTF-8. -/
def bytes (s : String) : List UInt8 := s.toUTF8.data.toList

theorem bytes_eq_flatMap (s : String) : bytes s = s.toList.flatMap String.utf8EncodeChar := by
  rw [bytes, String.toUTF8_eq_toByteArray, ← String.utf8Encode_toList, List.utf8Encode,
    List.toList_data_toByteArray]

theorem ofNat_cons_lt_cons {a b : Nat} {s t : List UInt8} (ha : a < 256) (hb : b < 256) :
    UInt8.ofNat a :: s < UInt8.ofNat b :: t ↔ a < b ∨ a = b ∧ s < t := by
  rw [List.cons_lt_cons_iff, UInt8.lt_iff_toNat_lt, ← UInt8.toNat_inj, UInt8.toNat_ofNat',
    UInt8.toNat_ofNat', Nat.mod_eq_of_lt ha, Nat.mod_eq_of_lt hb]

/-- Numbers are compared by their last six bits when the bits before those are the same. -/
theorem lt_iff_sixBits (v w : Nat) :
    v < w ↔ v / 64 < w / 64 ∨ v / 64 = w / 64 ∧ v % 64 < w % 64 := by
  omega

/-- What follows the encodings makes no difference. -/
theorem encode_append_lt {c d : Char} (h : c < d) (s t : List UInt8) :
    String.utf8EncodeChar c ++ s < String.utf8EncodeChar d ++ t := by
  have below : c.val.toNat < d.val.toNat := h
  have top : d.val.toNat < 0x110000 := by
    have valid := d.valid
    simp only [UInt32.isValidChar, Nat.isValidChar] at valid
    omega
  generalize hv : c.val.toNat = v at below
  generalize hw : d.val.toNat = w at below top
  -- The bytes after the first hold six bits each, so the comparison goes down in steps of six.
  have sextets := below
  rw [lt_iff_sixBits, lt_iff_sixBits (v / 64), lt_iff_sixBits (v / 64 / 64)] at sextets
  simp only [Nat.div_div_eq_div_mul, Nat.reduceMul] at sextets
  have plane : v / 262144 % 8 = v / 262144 := Nat.mod_eq_of_lt (by omega)
  have plane' : w / 262144 % 8 = w / 262144 := Nat.mod_eq_of_lt (by omega)
  -- Each encoding has one to four bytes; a longer one begins with a greater byte.
  simp only [String.utf8EncodeChar, hv, hw, plane, plane']
  repeat' split
  all_goals
    simp only [List.cons_append, List.nil_append]
    repeat rw [ofNat_cons_lt_cons (by omega) (by omega)]
    omega

theorem flatMap_encode_lt {s t : List Char} (h : s < t) :
    s.flatMap String.utf8EncodeChar < t.flatMap String.utf8EncodeChar := by
  induction s generalizing t with
  | nil =>
    cases t with
    | nil => exact absurd h (List.lt_irrefl [])
    | cons d t =>
      obtain ⟨b, rest, split⟩ := List.exists_cons_of_ne_nil (String.utf8EncodeChar_ne_nil (c := d))
      rw [List.flatMap_cons, split]
      exact List.nil_lt_cons b _
  | cons c s ih =>
    cases t with
    | nil => cases h
    | cons d t =>
      rw [List.flatMap_cons, List.flatMap_cons]
      rcases List.cons_lt_cons_iff.1 h with first | ⟨rfl, rest⟩
      · exact encode_append_lt first _ _
      · exact List.append_left_lt (ih rest)

theorem lt_iff_bytes_lt (s t : String) : s < t ↔ bytes s < bytes t := by
  rw [bytes_eq_flatMap, bytes_eq_flatMap]
  constructor
  · intro h
    exact flatMap_encode_lt h
  · intro h
    by_cases below : s < t
    · exact below
    · by_cases above : t < s
      · exact absurd (List.lt_trans h (flatMap_encode_lt above)) (List.lt_irrefl _)
      · obtain rfl := eq_of_not_lt below above
        exact absurd h (List.lt_irrefl _)

end Launcher.Text
