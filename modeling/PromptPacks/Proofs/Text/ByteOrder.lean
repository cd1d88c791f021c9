import Mathlib.Data.String.Basic

namespace PromptPacks.Text

/-- The bytes that a text is stored as. -/
def bytes (t : String) : List UInt8 :=
  t.toUTF8.data.toList

/-- The bytes of a text are those of its characters, one after the other. -/
theorem bytes_eq_flatMap (t : String) : bytes t = t.toList.flatMap String.utf8EncodeChar := by
  rw [bytes, String.toUTF8_eq_toByteArray, ← String.utf8Encode_toList, List.utf8Encode,
    List.toList_data_toByteArray]

/-- A byte with `m` values for its payload has room for a marker, so that adding
    the marker never overflows. -/
theorem mod_add_mod_256 {m marker : Nat} (n : Nat) (hpos : 0 < m) (hle : m + marker ≤ 256) :
    (n % m + marker) % 256 = n % m + marker := by
  have hlt := Nat.mod_lt n hpos
  exact Nat.mod_eq_of_lt (by omega)

/-- The bytes of a smaller character are smaller, whatever stands behind them. A
    greater character has no fewer bytes, and the first one tells how many there
    are. With as many bytes, the first digit to the base 64 that differs
    decides. -/
theorem utf8EncodeChar_append_lt {c d : Char} (hlt : c < d) (s t : List UInt8) :
    String.utf8EncodeChar c ++ s < String.utf8EncodeChar d ++ t := by
  have hvalues : c.val.toNat < d.val.toNat := hlt
  have hvalid := d.valid
  simp only [UInt32.isValidChar, Nat.isValidChar] at hvalid
  have hthird (n : Nat) : n / 4096 = n / 64 / 64 := (Nat.div_div_eq_div_mul n 64 64).symm
  have hfourth (n : Nat) : n / 262144 = n / 64 / 64 / 64 := by
    rw [Nat.div_div_eq_div_mul, Nat.div_div_eq_div_mul]
  fun_cases String.utf8EncodeChar c <;> fun_cases String.utf8EncodeChar d <;>
    simp +zetaDelta (disch := decide) only [List.cons_append, List.nil_append,
      List.cons_lt_cons_iff, UInt8.lt_iff_toNat_lt, ← UInt8.toNat_inj, UInt8.toNat_ofNat',
      Nat.not_le, Nat.reducePow, mod_add_mod_256, hthird, hfourth] at * <;>
    omega

/-- Smaller texts have smaller bytes. The first character that differs decides,
    or else the shorter text ends first in both orders. -/
theorem flatMap_utf8EncodeChar_lt {s t : List Char} (hlt : s < t) :
    s.flatMap String.utf8EncodeChar < t.flatMap String.utf8EncodeChar := by
  induction hlt with
  | @nil d t =>
    obtain ⟨first, rest, heq⟩ :=
      List.exists_cons_of_ne_nil (String.utf8EncodeChar_ne_nil (c := d))
    rw [List.flatMap_cons, heq]
    exact List.nil_lt_cons _ _
  | rel hlt => exact utf8EncodeChar_append_lt hlt _ _
  | cons _ ih => exact List.append_left_lt ih

/-- The same for texts. The converse follows from it, as both orders are total. -/
theorem bytes_lt_bytes {s t : String} (hlt : s < t) : bytes s < bytes t := by
  rw [bytes_eq_flatMap, bytes_eq_flatMap]
  exact flatMap_utf8EncodeChar_lt (String.lt_iff.1 hlt)

/-- Texts stand in the order of their bytes. So sorting by characters, which is
    what is done here, is sorting by bytes. -/
theorem lt_iff_bytes_lt {s t : String} : s < t ↔ bytes s < bytes t := by
  refine ⟨bytes_lt_bytes, fun hlt => ?_⟩
  obtain hst | rfl | hts := lt_trichotomy s t
  · exact hst
  · exact absurd hlt (List.lt_irrefl _)
  · exact absurd hlt (List.lt_asymm (bytes_lt_bytes hts))

theorem le_iff_bytes_le {s t : String} : s ≤ t ↔ bytes s ≤ bytes t := by
  rw [← not_lt, lt_iff_bytes_lt, List.not_lt]

end PromptPacks.Text
