import PromptPacks.Digest.Content

namespace PromptPacks.Digest

/-- Different values below sixteen have different digits. -/
theorem digitChar_inj {m n : Nat} (hm : m < 16) (hn : n < 16)
    (hdigits : m.digitChar = n.digitChar) : m = n := by
  have hall : ∀ m < 16, ∀ n < 16, m.digitChar = n.digitChar → m = n := by decide
  exact hall m hm n hn hdigits

/-- Two digits are written for each byte, so that different bytes never lead to
    the same text. -/
theorem hexText_inj {a b : List UInt8} (htext : hexText a = hexText b) : a = b := by
  induction a generalizing b with
  | nil =>
    cases b with
    | nil => rfl
    | cons y b => simp [hexText] at htext
  | cons x a ih =>
    cases b with
    | nil => simp [hexText] at htext
    | cons y b =>
      simp only [hexText, List.flatMap_cons, List.cons_append, List.nil_append,
        List.cons.injEq] at htext
      obtain ⟨hhigh, hlow, hrest⟩ := htext
      have hx := x.toNat_lt
      have hy := y.toNat_lt
      have hhigh := digitChar_inj (by omega) (by omega) hhigh
      have hlow := digitChar_inj (by omega) (by omega) hlow
      have hbyte : x.toNat = y.toNat := by omega
      rw [UInt8.toNat_inj.1 hbyte, ih hrest]

/-- A text in base sixteen has two digits for each byte, leading zeros
    included. -/
theorem length_hexText (bytes : List UInt8) : (hexText bytes).length = 2 * bytes.length := by
  rw [hexText, List.length_flatMap]
  induction bytes with
  | nil => rfl
  | cons byte bytes ih =>
    rw [List.map_cons, List.sum_cons, ih, List.length_cons, List.length_cons, List.length_cons,
      List.length_nil]
    omega

/-- Each byte of a digest takes two digits, so no text of odd length is a hash. -/
theorem contentHash_ne_of_odd (content : String) {text : String} (hodd : text.length % 2 = 1) :
    contentHash content ≠ text := by
  rintro rfl
  rw [contentHash, String.length_ofList, length_hexText] at hodd
  omega

/-- Hashes are equal if the digests of the normal forms are. The text form of a
    digest adds no collision of its own, so all that can go wrong is in the
    digest. -/
theorem contentHash_eq_iff {a b : String} :
    contentHash a = contentHash b ↔
      sha256 (normalize a).toUTF8.toList = sha256 (normalize b).toUTF8.toList := by
  constructor
  · intro hhash
    exact hexText_inj (String.ofList_injective hhash)
  · intro hdigest
    rw [contentHash, hdigest, contentHash]

/-- Contents with the same normal form have the same hash. Nothing is assumed of
    the digest for this. -/
theorem contentHash_congr {a b : String} (hnormal : normalize a = normalize b) :
    contentHash a = contentHash b := by
  rw [contentHash, hnormal, contentHash]

end PromptPacks.Digest
