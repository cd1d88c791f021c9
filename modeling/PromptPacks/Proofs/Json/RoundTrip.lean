import PromptPacks.Proofs.Json.Strings
import PromptPacks.Proofs.Number.FloatReading

namespace PromptPacks.Json

open PromptPacks.Number

mutual

/-- A document can be read back as it is: its whole numbers fit into 64 bits,
    with or without a sign bit, and its floating-point numbers are finite. -/
def IsExact : Json → Prop
  | .float x => isFinite x = true
  | .integer n => minInt64 ≤ n ∧ n ≤ maxUnsigned64
  | .array items => AreExact items
  | .object fields => HaveExact fields
  | _ => True

/-- All items of an array can be read back. -/
def AreExact : List Json → Prop
  | [] => True
  | item :: rest => item.IsExact ∧ AreExact rest

/-- The values of all fields of an object can be read back. -/
def HaveExact : List (String × Json) → Prop
  | [] => True
  | (_, value) :: rest => value.IsExact ∧ HaveExact rest

end

/-- What may follow a number: nothing, or a character that is no part of one. -/
def EndsNumeral (rest : List Char) : Prop :=
  ∀ c tail, rest = c :: tail → isNumeralChar c = false

theorem endsNumeral_nil : EndsNumeral [] := by
  rintro c tail ⟨⟩

/-- A number ends before a character that no number contains. What follows this
    character does not matter. -/
theorem endsNumeral_cons {c : Char} {rest : List Char} (hother : isNumeralChar c = false) :
    EndsNumeral (c :: rest) := by
  rintro first tail ⟨⟩
  exact hother

/-- The characters of written doubles all belong to numbers. -/
theorem isNumeralChar_of_isDecimalChar {c : Char} (hchar : IsDecimalChar c) :
    isNumeralChar c = true := by
  obtain hdigit | rfl | rfl | rfl := hchar
  · simp [isNumeralChar, hdigit]
  all_goals rfl

/-- The characters of a whole number all belong to numbers: its digits and the
    sign. -/
theorem isNumeralChar_of_mem_toString {n : Int} {c : Char} (hmem : c ∈ (toString n).toList) :
    isNumeralChar c = true := by
  have hdigit : ∀ {m : Nat}, c ∈ Nat.toDigits 10 m → isNumeralChar c = true := by
    intro m hdigits
    simp [isNumeralChar, isDigit_of_mem_toDigits hdigits]
  obtain ⟨m, -, htext⟩ | ⟨m, -, -, htext⟩ := toList_toString n
  · exact hdigit (htext ▸ hmem)
  · rw [htext] at hmem
    obtain rfl | hmem := List.mem_cons.1 hmem
    · rfl
    · exact hdigit hmem

/-- A number is cut off from what follows it exactly at its end, if it does not
    run into it. -/
theorem span_isNumeralChar {numeral rest : List Char}
    (hall : ∀ c ∈ numeral, isNumeralChar c = true) (hrest : EndsNumeral rest) :
    (numeral ++ rest).takeWhile isNumeralChar = numeral ∧
      (numeral ++ rest).dropWhile isNumeralChar = rest := by
  rw [List.takeWhile_append_of_pos hall, List.dropWhile_append_of_pos hall]
  cases rest with
  | nil => simp
  | cons c tail => simp [hrest c tail rfl]

/-- Written digits are all digits, so that the form of a number sees nothing
    behind them. -/
theorem span_isDigit (m : Nat) :
    (Nat.toDigits 10 m).takeWhile Char.isDigit = Nat.toDigits 10 m ∧
      (Nat.toDigits 10 m).dropWhile Char.isDigit = [] := by
  have hall : ∀ c ∈ Nat.toDigits 10 m, c.isDigit = true := fun c => isDigit_of_mem_toDigits
  constructor
  · rw [← List.append_nil (Nat.toDigits 10 m), List.takeWhile_append_of_pos hall]
    rfl
  · rw [← List.append_nil (Nat.toDigits 10 m), List.dropWhile_append_of_pos hall]
    rfl

/-- The digits of a number behind a minus sign have the form of a number. They
    have no leading zero unless they are a single one. -/
theorem isNumeral_minus_toDigits (m : Nat) : isNumeral ('-' :: Nat.toDigits 10 m) = true := by
  obtain ⟨htake, hdrop⟩ := span_isDigit m
  have hsome : (Nat.toDigits 10 m).isEmpty = false := by
    simp [Nat.toDigits_ne_nil]
  have hzero :
      ((Nat.toDigits 10 m).length == 1 || (Nat.toDigits 10 m).head? != some '0') = true := by
    obtain rfl | hpos := Nat.eq_zero_or_pos m
    · rfl
    · simp [head?_toDigits_ne_zero hpos]
  simp only [isNumeral, htake, hdrop, hsome, hzero]
  rfl

/-- A sign before a number does not matter for its form, so one case of the sign
    stands for both. -/
theorem isNumeral_minus {c : Char} {rest : List Char} (hminus : c ≠ '-') :
    isNumeral ('-' :: c :: rest) = isNumeral (c :: rest) := by
  unfold isNumeral
  split
  next heq =>
    obtain rfl : c :: rest = _ := (List.cons.inj heq).2
    split
    next heq => exact absurd (List.cons.inj heq).1 hminus
    next => rfl
  next hother => exact absurd rfl (hother (c :: rest))

/-- A whole number is written in the form of a number. -/
theorem isNumeral_toString (n : Int) : isNumeral (toString n).toList = true := by
  obtain ⟨m, -, htext⟩ | ⟨m, -, -, htext⟩ := toList_toString n
  · obtain ⟨c, rest, heq, hdigit⟩ := exists_toDigits_eq_cons m
    rw [htext, heq, ← isNumeral_minus (ne_minus_of_isDigit hdigit), ← heq]
    exact isNumeral_minus_toDigits m
  · rw [htext]
    exact isNumeral_minus_toDigits m

/-- A whole number within the bounds of sixty-four bits, signed or not, is read
    back from its text as an integer and not as a double. -/
theorem numberOf?_toString {n : Int} (hlow : minInt64 ≤ n) (hhigh : n ≤ maxUnsigned64) :
    numberOf? (toString n).toList = some (.integer n) := by
  have hzero : (n == 0 && (toString n).toList.head? == some '-') = false := by
    obtain ⟨m, -, htext⟩ | ⟨m, hpos, rfl, -⟩ := toList_toString n
    · obtain ⟨c, rest, heq, hdigit⟩ := exists_toDigits_eq_cons m
      rw [htext, heq]
      simp [ne_minus_of_isDigit hdigit]
    · have hne : -(m : Int) ≠ 0 := by omega
      simp [hne]
  have hfits : (decide (minInt64 ≤ n) && decide (n ≤ maxUnsigned64)) = true := by
    rw [decide_eq_true hlow, decide_eq_true hhigh]
    rfl
  rw [numberOf?, isNumeral_toString, readInt?_toString]
  simp only [hfits, hzero]
  rfl

/-- What a value may begin with: no white space, and nothing that closes an
    array or an object. -/
def OpensValue (c : Char) : Prop :=
  c ∉ [' ', '\t', '\n', '\r', ']', '\x7d']

instance (c : Char) : Decidable (OpensValue c) :=
  inferInstanceAs (Decidable (_ ∉ _))

/-- White space is skipped up to the first other character. -/
theorem skipSpace_cons {c : Char} (hblank : c ∉ [' ', '\t', '\n', '\r']) (rest : List Char) :
    skipSpace (c :: rest) = c :: rest := by
  simp only [List.mem_cons, List.not_mem_nil, or_false, not_or] at hblank
  obtain ⟨hspace, htab, hline, hreturn⟩ := hblank
  simp [skipSpace, hspace, htab, hline, hreturn]

/-- No document begins with white space, so nothing is skipped in front of one. -/
theorem OpensValue.skipSpace_cons {c : Char} (hopens : OpensValue c) (rest : List Char) :
    skipSpace (c :: rest) = c :: rest := by
  refine Json.skipSpace_cons (fun hmem => hopens ?_) rest
  exact List.mem_append_left [']', '\x7d'] hmem

/-- A digit can be the first character of a document. -/
theorem opensValue_of_isDigit {c : Char} (hdigit : c.isDigit = true) : OpensValue c := by
  intro hmem
  simp only [List.mem_cons, List.not_mem_nil, or_false] at hmem
  obtain rfl | rfl | rfl | rfl | rfl | rfl := hmem
  all_goals exact absurd hdigit (by decide)

/-- A number begins with a sign or a digit. Which it is, the reader finds out by
    itself. -/
theorem exists_toString_eq_cons (n : Int) :
    ∃ c rest, (toString n).toList = c :: rest ∧ (c = '-' ∨ c.isDigit = true) := by
  obtain ⟨m, -, htext⟩ | ⟨m, -, -, htext⟩ := toList_toString n
  · obtain ⟨c, rest, heq, hdigit⟩ := exists_toDigits_eq_cons m
    exact ⟨c, rest, htext.trans heq, .inr hdigit⟩
  · exact ⟨'-', _, htext, .inl rfl⟩

/-- A finite double is written in the layout for documents. The others have no
    numeral and are written as `null`. -/
theorem write_float {x : Float} (hfinite : isFinite x = true) :
    write (.float x) = floatText .interchange x := by
  rw [write, if_pos hfinite]

/-- The text of a finite double has the form of a number: a digit leads it,
    behind a sign or not, and the sign makes no difference to the form. -/
theorem isNumeral_floatText {x : Float} (hfinite : isFinite x = true) :
    isNumeral (floatText .interchange x) = true := by
  obtain ⟨text, _, _, htext, -, hdenotes, -⟩ := exists_text_of_isFinite .interchange hfinite
  obtain ⟨c, rest, rfl, hdigit⟩ := hdenotes.starts
  rw [htext]
  cases signBit x with
  | true => exact hdenotes.numeral
  | false => exact (isNumeral_minus (ne_minus_of_isDigit hdigit)).symm.trans hdenotes.numeral

/-- A finite double is read back from its text: the point or the power of ten in
    the text keeps it apart from the whole numbers. -/
theorem numberOf?_floatText {x : Float} (hfinite : isFinite x = true) :
    numberOf? (floatText .interchange x) = some (.float x) := by
  rw [numberOf?, isNumeral_floatText hfinite, readInt?_floatText, finiteNumber?,
    readFloat?_floatText, Option.filter_some, hfinite]
  rfl

/-- All characters of a written double belong to numbers, the sign, the point
    and the exponent included. -/
theorem isNumeralChar_of_mem_floatText {x : Float} (hfinite : isFinite x = true) :
    ∀ c ∈ floatText .interchange x, isNumeralChar c = true := by
  obtain ⟨text, _, _, htext, -, hdenotes, -⟩ := exists_text_of_isFinite .interchange hfinite
  rw [htext, List.forall_mem_append]
  refine ⟨?_, fun c hmem => isNumeralChar_of_isDecimalChar (hdenotes.chars c hmem)⟩
  cases signBit x <;> simp [isNumeralChar]

/-- A written double begins with a sign or a digit, as a whole number does. -/
theorem exists_floatText_eq_cons {x : Float} (hfinite : isFinite x = true) :
    ∃ c rest, floatText .interchange x = c :: rest ∧ (c = '-' ∨ c.isDigit = true) := by
  obtain ⟨text, _, _, htext, -, hdenotes, -⟩ := exists_text_of_isFinite .interchange hfinite
  obtain ⟨c, rest, rfl, hdigit⟩ := hdenotes.starts
  rw [htext]
  cases signBit x with
  | true => exact ⟨'-', _, rfl, .inl rfl⟩
  | false => exact ⟨c, rest, rfl, .inr hdigit⟩

/-- A sign or a digit can be the first character of a document. -/
theorem opensValue_of_sign_or_digit {c : Char} (hfirst : c = '-' ∨ c.isDigit = true) :
    OpensValue c := by
  obtain rfl | hdigit := hfirst
  · decide
  · exact opensValue_of_isDigit hdigit

/-- A written document is never empty, and its first character shows that a
    document begins. So the reader does not take it for the end of a list. -/
theorem exists_write_eq_cons {document : Json} (hexact : document.IsExact) :
    ∃ c rest, write document = c :: rest ∧ OpensValue c := by
  cases document with
  | null => exact ⟨'n', _, rfl, by decide⟩
  | bool b =>
    cases b with
    | true => exact ⟨'t', _, rfl, by decide⟩
    | false => exact ⟨'f', _, rfl, by decide⟩
  | integer n =>
    obtain ⟨c, rest, htext, hfirst⟩ := exists_toString_eq_cons n
    exact ⟨c, rest, htext, opensValue_of_sign_or_digit hfirst⟩
  | float x =>
    obtain ⟨c, rest, htext, hfirst⟩ := exists_floatText_eq_cons hexact
    exact ⟨c, rest, by rw [write_float hexact, htext], opensValue_of_sign_or_digit hfirst⟩
  | string s => exact ⟨'"', _, rfl, by decide⟩
  | array items => exact ⟨'[', writeItems items ++ [']'], by rw [write]; rfl, by decide⟩
  | object fields => exact ⟨'\x7b', writeFields fields ++ ['\x7d'], by rw [write]; rfl, by decide⟩

/-- A number is read up to where its text ends: a sign or a digit opens none of
    the values that are told by their first character. -/
theorem readValue_numeral {numeral rest : List Char} {number : Json}
    (hstarts : ∃ c tail, numeral = c :: tail ∧ (c = '-' ∨ c.isDigit = true))
    (hall : ∀ c ∈ numeral, isNumeralChar c = true) (hnumber : numberOf? numeral = some number)
    (fuel : Nat) (hrest : EndsNumeral rest) :
    readValue (fuel + 1) (numeral ++ rest) = some (number, rest) := by
  obtain ⟨c, tail, rfl, hfirst⟩ := hstarts
  obtain ⟨htake, hdrop⟩ := span_isNumeralChar hall hrest
  rw [List.cons_append] at htake hdrop ⊢
  rw [readValue, (opensValue_of_sign_or_digit hfirst).skipSpace_cons]
  split
  case h_7 => simp only [htake, hdrop, hnumber, Option.map_some]
  all_goals
    rename_i heq
    obtain rfl := (List.cons.inj heq).1
    obtain hsign | hdigit := hfirst
    · exact absurd hsign (by decide)
    · exact absurd hdigit (by decide)

/-- The items of a list that is not empty begin as its first item does. -/
theorem exists_writeItems_eq_cons {item : Json} (hexact : item.IsExact) (items : List Json) :
    ∃ c rest, writeItems (item :: items) = c :: rest ∧ OpensValue c := by
  obtain ⟨c, rest, heq, hopens⟩ := exists_write_eq_cons hexact
  cases items with
  | nil => exact ⟨c, rest, by rw [writeItems, heq], hopens⟩
  | cons next items => exact ⟨c, rest ++ ',' :: writeItems (next :: items), by
      rw [writeItems, heq]
      · rfl
      · simp, hopens⟩

/-- The fields of an object that is not empty begin with the quote of a name. -/
theorem exists_writeFields_eq_cons (field : String × Json) (fields : List (String × Json)) :
    ∃ rest, writeFields (field :: fields) = '"' :: rest := by
  obtain ⟨name, value⟩ := field
  cases fields with
  | nil => exact ⟨_, by rw [writeFields, writeField, writeString_append]⟩
  | cons next fields => exact ⟨_, by
      rw [writeFields, writeField, List.append_assoc, writeString_append]
      simp⟩

mutual

/-- A value is read back from what it is written as, whatever follows it, as
    long as a number does not run into it. The length of the text is fuel
    enough, as each level of nesting takes a character at least, and no document
    is written as the empty text. -/
theorem readValue_write : ∀ (document : Json) (fuel : Nat) (rest : List Char), document.IsExact →
    (write document).length ≤ fuel → EndsNumeral rest →
      readValue fuel (write document ++ rest) = some (document, rest)
  | .null, fuel + 1, rest, _, _, _ => by simp [write, readValue, skipSpace]
  | .bool b, fuel + 1, rest, _, _, _ => by
    cases b <;> simp [write, readValue, skipSpace]
  | .integer n, fuel + 1, _, ⟨hlow, hhigh⟩, _, hrest => readValue_numeral
    (exists_toString_eq_cons n) (fun _ => isNumeralChar_of_mem_toString)
    (numberOf?_toString hlow hhigh) fuel hrest
  | .float x, fuel + 1, rest, hfinite, _, hrest => by
    rw [write_float hfinite]
    exact readValue_numeral (exists_floatText_eq_cons hfinite)
      (isNumeralChar_of_mem_floatText hfinite) (numberOf?_floatText hfinite) fuel hrest
  | .string s, fuel + 1, rest, _, _, _ => by
    rw [write, writeString_append, readValue, skipSpace_cons (by decide)]
    simp [readString_flatMap_writeChar]
  | .array [], fuel + 1, rest, _, _, _ => by simp [write, writeItems, readValue, skipSpace]
  | .array (item :: items), fuel + 1, rest, hexact, hfuel, _ => by
    have hlength : (writeItems (item :: items)).length + 1 ≤ fuel := by
      rw [write] at hfuel
      simpa using hfuel
    have hread := readItems_writeItems (item :: items) fuel rest (by simp) hexact hlength
    have htext : write (.array (item :: items)) ++ rest =
        '[' :: (writeItems (item :: items) ++ ']' :: rest) := by simp [write]
    obtain ⟨c, tail, heq, hopens⟩ := exists_writeItems_eq_cons hexact.1 items
    have hcloses : c ≠ ']' := by
      rintro rfl
      exact absurd hopens (by decide)
    rw [htext, readValue, skipSpace_cons (by decide)]
    rw [heq, List.cons_append] at hread ⊢
    simp [hopens.skipSpace_cons, hcloses, hread]
  | .object [], fuel + 1, rest, _, _, _ => by simp [write, writeFields, readValue, skipSpace]
  | .object (field :: fields), fuel + 1, rest, hexact, hfuel, _ => by
    have hlength : (writeFields (field :: fields)).length + 1 ≤ fuel := by
      rw [write] at hfuel
      simpa using hfuel
    have hread := readFields_writeFields (field :: fields) fuel rest (by simp) hexact hlength
    have htext : write (.object (field :: fields)) ++ rest =
        '\x7b' :: (writeFields (field :: fields) ++ '\x7d' :: rest) := by simp [write]
    obtain ⟨tail, heq⟩ := exists_writeFields_eq_cons field fields
    rw [htext, readValue, skipSpace_cons (by decide)]
    rw [heq, List.cons_append] at hread ⊢
    simp [skipSpace_cons, hread]
  | document, 0, _, hexact, hfuel, _ => by
    obtain ⟨c, tail, heq, -⟩ := exists_write_eq_cons hexact
    simp [heq] at hfuel

/-- The items of a list are read back up to the bracket behind the last of them.
    The induction is on the items, within the one on the fuel. -/
theorem readItems_writeItems : ∀ (items : List Json) (fuel : Nat) (rest : List Char), items ≠ [] →
    AreExact items → (writeItems items).length + 1 ≤ fuel →
      readItems fuel (writeItems items ++ ']' :: rest) = some (items, rest)
  | [], _, _, hsome, _, _ => absurd rfl hsome
  | [item], fuel + 1, rest, _, hexact, hfuel => by
    have hlength : (write item).length ≤ fuel := by simpa [writeItems] using hfuel
    have hread := readValue_write item fuel (']' :: rest) hexact.1 hlength
      (endsNumeral_cons (by decide))
    simp [writeItems, readItems, hread, skipSpace_cons]
  | item :: next :: items, fuel + 1, rest, _, hexact, hfuel => by
    have hlength : (write item).length + (writeItems (next :: items)).length + 1 ≤ fuel := by
      simp only [writeItems, List.length_append, List.length_cons] at hfuel
      omega
    have hread := readValue_write item fuel (',' :: (writeItems (next :: items) ++ ']' :: rest))
      hexact.1 (by omega) (endsNumeral_cons (by decide))
    have hitems := readItems_writeItems (next :: items) fuel rest (by simp) hexact.2 (by omega)
    simp [writeItems, readItems, hread, hitems, skipSpace_cons]

/-- The same for the fields of an object, with the name and the colon before
    each value. -/
theorem readFields_writeFields : ∀ (fields : List (String × Json)) (fuel : Nat)
    (rest : List Char), fields ≠ [] → HaveExact fields → (writeFields fields).length + 1 ≤ fuel →
      readFields fuel (writeFields fields ++ '\x7d' :: rest) = some (fields, rest)
  | [], _, _, hsome, _, _ => absurd rfl hsome
  | [(name, value)], fuel + 1, rest, _, hexact, hfuel => by
    have hlength : (write value).length ≤ fuel := by
      simp only [writeFields, writeField, List.length_append, List.length_cons] at hfuel
      omega
    have hread := readValue_write value fuel ('\x7d' :: rest) hexact.1 hlength
      (endsNumeral_cons (by decide))
    rw [writeFields, writeField, List.append_assoc, writeString_append, readFields,
      skipSpace_cons (by decide)]
    simp [readString_flatMap_writeChar, hread, skipSpace_cons]
  | (name, value) :: next :: fields, fuel + 1, rest, _, hexact, hfuel => by
    have hlength : (write value).length + (writeFields (next :: fields)).length + 1 ≤ fuel := by
      simp only [writeFields, writeField, List.length_append, List.length_cons] at hfuel
      omega
    have hread := readValue_write value fuel
      (',' :: (writeFields (next :: fields) ++ '\x7d' :: rest)) hexact.1 (by omega)
      (endsNumeral_cons (by decide))
    have hfields := readFields_writeFields (next :: fields) fuel rest (by simp) hexact.2 (by omega)
    have htext : writeFields ((name, value) :: next :: fields) =
        writeString name ++ ':' :: (write value ++ ',' :: writeFields (next :: fields)) := by
      simp [writeFields, writeField]
    rw [htext, List.append_assoc, writeString_append, readFields, skipSpace_cons (by decide)]
    simp [readString_flatMap_writeChar, hread, hfields, skipSpace_cons]

end

/-- A document that is not too deep is read back from its own text. Numbers have
    to be exact, which excludes the doubles without a numeral. -/
theorem parse?_write {document : Json} (hexact : document.IsExact)
    (hdepth : document.depth ≤ maxDepth) : parse? (write document) = some document := by
  have hread := readValue_write document ((write document).length + 1) [] hexact
    (Nat.le_succ _) endsNumeral_nil
  rw [List.append_nil] at hread
  rw [parse?, hread]
  simp [skipSpace, hdepth]

/-- A list is exact if its items are. Stated with membership, it can be used
    without going through the list. -/
theorem areExact_iff {items : List Json} : AreExact items ↔ ∀ item ∈ items, item.IsExact := by
  induction items with
  | nil => simp [AreExact]
  | cons item items ih => rw [AreExact, ih, List.forall_mem_cons]

/-- The same for the fields of an object. -/
theorem haveExact_iff {fields : List (String × Json)} :
    HaveExact fields ↔ ∀ field ∈ fields, field.2.IsExact := by
  induction fields with
  | nil => simp [HaveExact]
  | cons field fields ih => rw [HaveExact, ih, List.forall_mem_cons]

/-- A bound for all items is one for the list. -/
theorem depthOfItems_le {items : List Json} {bound : Nat}
    (hitems : ∀ item ∈ items, item.depth ≤ bound) : depthOfItems items ≤ bound := by
  induction items with
  | nil => exact Nat.zero_le bound
  | cons item items ih =>
    obtain ⟨hitem, hitems⟩ := List.forall_mem_cons.1 hitems
    rw [depthOfItems]
    exact Nat.max_le.2 ⟨hitem, ih hitems⟩

/-- A bound for the values of all fields is one for the object. -/
theorem depthOfFields_le {fields : List (String × Json)} {bound : Nat}
    (hfields : ∀ field ∈ fields, field.2.depth ≤ bound) : depthOfFields fields ≤ bound := by
  induction fields with
  | nil => exact Nat.zero_le bound
  | cons field fields ih =>
    obtain ⟨hfield, hfields⟩ := List.forall_mem_cons.1 hfields
    rw [depthOfFields]
    exact Nat.max_le.2 ⟨hfield, ih hfields⟩

end PromptPacks.Json
