import PromptPacks.Proofs.Template.Pointing
import PromptPacks.Proofs.Template.ScanOrder
import PromptPacks.Proofs.Text.ByteOrder

namespace PromptPacks.Template

open PromptPacks.Text

/-- Whether a byte is shown as it is or as a space. -/
def ShowsByte (byte shown : UInt8) : Prop :=
  shown = byte ∨ shown = 0x20

/-- A space takes one byte, so as many bytes are written as there are spaces. -/
theorem flatMap_replicate_space (n : Nat) :
    (List.replicate n ' ').flatMap String.utf8EncodeChar = List.replicate n 0x20 := by
  induction n with
  | zero => rfl
  | succ n ih =>
    rw [List.replicate_succ, List.flatMap_cons, ih]
    rfl

/-- Any bytes may be shown as that many spaces. -/
theorem forall₂_replicate_space (part : List UInt8) :
    List.Forall₂ ShowsByte part (List.replicate part.length 0x20) := by
  induction part with
  | nil => exact .nil
  | cons byte part ih => exact .cons (.inr rfl) ih

/-- What holds for characters holds for bytes. A character of several bytes is
    shown as several spaces, so the two texts agree in length only when they are
    taken as bytes. -/
theorem Blanked.forall₂_bytes {cs ds : List Char} (hblanked : Blanked cs ds) :
    List.Forall₂ ShowsByte (cs.flatMap String.utf8EncodeChar)
      (ds.flatMap String.utf8EncodeChar) := by
  induction hblanked with
  | nil => exact .nil
  | keep c _ ih =>
    exact List.rel_append (List.forall₂_same.2 fun byte _ => .inl rfl) ih
  | blank c _ ih =>
    rw [List.flatMap_cons, List.flatMap_append, spaces, flatMap_replicate_space,
      ← String.length_utf8EncodeChar]
    exact List.rel_append (forall₂_replicate_space _) ih

/-- Filters and statements are both found in the tags of a template, hence one
    argument about a tag is enough for the two scans. -/
theorem exists_tag_of_mem_scanned {source : List Char} {found : Located String}
    (hmem : found ∈ scannedFilters source ++ scannedStatements source) :
    ∃ tag ∈ tagsOf source, found ∈ tag.names := by
  obtain hmem | hmem := List.mem_append.1 hmem
  · obtain ⟨tag, htag, hfound⟩ := List.mem_flatMap.1 hmem
    exact ⟨tag, htag, List.mem_append_right _ hfound⟩
  · obtain ⟨tag, htag, hfound⟩ := List.mem_filterMap.1 hmem
    exact ⟨tag, htag, List.mem_append_left _ (Option.mem_toList.2 hfound)⟩

/-- How the masked text of a template and the offsets that are found in it fit
    the template. -/
structure ScansInPlace (source : String) : Prop where
  length_eq : (bytes (String.ofList (masked source.toList))).length = (bytes source).length
  shows : List.Forall₂ ShowsByte (bytes source) (bytes (String.ofList (masked source.toList)))
  stands : ∀ found ∈ scannedFilters source.toList ++ scannedStatements source.toList,
    StandsWhole isNameChar source.toList found.value.toList found.offset
  reference_stands : ∀ name offset, name ≠ "" → (∀ c ∈ name.toList, isBlank c = false) →
    referenceOffset? source.toList name = some offset →
      StandsWhole isWordChar source.toList name.toList offset
  call_stands : ∀ name offset, name ≠ "" → (∀ c ∈ name.toList, isBlank c = false) →
    callPlace? source.toList name = some offset →
      StandsWhole isWordChar source.toList name.toList offset
  tags_inOrder : (tagsOf source.toList).Pairwise Tag.IsBefore
  holds : ∀ found ∈ scannedFilters source.toList ++ scannedStatements source.toList,
    ∃ tag ∈ tagsOf source.toList, tag.Holds found
  filters_inOrder : (scannedFilters source.toList).Pairwise (·.offset < ·.offset)
  statements_inOrder : (scannedStatements source.toList).Pairwise (·.offset < ·.offset)

/-- The masked text of a template consists of the bytes of the template, some of
    them as spaces. All that the scanner finds in it, and every name without
    white space that a search for a reference or a call finds, stands in the
    template itself behind as many bytes as its offset says, between whole
    characters and as no part of a longer name. Offsets go up from tag to tag
    and within each of them. -/
theorem masked_scansInPlace (source : String) : ScansInPlace source := by
  have hshows : List.Forall₂ ShowsByte (bytes source)
      (bytes (String.ofList (masked source.toList))) := by
    rw [bytes_eq_flatMap, bytes_eq_flatMap, String.toList_ofList]
    exact (blanked_masked source.toList).forall₂_bytes
  have hspace {name : String} (hblank : ∀ c ∈ name.toList, isBlank c = false) :
      ' ' ∉ name.toList := fun hmem => by cases hblank _ hmem
  exact {
    length_eq := hshows.length_eq.symm
    shows := hshows
    stands := fun found hmem => by
      obtain ⟨tag, htag, hfound⟩ := exists_tag_of_mem_scanned hmem
      exact (Tag.standsWhole_of_mem_names htag hfound).2
    reference_stands := fun name offset hsome hblank =>
      standsWhole_of_referenceOffset? (by simpa using hsome) (hspace hblank)
    call_stands := fun name offset hsome hblank =>
      standsWhole_of_callPlace? (by simpa using hsome) (hspace hblank)
    tags_inOrder := pairwise_tagsOf source.toList
    holds := fun found hmem => by
      obtain ⟨tag, htag, hfound⟩ := exists_tag_of_mem_scanned hmem
      exact ⟨tag, htag, Tag.holds_of_mem_names hfound⟩
    filters_inOrder := pairwise_scannedFilters source.toList
    statements_inOrder := pairwise_scannedStatements source.toList }

/-- A raw block, a comment and a quoted text stand before the names, each with a
    character of several bytes, and the quoted text holds the end of an
    expression. -/
def coveredSample : String :=
  "\x7b% raw %\x7d\x7b\x7b é | roll \x7d\x7d\x7b% endraw %\x7d\x7b# × #\x7d\n" ++
    "\x7b\x7b '×\x7d\x7d' ~ mood | shout \x7d\x7d\x7b\x7b roll (2) \x7d\x7d"

/-- A filter, a statement, a variable and a call are found in a template with
    all kinds of text that is blanked. -/
theorem masked_scansInPlace_coveredSample :
    (⟨"shout", 64⟩ ∈ scannedFilters coveredSample.toList ∧
      StandsWhole isNameChar coveredSample.toList "shout".toList 64) ∧
    (⟨"endraw", 27⟩ ∈ scannedStatements coveredSample.toList ∧
      StandsWhole isNameChar coveredSample.toList "endraw".toList 27) ∧
    (referenceOffset? coveredSample.toList "mood" = some 57 ∧
      StandsWhole isWordChar coveredSample.toList "mood".toList 57) ∧
    callPlace? coveredSample.toList "roll" = some 75 ∧
      StandsWhole isWordChar coveredSample.toList "roll".toList 75 := by
  have hscans := masked_scansInPlace coveredSample
  have hfilter : ⟨"shout", 64⟩ ∈ scannedFilters coveredSample.toList := by decide +kernel
  have hstatement : ⟨"endraw", 27⟩ ∈ scannedStatements coveredSample.toList := by decide +kernel
  have hreference : referenceOffset? coveredSample.toList "mood" = some 57 := by decide +kernel
  have hcall : callPlace? coveredSample.toList "roll" = some 75 := by decide +kernel
  have hblank (name : String) (hall : name.toList.all (fun c => !isBlank c) = true) :
      ∀ c ∈ name.toList, isBlank c = false := by simpa using hall
  refine ⟨⟨hfilter, ?_⟩, ⟨hstatement, ?_⟩, ⟨hreference, ?_⟩, hcall, ?_⟩
  · exact hscans.stands _ (List.mem_append_left _ hfilter)
  · exact hscans.stands _ (List.mem_append_right _ hstatement)
  · exact hscans.reference_stands "mood" 57 (by decide) (hblank _ (by decide)) hreference
  · exact hscans.call_stands "roll" 75 (by decide) (hblank _ (by decide)) hcall

end PromptPacks.Template
