import Mathlib.Data.List.Forall2
import PromptPacks.Json.Part
import PromptPacks.Proofs.Dictionary

namespace PromptPacks.Json

variable {α : Type} {fields : List (String × Json)} {name : String}

/-- A document is an object with distinct names and fields of a kind. -/
def IsObject (tells : List (String × Json) → Prop) (document : Json) : Prop :=
  ∃ fields, document = .object fields ∧ (fields.map Prod.fst).Nodup ∧ tells fields

def TellsText (text : String) (document : Json) : Prop :=
  document = .string text

/-- A document tells a whole number between two bounds, ends included. -/
def TellsInteger (low high n : Int) (document : Json) : Prop :=
  document = .integer n ∧ low ≤ n ∧ n ≤ high

/-- A document tells the items of a list one by one. -/
def TellsList (tells : α → Json → Prop) (list : List α) (document : Json) : Prop :=
  ∃ documents, document = .array documents ∧ List.Forall₂ tells list documents

/-- A document tells an optional value, with `null` for its absence. -/
def TellsOption (tells : α → Json → Prop) : Option α → Json → Prop
  | some a, document => tells a document
  | none, document => document = .null

/-- A field tells a value. -/
def HasField (fields : List (String × Json)) (name : String) (tells : Json → Prop) : Prop :=
  ∃ document, (name, document) ∈ fields ∧ tells document

/-- A field tells a value, or it is left out and the value is the one that is
    taken then. -/
def HasFieldOr (fields : List (String × Json)) (name : String) (default : α)
    (tells : α → Json → Prop) (value : α) : Prop :=
  HasField fields name (tells value) ∨ value = default ∧ name ∉ fields.map Prod.fst

section

variable {encode : α → Json} {tells : α → Json → Prop}

/-- A list that is written item by item tells the list, if what is written for
    each item tells the item. -/
theorem tellsList_map {list : List α} (hencode : ∀ a ∈ list, tells a (encode a)) :
    TellsList tells list (.array (list.map encode)) := by
  refine ⟨_, rfl, ?_⟩
  rw [List.forall₂_map_right_iff, List.forall₂_same]
  exact hencode

/-- An optional part that is written out, also where it is missing, tells
    itself. A missing one is written as `null`. -/
theorem hasFieldOr_ofOption {value : Option α} (hmem : (name, .ofOption encode value) ∈ fields)
    (hencode : ∀ a ∈ value, tells a (encode a)) :
    HasFieldOr fields name none (TellsOption tells) value := by
  refine .inl ⟨_, hmem, ?_⟩
  cases value with
  | none => rfl
  | some a => exact hencode a rfl

end

/-- Where the names of an object are distinct, a field is found by its name
    wherever it stands. -/
theorem field?_eq_of_mem {document : Json} (hdistinct : (fields.map Prod.fst).Nodup)
    (hmem : (name, document) ∈ fields) : field? fields name = some document :=
  (lastValue?_eq_some_iff hdistinct).2 hmem

/-- A name that no field has is not found. -/
theorem field?_eq_none (hlacks : name ∉ fields.map Prod.fst) : field? fields name = none :=
  lastValue?_eq_none_iff.2 hlacks

/-- The same for the look-up that gives `null` where there is no field. -/
theorem field_eq_of_mem {document : Json} (hdistinct : (fields.map Prod.fst).Nodup)
    (hmem : (name, document) ∈ fields) : field fields name = document := by
  rw [field, field?_eq_of_mem hdistinct hmem, Option.getD_some]

/-- A reader finds each value that is told. -/
def Understands (read : Json → Option α) (tells : α → Json → Prop) : Prop :=
  ∀ a document, tells a document → read document = some a

variable {read : Json → Option α} {tells : α → Json → Prop}

/-- A text is read as what it tells. The other direction is not needed: nothing
    is said of documents that tell no text. -/
theorem understands_string? : Understands string? TellsText := by
  rintro text document rfl
  rfl

/-- An integer within the bounds is read as itself. -/
theorem understands_integer? {low high : Int} :
    Understands (integer? low high) (TellsInteger low high) := by
  rintro n document ⟨rfl, hlow, hhigh⟩
  simp [integer?, hlow, hhigh]

/-- A list is read if each item is. The reader of the items may be any that
    understands them. -/
theorem Understands.items? (hread : Understands read tells) :
    Understands (items? read) (TellsList tells) := by
  rintro list document ⟨documents, rfl, htells⟩
  rw [Json.items?]
  induction htells with
  | nil => rfl
  | cons hitem _ ih =>
    rw [List.mapM_cons, hread _ _ hitem, ih]
    rfl

/-- No reader that is meant here finds a value in `null`, so `null` can stand
    for no value. -/
theorem Understands.optional? (hread : Understands read tells) (hnull : read .null = none) :
    Understands (optional? read) (TellsOption tells) := by
  rintro (_ | a) document htells
  · obtain rfl : document = .null := htells
    rfl
  · have hfound := hread a document htells
    have hsome : document ≠ .null := by
      rintro rfl
      rw [hnull] at hfound
      cases hfound
    rw [Json.optional?, hfound]
    · rfl
    · exact hsome

/-- An optional field is read back whether it is written as `null` or left out. -/
theorem Understands.optional?_field {value : Option α} (hread : Understands read tells)
    (hnull : read .null = none) (hdistinct : (fields.map Prod.fst).Nodup)
    (hfield : HasFieldOr fields name none (TellsOption tells) value) :
    Json.optional? read (field fields name) = some value := by
  obtain ⟨document, hmem, htells⟩ | ⟨rfl, hlacks⟩ := hfield
  · rw [field_eq_of_mem hdistinct hmem, hread.optional? hnull value document htells]
  · rw [field, field?_eq_none hlacks]
    rfl

/-- A field with a default is read back, also if it is left out because it has
    the default. -/
theorem Understands.elim_field? {default value : α} (hread : Understands read tells)
    (hdistinct : (fields.map Prod.fst).Nodup)
    (hfield : HasFieldOr fields name default tells value) :
    (field? fields name).elim (some default) read = some value := by
  obtain ⟨document, hmem, htells⟩ | ⟨rfl, hlacks⟩ := hfield
  · rw [field?_eq_of_mem hdistinct hmem]
    exact hread value document htells
  · rw [field?_eq_none hlacks]
    rfl

end PromptPacks.Json
