import PromptPacks.Proofs.Pack.Document
import PromptPacks.Proofs.Pack.Moment

namespace PromptPacks

open Json PromptPacks.Number

namespace Json

/-- An integer that is read is within the bounds that were asked for. -/
theorem bounds_of_integer? {low high n : Int} {document : Json}
    (hread : integer? low high document = some n) : low ≤ n ∧ n ≤ high := by
  cases document with
  | integer m =>
    rw [integer?] at hread
    split at hread
    · next hbounds =>
      cases hread
      simpa using hbounds
    · cases hread
  | _ => cases hread

/-- What holds of each item that is read holds of all items of a list that is
    read. Where the items come from does not matter. -/
theorem forall_of_items? {α : Type} {read : Json → Option α} {holds : α → Prop}
    (hitem : ∀ document a, read document = some a → holds a) {document : Json} {list : List α}
    (hread : items? read document = some list) : ∀ a ∈ list, holds a := by
  cases document with
  | array documents =>
    rw [items?] at hread
    induction documents generalizing list with
    | nil =>
      cases hread
      simp
    | cons document documents ih =>
      simp only [List.mapM_cons, Option.bind_eq_bind, Option.bind_eq_some_iff] at hread
      obtain ⟨a, ha, rest, hrest, heq⟩ := hread
      cases heq
      exact List.forall_mem_cons.2 ⟨hitem document a ha, ih hrest⟩
  | _ => cases hread

end Json

/-- The place of a variable that is read fits into sixty-four bits. A missing
    one counts as zero, and one that does not fit is not read. -/
theorem ExportedVariable.bounds_of_ofJson? {document : Json} {exported : ExportedVariable}
    (hread : ofJson? document = some exported) :
    minInt64 ≤ exported.sortOrder ∧ exported.sortOrder ≤ maxInt64 := by
  simp only [ofJson?, Option.bind_eq_bind, Option.bind_eq_some_iff] at hread
  obtain ⟨fields, -, definition, -, sortOrder, hplace, heq⟩ := hread
  cases heq
  cases hfield : field? fields "sort_order" with
  | none =>
    rw [hfield] at hplace
    cases hplace
    change minInt64 ≤ 0 ∧ 0 ≤ maxInt64
    decide
  | some place =>
    rw [hfield] at hplace
    exact bounds_of_integer? hplace

/-- Every exported pack that is read is within the bounds of the exchange
    format. So the bounds are no restriction for packs that come from a
    document. -/
theorem Envelope.hasBounds_of_ofFields? {fields : List (String × Json)} {envelope : Envelope}
    (hread : ofFields? fields = some envelope) : envelope.HasBounds := by
  simp only [ofFields?, Option.bind_eq_bind, Option.bind_eq_some_iff] at hread
  obtain ⟨version, hversion, pack, -, name, -, description, -, author, -, templates, -,
    declared, hdeclared, heq⟩ := hread
  cases heq
  constructor
  · have hbounds := bounds_of_integer? hversion
    change version.toNat < 4294967296
    omega
  · change ∀ exported ∈ declared, _
    cases hfield : field? fields "variables" with
    | none =>
      rw [hfield] at hdeclared
      cases hdeclared
      simp
    | some document =>
      rw [hfield] at hdeclared
      exact forall_of_items? (fun _ _ => ExportedVariable.bounds_of_ofJson?) hdeclared

namespace DatedEnvelope

/-- The fields of an object describe an exported pack with the moment of its
    export. -/
structure DescribedBy (dated : DatedEnvelope) (fields : List (String × Json)) : Prop where
  envelope : dated.envelope.DescribedBy fields
  exportedAt : ("exported_at", .string dated.exportedAt.text) ∈ fields

/-- An exported pack is read with its moment from any object that describes
    both. -/
theorem understands_ofJson? :
    Understands ofJson? fun dated => IsObject dated.DescribedBy := by
  rintro dated document ⟨fields, rfl, hdistinct, hfields⟩
  simp [ofJson?, fields?, string?, field_eq_of_mem hdistinct hfields.exportedAt,
    Moment.ofText?_text, Envelope.ofFields?_of_describedBy hdistinct hfields.envelope]

variable {dated : DatedEnvelope} {document : Json}

/-- Whatever is read can be written again, as it is within the bounds. -/
theorem hasBounds_of_ofJson? (hread : ofJson? document = some dated) :
    dated.envelope.HasBounds := by
  simp only [ofJson?, Option.bind_eq_bind, Option.bind_eq_some_iff] at hread
  obtain ⟨fields, -, moment, -, exportedAt, -, envelope, henvelope, heq⟩ := hread
  cases heq
  exact Envelope.hasBounds_of_ofFields? henvelope

/-- What is written describes the pack and its moment. -/
theorem isObject_toJson (hbounds : dated.envelope.HasBounds) :
    IsObject dated.DescribedBy dated.toJson :=
  ⟨_, rfl, Envelope.nodup_datedNames _ _, Envelope.describedBy_dated hbounds _, .tail _ (.head _)⟩

/-- An exported pack is read back from its own text, with the moment of its
    export. -/
theorem ofText?_toText (hbounds : dated.envelope.HasBounds) :
    ofText? dated.toText = some dated := by
  rw [ofText?, toText, toJson, parse?_write (Envelope.isExact_toDatedJson hbounds _)
    (Envelope.depth_toDatedJson _ _)]
  exact understands_ofJson? dated _ (isObject_toJson hbounds)

/-- An exported pack within the bounds of the format survives as a text. A text
    tells a pack also where its fields stand in another order or among others,
    or where fields are left out that have a value by default, and the pack that
    any text tells survives in its turn. -/
theorem ofText?_lossless :
    (∀ dated : DatedEnvelope, dated.envelope.HasBounds → ofText? dated.toText = some dated) ∧
      (∀ (dated : DatedEnvelope) (document : Json) (text : List Char),
        Json.parse? text = some document → IsObject dated.DescribedBy document →
          ofText? text = some dated) ∧
      ∀ (dated : DatedEnvelope) (text : List Char), ofText? text = some dated →
        ofText? dated.toText = some dated := by
  refine ⟨fun dated hbounds => ofText?_toText hbounds,
    fun dated document text hparse hdescribed => ?_, fun dated text hread => ?_⟩
  · rw [ofText?, hparse]
    exact understands_ofJson? dated document hdescribed
  · obtain ⟨document, -, hdocument⟩ := Option.bind_eq_some_iff.1 hread
    exact ofText?_toText (hasBounds_of_ofJson? hdocument)

/-- A pack with one template and one variable, exported when a year began. -/
def sample : DatedEnvelope where
  envelope := ⟨1, "Noir", none, none, [⟨"story-turn", "Rain", none⟩],
    [⟨⟨"city", "City", .text, .custom, false, none, none, none⟩, 0⟩]⟩
  exportedAt :=
    ⟨⟨2026, 1, 1, by decide, by decide, by decide⟩,
      ⟨0, 0, 0, 0, by decide, by decide, by decide, by decide⟩⟩

/-- The fields of the sample in another order, with a remark and without those
    that may be left out. -/
def sampleFields : List (String × Json) :=
  [("remark", .bool true),
    ("variables", .array [.object [("required", .bool false), ("category", .string "custom"),
      ("variable_type", .string "text"), ("display_name", .string "City"),
      ("name", .string "city")]]),
    ("templates", .array [.object [("content", .string "Rain"),
      ("template_id", .string "story-turn")]]),
    ("pack", .object [("name", .string "Noir")]),
    ("exported_at", .string "2026-01-01T00:00:00Z"),
    ("format_version", .integer 1)]

theorem hasBounds_sample : sample.envelope.HasBounds :=
  ⟨by decide, by decide⟩

/-- The fields describe the pack though some of them stand in another order and
    most of those with a default are missing. -/
theorem describedBy_sampleFields : sample.DescribedBy sampleFields where
  exportedAt := by
    have htext : sample.exportedAt.text = "2026-01-01T00:00:00Z" := by decide +kernel
    rw [htext]
    simp [sampleFields]
  envelope := {
    version := ⟨.integer 1, by simp [sampleFields], rfl, by decide, by decide⟩
    pack := by
      refine ⟨.object [("name", .string "Noir")], by simp [sampleFields], _, rfl, by decide, ?_⟩
      exact ⟨by simp [sample], .inr ⟨rfl, by decide⟩, .inr ⟨rfl, by decide⟩⟩
    templates := by
      refine ⟨_, .tail _ (.tail _ (.head _)), _, rfl, .cons ⟨_, rfl, by decide, ?_⟩ .nil⟩
      exact ⟨by simp, by simp, .inr ⟨rfl, by decide⟩⟩
    «variables» := by
      refine .inl ⟨_, .tail _ (.head _), _, rfl, .cons ⟨_, rfl, by decide, ?_⟩ .nil⟩
      refine ⟨?_, .inr ⟨rfl, by decide⟩⟩
      exact ⟨by simp, by simp, by simp [VariableType.label], by simp [VariableCategory.label],
        by simp, .inr ⟨rfl, by decide⟩, .inr ⟨rfl, by decide⟩, .inr ⟨rfl, by decide⟩⟩ }

/-- A pack is read back from its own text, and from a document that leaves out
    what has a default. -/
theorem ofText?_lossless_sample :
    sample.envelope.HasBounds ∧ sample.DescribedBy sampleFields ∧
      ofText? sample.toText = some sample ∧
      ofText? (Json.write (.object sampleFields)) = some sample := by
  have hparse : Json.parse? (Json.write (.object sampleFields)) = some (.object sampleFields) :=
    parse?_write (by simp [sampleFields, IsExact, HaveExact, AreExact]; decide) (by decide)
  have hobject : IsObject sample.DescribedBy (.object sampleFields) :=
    ⟨sampleFields, rfl, by decide, describedBy_sampleFields⟩
  exact ⟨hasBounds_sample, describedBy_sampleFields, ofText?_lossless.1 sample hasBounds_sample,
    ofText?_lossless.2.1 sample _ _ hparse hobject⟩

end DatedEnvelope

end PromptPacks
