import PromptPacks.Proofs.Json.RoundTrip
import PromptPacks.Proofs.Pack.Description

namespace PromptPacks

open Json PromptPacks.Number

/-- A written option is an object that describes the option. -/
theorem EnumOption.isObject_toJson (option : EnumOption) :
    IsObject option.DescribedBy option.toJson :=
  ⟨_, rfl, by simp, by simp, by simp⟩

/-- The written fields of a definition describe it, whatever fields follow
    them. -/
theorem VariableDefinition.describedBy_toFields (definition : VariableDefinition)
    (rest : List (String × Json)) : definition.DescribedBy (definition.toFields ++ rest) where
  name := by simp [toFields]
  displayName := by simp [toFields]
  type := by simp [toFields]
  category := by simp [toFields]
  required := by simp [toFields]
  defaultValue := hasFieldOr_ofOption (by simp [toFields]) fun _ _ => rfl
  options := by
    have hencode : ∀ options ∈ definition.options,
        TellsList (fun option => IsObject option.DescribedBy) options (optionsToJson options) :=
      fun _ _ => tellsList_map fun option _ => option.isObject_toJson
    exact hasFieldOr_ofOption (by simp [toFields]) hencode
  description := hasFieldOr_ofOption (by simp [toFields]) fun _ _ => rfl

/-- A written variable describes it. Its place must fit into sixty-four bits, as
    documents have no larger whole numbers. -/
theorem ExportedVariable.isObject_toJson {exported : ExportedVariable}
    (hlow : minInt64 ≤ exported.sortOrder) (hhigh : exported.sortOrder ≤ maxInt64) :
    IsObject exported.DescribedBy exported.toJson := by
  refine ⟨_, rfl, by simp [VariableDefinition.toFields], ?_⟩
  exact ⟨exported.definition.describedBy_toFields _, .inl ⟨_, by simp, rfl, hlow, hhigh⟩⟩

/-- A written template describes it, with its identifier, its content and its
    hash. -/
theorem ExportedTemplate.isObject_toJson (template : ExportedTemplate) :
    IsObject template.DescribedBy template.toJson :=
  ⟨_, rfl, by simp, by simp, by simp, hasFieldOr_ofOption (by simp) fun _ _ => rfl⟩

/-- An optional text is written exactly, whether it is there or not. -/
theorem isExact_ofOption_string (value : Option String) : (ofOption .string value).IsExact := by
  cases value <;> trivial

/-- An optional text has no parts. -/
theorem depth_ofOption_string (value : Option String) : (ofOption .string value).depth = 0 := by
  cases value <;> rfl

/-- Optional options are written exactly, as they consist of texts. -/
theorem isExact_ofOption_optionsToJson (options : Option (List EnumOption)) :
    (ofOption optionsToJson options).IsExact := by
  cases options with
  | none => trivial
  | some list =>
    refine areExact_iff.2 fun document hdocument => ?_
    obtain ⟨option, -, rfl⟩ := List.mem_map.1 hdocument
    simp [EnumOption.toJson, IsExact, HaveExact]

/-- Options are two levels deep: a list of objects. -/
theorem depth_ofOption_optionsToJson (options : Option (List EnumOption)) :
    (ofOption optionsToJson options).depth ≤ 2 := by
  cases options with
  | none => exact Nat.zero_le 2
  | some list =>
    refine Nat.succ_le_succ (depthOfItems_le fun document hdocument => ?_)
    obtain ⟨option, -, rfl⟩ := List.mem_map.1 hdocument
    simp [EnumOption.toJson, depth, depthOfFields]

namespace Envelope

/-- The numbers of an exported pack are within the bounds of the exchange
    format. -/
structure HasBounds (envelope : Envelope) : Prop where
  version : envelope.version < 4294967296
  places : ∀ exported ∈ envelope.variables,
    minInt64 ≤ exported.sortOrder ∧ exported.sortOrder ≤ maxInt64

/-- The fields of an exported pack describe it, with the time of its export among
    them. The time is a further field, which a description does not mind. -/
theorem describedBy_dated {envelope : Envelope} (hbounds : envelope.HasBounds)
    (exportedAt : Json) :
    envelope.DescribedBy (("format_version", .integer envelope.version) ::
      ("exported_at", exportedAt) :: envelope.contentFields) where
  version := by
    have hversion := hbounds.version
    exact ⟨_, by simp, rfl, by omega, by omega⟩
  pack := by
    refine ⟨_, .tail _ (.tail _ (.head _)), _, rfl, by simp, ?_⟩
    exact ⟨by simp, hasFieldOr_ofOption (by simp) fun _ _ => rfl,
      hasFieldOr_ofOption (by simp) fun _ _ => rfl⟩
  templates := by
    refine ⟨_, .tail _ (.tail _ (.tail _ (.head _))), ?_⟩
    exact tellsList_map fun template _ => template.isObject_toJson
  «variables» := by
    refine .inl ⟨_, .tail _ (.tail _ (.tail _ (.tail _ (.head _)))), ?_⟩
    refine tellsList_map fun exported hmem => ?_
    obtain ⟨hlow, hhigh⟩ := hbounds.places exported hmem
    exact ExportedVariable.isObject_toJson hlow hhigh

/-- The names of the written fields are distinct, so the look-up of each of them
    finds its own field. -/
theorem nodup_datedNames (envelope : Envelope) (exportedAt : Json) :
    ((("format_version", .integer envelope.version) :: ("exported_at", exportedAt) ::
      envelope.contentFields).map Prod.fst).Nodup := by
  simp [contentFields]

/-- A written pack is read back, if the time of its export has the form of one. -/
theorem ofDatedJson?_toDatedJson {envelope : Envelope} (hbounds : envelope.HasBounds)
    {exportedAt : String} (hmoment : isTimestamp exportedAt = true) :
    ofDatedJson? (envelope.toDatedJson exportedAt) = some envelope := by
  have hdistinct := nodup_datedNames envelope (.string exportedAt)
  have hfield := field_eq_of_mem hdistinct (.tail _ (.head _))
  simp [ofDatedJson?, toDatedJson, fields?, hfield, string?, hmoment,
    ofFields?_of_describedBy hdistinct (describedBy_dated hbounds _)]

/-- A written pack is exact: its numbers are the version and places within their
    bounds. -/
theorem isExact_toDatedJson {envelope : Envelope} (hbounds : envelope.HasBounds)
    (exportedAt : String) : (envelope.toDatedJson exportedAt).IsExact := by
  have hversion : minInt64 ≤ (envelope.version : Int) ∧
      (envelope.version : Int) ≤ maxUnsigned64 := by
    have hbound := hbounds.version
    rw [minInt64, maxUnsigned64]
    omega
  have htemplates : AreExact (envelope.templates.map ExportedTemplate.toJson) := by
    refine areExact_iff.2 fun document hdocument => ?_
    obtain ⟨template, -, rfl⟩ := List.mem_map.1 hdocument
    simp [ExportedTemplate.toJson, IsExact, HaveExact, isExact_ofOption_string]
  have hvariables : AreExact (envelope.variables.map ExportedVariable.toJson) := by
    refine areExact_iff.2 fun document hdocument => ?_
    obtain ⟨exported, hexported, rfl⟩ := List.mem_map.1 hdocument
    obtain ⟨hlow, hhigh⟩ := hbounds.places exported hexported
    have hplace : minInt64 ≤ exported.sortOrder ∧ exported.sortOrder ≤ maxUnsigned64 := by
      rw [maxInt64] at hhigh
      rw [maxUnsigned64]
      omega
    simpa [ExportedVariable.toJson, VariableDefinition.toFields, IsExact, HaveExact,
      isExact_ofOption_string, isExact_ofOption_optionsToJson] using hplace
  simpa [toDatedJson, contentFields, IsExact, HaveExact, isExact_ofOption_string, hversion.1,
    htemplates, hvariables] using hversion.2

/-- A written pack is not too deep to be read, however many rows it has. The
    deepest part of it are the options of a variable. -/
theorem depth_toDatedJson (envelope : Envelope) (exportedAt : String) :
    (envelope.toDatedJson exportedAt).depth ≤ maxDepth := by
  have htemplates : depthOfItems (envelope.templates.map ExportedTemplate.toJson) ≤ 1 := by
    refine depthOfItems_le fun document hdocument => ?_
    obtain ⟨template, -, rfl⟩ := List.mem_map.1 hdocument
    simp [ExportedTemplate.toJson, depth, depthOfFields, depth_ofOption_string]
  have hvariables : depthOfItems (envelope.variables.map ExportedVariable.toJson) ≤ 3 := by
    refine depthOfItems_le fun document hdocument => ?_
    obtain ⟨exported, -, rfl⟩ := List.mem_map.1 hdocument
    have hoptions := depth_ofOption_optionsToJson exported.definition.options
    simp only [ExportedVariable.toJson, VariableDefinition.toFields, List.cons_append,
      List.nil_append, depth, depthOfFields, depth_ofOption_string]
    omega
  simp only [toDatedJson, contentFields, depth, depthOfFields, depth_ofOption_string, maxDepth]
  omega

/-- An exported pack survives being written as a text with the time of the
    export and being read again. -/
theorem ofDatedJson?_parse?_write {envelope : Envelope} (hbounds : envelope.HasBounds)
    {exportedAt : String} (hmoment : isTimestamp exportedAt = true) :
    (Json.parse? (Json.write (envelope.toDatedJson exportedAt))).bind ofDatedJson? =
      some envelope := by
  rw [parse?_write (isExact_toDatedJson hbounds exportedAt) (depth_toDatedJson envelope exportedAt)]
  exact ofDatedJson?_toDatedJson hbounds hmoment

end Envelope

end PromptPacks
