import PromptPacks.Pack.Document
import PromptPacks.Proofs.Json.Part

namespace PromptPacks

open Json PromptPacks.Number

/-- The label of a type is read as the type, so labels tell types apart. -/
theorem VariableType.ofJson?_label (type : VariableType) :
    VariableType.ofJson? (.string type.label) = some type :=
  ofLabel?_label type

theorem VariableCategory.ofJson?_label (category : VariableCategory) :
    VariableCategory.ofJson? (.string category.label) = some category :=
  ofLabel?_label category

/-- The fields of an object describe an option of an enumeration. -/
structure EnumOption.DescribedBy (option : EnumOption) (fields : List (String × Json)) :
    Prop where
  label : ("label", .string option.label) ∈ fields
  value : ("value", .string option.value) ∈ fields

/-- An option is read from any object that describes it, with its fields in any
    order and with further fields beside them. -/
theorem EnumOption.understands_ofJson? :
    Understands EnumOption.ofJson? fun option => IsObject option.DescribedBy := by
  rintro option document ⟨fields, rfl, hdistinct, hfields⟩
  simp [ofJson?, fields?, string?, field_eq_of_mem hdistinct hfields.label,
    field_eq_of_mem hdistinct hfields.value]

/-- The fields of an object describe a definition, be there others among them or
    not. What is absent may be `null` or be left out. -/
structure VariableDefinition.DescribedBy (definition : VariableDefinition)
    (fields : List (String × Json)) : Prop where
  name : ("name", .string definition.name) ∈ fields
  displayName : ("display_name", .string definition.displayName) ∈ fields
  type : ("variable_type", .string definition.type.label) ∈ fields
  category : ("category", .string definition.category.label) ∈ fields
  required : ("required", .bool definition.required) ∈ fields
  defaultValue : HasFieldOr fields "default_value" none (TellsOption TellsText)
    definition.defaultValue
  options : HasFieldOr fields "enum_options" none
    (TellsOption (TellsList fun option => IsObject option.DescribedBy)) definition.options
  description : HasFieldOr fields "description" none (TellsOption TellsText) definition.description

/-- A definition is read from fields that describe it. The names have to be
    distinct, since otherwise it would depend on the order which field counts. -/
theorem VariableDefinition.ofFields?_of_describedBy {definition : VariableDefinition}
    {fields : List (String × Json)} (hdistinct : (fields.map Prod.fst).Nodup)
    (hfields : definition.DescribedBy fields) : ofFields? fields = some definition := by
  rw [ofFields?, field_eq_of_mem hdistinct hfields.name,
    field_eq_of_mem hdistinct hfields.displayName, field_eq_of_mem hdistinct hfields.type,
    field_eq_of_mem hdistinct hfields.category, field_eq_of_mem hdistinct hfields.required,
    understands_string?.optional?_field rfl hdistinct hfields.defaultValue,
    EnumOption.understands_ofJson?.items?.optional?_field rfl hdistinct hfields.options,
    understands_string?.optional?_field rfl hdistinct hfields.description]
  simp [string?, bool?, VariableType.ofJson?_label, VariableCategory.ofJson?_label]

/-- The fields of an object describe an exported variable: those of its
    definition stand beside its place in the display order, which may be left
    out for the first one. -/
structure ExportedVariable.DescribedBy (exported : ExportedVariable)
    (fields : List (String × Json)) : Prop where
  definition : exported.definition.DescribedBy fields
  sortOrder : HasFieldOr fields "sort_order" 0 (TellsInteger minInt64 maxInt64) exported.sortOrder

/-- A variable of a pack is read from any object that describes it: a definition
    with a place. -/
theorem ExportedVariable.understands_ofJson? :
    Understands ExportedVariable.ofJson? fun exported => IsObject exported.DescribedBy := by
  rintro exported document ⟨fields, rfl, hdistinct, hfields⟩
  simp [ofJson?, fields?, VariableDefinition.ofFields?_of_describedBy hdistinct hfields.definition,
    understands_integer?.elim_field? hdistinct hfields.sortOrder]

/-- The fields of an object describe an exported template. The hash may be left
    out. -/
structure ExportedTemplate.DescribedBy (template : ExportedTemplate)
    (fields : List (String × Json)) : Prop where
  templateId : ("template_id", .string template.templateId) ∈ fields
  content : ("content", .string template.content) ∈ fields
  hash : HasFieldOr fields "content_hash" none (TellsOption TellsText) template.hash

/-- A template of a pack is read from any object that describes it. -/
theorem ExportedTemplate.understands_ofJson? :
    Understands ExportedTemplate.ofJson? fun template => IsObject template.DescribedBy := by
  rintro template document ⟨fields, rfl, hdistinct, hfields⟩
  simp [ofJson?, fields?, string?, field_eq_of_mem hdistinct hfields.templateId,
    field_eq_of_mem hdistinct hfields.content,
    understands_string?.optional?_field rfl hdistinct hfields.hash]

namespace Envelope

/-- The fields of an object describe the pack of an export. -/
structure PackDescribedBy (envelope : Envelope) (fields : List (String × Json)) : Prop where
  name : ("name", .string envelope.name) ∈ fields
  description : HasFieldOr fields "description" none (TellsOption TellsText) envelope.description
  author : HasFieldOr fields "author" none (TellsOption TellsText) envelope.author

/-- The fields of an object describe an exported pack. The list of variables may
    be left out for one without variables. -/
structure DescribedBy (envelope : Envelope) (fields : List (String × Json)) : Prop where
  version : HasField fields "format_version" (TellsInteger 0 4294967295 envelope.version)
  pack : HasField fields "pack" (IsObject envelope.PackDescribedBy)
  templates : HasField fields "templates"
    (TellsList (fun template => IsObject template.DescribedBy) envelope.templates)
  «variables» : HasFieldOr fields "variables" []
    (TellsList fun exported => IsObject exported.DescribedBy) envelope.variables

/-- A pack is read from fields that describe it, defaults included where fields
    are left out. What is written and what is only similar to it are treated
    alike here. -/
theorem ofFields?_of_describedBy {envelope : Envelope} {fields : List (String × Json)}
    (hdistinct : (fields.map Prod.fst).Nodup) (hfields : envelope.DescribedBy fields) :
    ofFields? fields = some envelope := by
  obtain ⟨_, hversion, hnumber⟩ := hfields.version
  obtain ⟨_, hpack, pack, rfl, hnames, hdescribed⟩ := hfields.pack
  obtain ⟨templates, htemplates, hlist⟩ := hfields.templates
  rw [ofFields?, field_eq_of_mem hdistinct hversion, understands_integer? _ _ hnumber,
    field_eq_of_mem hdistinct hpack, field_eq_of_mem hdistinct htemplates,
    ExportedTemplate.understands_ofJson?.items? _ _ hlist,
    ExportedVariable.understands_ofJson?.items?.elim_field? hdistinct hfields.variables]
  simp [fields?, string?, field_eq_of_mem hnames hdescribed.name,
    understands_string?.optional?_field rfl hnames hdescribed.description,
    understands_string?.optional?_field rfl hnames hdescribed.author]

end Envelope

end PromptPacks
