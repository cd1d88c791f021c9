import PromptPacks.Proofs.Store.Definitions

namespace PromptPacks

open PromptPacks.Store PromptPacks.Transaction

/-- What becomes of a field: it takes the value that is given, or it stays if
    none is. -/
inductive Revised {α : Type} : Option α → α → α → Prop
  | given (old new : α) : Revised (some new) old new
  | kept (old : α) : Revised none old old

/-- A field is revised to the given value, or it stays. -/
theorem revised_iff {α : Type} {given : Option α} {old new : α} :
    Revised given old new ↔ new = given.getD old := by
  constructor
  · rintro (_ | _) <;> rfl
  · rintro rfl
    cases given with
    | none => exact .kept old
    | some value => exact .given old value

namespace Store.VariablePatch

/-- A patch turns one definition into another, field by field. What it gives for
    an optional field may be that the field has no value. -/
structure Revises (patch : VariablePatch) (old new : VariableDefinition) : Prop where
  name : Revised patch.name old.name new.name
  displayName : Revised patch.displayName old.displayName new.displayName
  type : Revised patch.type old.type new.type
  category : new.category = old.category
  required : Revised patch.required old.required new.required
  defaultValue : Revised patch.defaultValue old.defaultValue new.defaultValue
  options : Revised patch.options old.options new.options
  description : Revised patch.description old.description new.description

/-- The definition that a patch leads to is determined field by field, so there
    is just one. -/
theorem revises_iff {patch : VariablePatch} {old new : VariableDefinition} :
    patch.Revises old new ↔ new = patch.apply old := by
  constructor
  · intro hrevises
    obtain ⟨name, displayName, type, category, required, defaultValue, options, description⟩ := new
    simp only [apply, VariableDefinition.mk.injEq]
    exact ⟨revised_iff.1 hrevises.name, revised_iff.1 hrevises.displayName,
      revised_iff.1 hrevises.type, hrevises.category, revised_iff.1 hrevises.required,
      revised_iff.1 hrevises.defaultValue, revised_iff.1 hrevises.options,
      revised_iff.1 hrevises.description⟩
  · rintro rfl
    constructor <;> simp [revised_iff, apply]

/-- Two patches in one: each field is taken from the later one if it is given
    there. -/
def followedBy (earlier later : VariablePatch) : VariablePatch where
  name := later.name.or earlier.name
  displayName := later.displayName.or earlier.displayName
  type := later.type.or earlier.type
  required := later.required.or earlier.required
  defaultValue := later.defaultValue.or earlier.defaultValue
  options := later.options.or earlier.options
  description := later.description.or earlier.description
  sortOrder := later.sortOrder.or earlier.sortOrder

end Store.VariablePatch

namespace PackVariable

/-- The row that an update leaves under the number of a variable. -/
def patched (row : PackVariable) (patch : VariablePatch) : PackVariable :=
  .ofDefinition row.id row.packId (patch.apply row.definition) (patch.sortOrder.getD row.sortOrder)

/-- A patch does not change the number of a variable. -/
@[simp]
theorem id_patched (row : PackVariable) (patch : VariablePatch) : (row.patched patch).id = row.id :=
  rfl

/-- The row of a patched variable has the patched definition. -/
@[simp]
theorem definition_patched (row : PackVariable) (patch : VariablePatch) :
    (row.patched patch).definition = patch.apply row.definition :=
  rfl

/-- Two patches one after the other are one patch, on rows. -/
theorem patched_followedBy (row : PackVariable) (earlier later : VariablePatch) :
    row.patched (earlier.followedBy later) = (row.patched earlier).patched later := by
  simp [patched, ofDefinition, definition, VariablePatch.apply, VariablePatch.followedBy,
    Option.getD_or]

end PackVariable

namespace Tables

/-- A variable of a pack can be patched: the patched definition has no fault,
    and no other variable of the pack has its name. -/
structure AdmitsPatch (tables : Tables) (packId variableId : Int) (patch : VariablePatch)
    (old : PackVariable) (new : VariableDefinition) : Prop where
  isStored : old ∈ tables.variables
  hasNumber : old.id = variableId
  hasOwner : old.packId = packId
  revises : patch.Revises old.definition new
  isAccepted : new.check = .ok ()
  isFree : ∀ other ∈ tables.variables,
    other.packId = packId → other.name = new.name → other.id = variableId

/-- A variable has been patched. It keeps its number and its pack, and all other
    rows are as before. -/
structure IsPatched (tables : Tables) (packId variableId : Int) (patch : VariablePatch)
    (row : PackVariable) (after : Tables) : Prop where
  revises : ∃ old ∈ tables.variables, old.id = variableId ∧
    patch.Revises old.definition row.definition ∧
      Revised patch.sortOrder old.sortOrder row.sortOrder
  hasNumber : row.id = variableId
  hasOwner : row.packId = packId
  written : after.variables.filter (·.id = variableId) = [row]
  others : after.variables.filter (·.id ≠ variableId) =
    tables.variables.filter (·.id ≠ variableId)
  packs : after.packs = tables.packs
  templates : after.templates = tables.templates
  stories : after.stories = tables.stories

variable {tables : Tables} {old row : PackVariable} {packId variableId : Int}
  {patch earlier later : VariablePatch} {new : VariableDefinition}

/-- Of two new rows for one variable the last one stays. -/
theorem setVariable_setVariable {last : PackVariable} (hid : last.id = row.id) :
    (tables.setVariable row).setVariable last = tables.setVariable last := by
  simp only [setVariable, List.map_map, hid]
  congr 1
  refine List.map_congr_left fun other _ => ?_
  by_cases heq : other.id = row.id <;> simp [heq]

/-- A name that no other variable of the pack has leads to no other key. -/
theorem AdmitsPatch.id_eq_of_key (hadmits : tables.AdmitsPatch packId variableId patch old new) :
    ∀ other ∈ tables.variables, other.key = (old.patched patch).key → other.id = old.id := by
  intro other hother hkey
  obtain ⟨howner, hname⟩ := Prod.mk.inj hkey
  rw [hadmits.hasNumber]
  refine hadmits.isFree other hother (howner.trans hadmits.hasOwner) (hname.trans ?_)
  rw [VariablePatch.revises_iff.1 hadmits.revises]
  rfl

/-- Replacing the row of a variable changes this row and nothing else. That no
    two rows have the same number is needed for it. -/
theorem Valid.isPatched_setVariable (hvalid : tables.Valid) (hold : old ∈ tables.variables) :
    tables.IsPatched old.packId old.id patch (old.patched patch)
      (tables.setVariable (old.patched patch)) where
  revises := ⟨old, hold, rfl, VariablePatch.revises_iff.2 rfl, revised_iff.2 rfl⟩
  hasNumber := rfl
  hasOwner := rfl
  written := by
    have hkeys : ((tables.setVariable (old.patched patch)).variables.map (·.id)).Nodup := by
      have hsame := Rows.map_key_replace (·.id) (old.patched patch) tables.variables
      exact hsame ▸ hvalid.variableIds
    exact Rows.filter_key_eq_singleton hkeys
      (mem_variables_setVariable.2 (.inl ⟨rfl, old, hold, rfl⟩))
  others := by
    refine Rows.filter_replace (fun other _ hid => ?_) ?_
    · simpa using hid
    · simp
  packs := rfl
  templates := rfl
  stories := rfl

end Tables

namespace Store

variable {tables after : Tables} {pack : Pack} {old row : PackVariable} {variableId : Int}
  {patch : VariablePatch} {new : VariableDefinition}

/-- Nothing else stands in the way of an update: the conditions are sufficient. -/
theorem updateVariable_of_admitsPatch (hvalid : tables.Valid) (hpack : pack ∈ tables.packs)
    (heditable : pack.isDefault = false)
    (hadmits : tables.AdmitsPatch pack.id variableId patch old new) :
    updateVariable pack.id variableId patch tables =
      .ok (old.patched patch, tables.setVariable (old.patched patch)) := by
  have haccepted := hadmits.isAccepted
  rw [VariablePatch.revises_iff.1 hadmits.revises] at haccepted
  rw [← hadmits.hasNumber]
  refine updateVariable_eq_ok hvalid hpack heditable hadmits.isStored hadmits.hasOwner haccepted ?_
    hadmits.id_eq_of_key
  rw [← hadmits.hasOwner]
  rfl

/-- The conditions are necessary as well. Another variable with the new name
    would stand beside the row, which the constraints exclude. -/
theorem admitsPatch_of_updateVariable (hvalid : tables.Valid)
    (hrun : updateVariable pack.id variableId patch tables = .ok (row, after)) :
    after.Valid ∧ ∃ old,
      tables.AdmitsPatch pack.id variableId patch old (patch.apply old.definition) ∧
        row = old.patched patch ∧ after = tables.setVariable row := by
  obtain ⟨-, -, -, old, hfound, howner, haccepted, hrow, hafter, hnext⟩ :=
    (updateVariable_spec hvalid pack.id variableId patch).of_ok hrun
  obtain ⟨hold, hid⟩ := Tables.variableRow?_eq_some hfound
  refine ⟨hnext, old, ⟨hold, hid, howner, VariablePatch.revises_iff.2 rfl, haccepted, ?_⟩,
    by rw [hrow, ← howner]; rfl, hafter⟩
  intro other hother hpack hname
  by_contra hne
  have hrowId : row.id = variableId := by rw [hrow, ← hid]; rfl
  have hkept : other ∈ after.variables := by
    rw [hafter]
    exact Tables.mem_variables_setVariable.2 (.inr ⟨hother, hrowId ▸ hne⟩)
  have hwritten : row ∈ after.variables := by
    rw [hafter]
    exact Tables.mem_variables_setVariable.2 (.inl ⟨rfl, old, hold, hid.trans hrowId.symm⟩)
  have hkey : other.key = row.key := by
    rw [PackVariable.key, hpack, hname, hrow]
    rfl
  exact hne (List.inj_on_of_nodup_map hnext.variableKeys hkept hwritten hkey ▸ hrowId)

/-- Two updates one after the other come to the same as one update with both
    patches. The converse does not hold, as the definition in the middle has to
    pass, too. -/
theorem updateVariable_followedBy (hvalid : tables.Valid) (hpack : pack ∈ tables.packs)
    (heditable : pack.isDefault = false) {earlier later : VariablePatch} {first last : PackVariable}
    {middle : Tables}
    (hfirst : updateVariable pack.id variableId earlier tables = .ok (first, middle))
    (hlast : updateVariable pack.id variableId later middle = .ok (last, after)) :
    updateVariable pack.id variableId (earlier.followedBy later) tables = .ok (last, after) := by
  obtain ⟨hmiddle, old, hadmits, hrow, hset⟩ := admitsPatch_of_updateVariable hvalid hfirst
  obtain ⟨-, stored, hagain, hlastrow, hreset⟩ := admitsPatch_of_updateVariable hmiddle hlast
  have hid : first.id = variableId := by rw [hrow, PackVariable.id_patched, hadmits.hasNumber]
  obtain rfl : stored = first := by
    have hmem := hagain.isStored
    rw [hset, Tables.mem_variables_setVariable] at hmem
    obtain ⟨heq, -⟩ | ⟨-, hne⟩ := hmem
    · exact heq
    · exact absurd (hagain.hasNumber.trans hid.symm) hne
  have hboth : old.patched (earlier.followedBy later) = last := by
    rw [PackVariable.patched_followedBy, ← hrow, ← hlastrow]
  have hadmitsBoth : tables.AdmitsPatch pack.id variableId (earlier.followedBy later) old
      (later.apply stored.definition) := {
    isStored := hadmits.isStored
    hasNumber := hadmits.hasNumber
    hasOwner := hadmits.hasOwner
    revises := by
      rw [VariablePatch.revises_iff, ← PackVariable.definition_patched old, hboth, hlastrow,
        PackVariable.definition_patched]
    isAccepted := hagain.isAccepted
    isFree := fun other hother howner hname => by
      by_contra hne
      have hkept : other ∈ middle.variables := by
        rw [hset]
        exact Tables.mem_variables_setVariable.2 (.inr ⟨hother, hid.symm ▸ hne⟩)
      exact hne (hagain.isFree other hkept howner hname) }
  have hsame : last.id = stored.id := by rw [hlastrow, PackVariable.id_patched]
  rw [updateVariable_of_admitsPatch hvalid hpack heditable hadmitsBoth, hboth, hreset, hset,
    Tables.setVariable_setVariable hsame]

end Store

namespace Reachable

variable {registry : Registry} {tables : Tables} {pack : Pack}

/-- An update of a variable succeeds exactly if the variable belongs to the
    pack, the patched definition has no fault and no other variable of the pack
    has its name. It writes the patched definition and the place into the row of
    the variable and leaves all other rows as they are. Two updates one after
    the other leave the same tables as one with both patches, of which the later
    one has precedence. -/
theorem updateVariable_patches (hreachable : Reachable registry tables)
    (hpack : pack ∈ tables.packs) (heditable : pack.isDefault = false) (variableId : Int) :
    (∀ patch, (∃ row after,
        updateVariable pack.id variableId patch tables = .ok (row, after)) ↔
      ∃ old new, tables.AdmitsPatch pack.id variableId patch old new) ∧
    (∀ patch row after, updateVariable pack.id variableId patch tables = .ok (row, after) →
      tables.IsPatched pack.id variableId patch row after) ∧
    ∀ earlier later first last middle after,
      updateVariable pack.id variableId earlier tables = .ok (first, middle) →
      updateVariable pack.id variableId later middle = .ok (last, after) →
        updateVariable pack.id variableId (earlier.followedBy later) tables =
          .ok (last, after) := by
  have hvalid := hreachable.valid
  refine ⟨fun patch => ⟨?_, ?_⟩, fun patch row after hrun => ?_, ?_⟩
  · rintro ⟨row, after, hrun⟩
    obtain ⟨-, old, hadmits, -⟩ := admitsPatch_of_updateVariable hvalid hrun
    exact ⟨old, _, hadmits⟩
  · rintro ⟨old, new, hadmits⟩
    exact ⟨_, _, updateVariable_of_admitsPatch hvalid hpack heditable hadmits⟩
  · obtain ⟨-, old, hadmits, rfl, rfl⟩ := admitsPatch_of_updateVariable hvalid hrun
    rw [← hadmits.hasNumber, ← hadmits.hasOwner]
    exact hvalid.isPatched_setVariable hadmits.isStored
  · exact fun _ _ _ _ _ _ => updateVariable_followedBy hvalid hpack heditable

/-- The patch that clears the default value of a variable. -/
def clearDefault : VariablePatch :=
  { VariablePatch.unchanged with defaultValue := some none }

/-- The patch that gives another name to a variable. -/
def giveName : VariablePatch :=
  { VariablePatch.unchanged with name := some "time" }

/-- The default value of a variable is taken away and the variable renamed, in
    one update. -/
theorem updateVariable_patches_seasonalTale : ∃ row after,
    updateVariable 2 2 (clearDefault.followedBy giveName) seasonalTale = .ok (row, after) ∧
      row.definition = { season with name := "time", defaultValue := none } ∧
      row.sortOrder = 0 := by
  obtain ⟨pack, hpack, hid, heditable⟩ : ∃ pack ∈ seasonalTale.packs, pack.id = 2 ∧
      pack.isDefault = false := by decide +kernel
  have hstored : ∀ old ∈ seasonalTale.variables, old.id = 2 →
      old.definition = season ∧ old.sortOrder = 0 := by decide +kernel
  have hclears : (updateVariable 2 2 clearDefault seasonalTale).isOk = true := by decide +kernel
  have hboth : ((updateVariable 2 2 clearDefault >>= fun _ => updateVariable 2 2 giveName)
      seasonalTale).isOk = true := by decide +kernel
  obtain ⟨-, hpatched, htwice⟩ := reachable_seasonalTale.updateVariable_patches hpack heditable 2
  rw [hid] at hpatched htwice
  obtain ⟨first, middle, hfirst⟩ := exists_eq_ok_of_isOk hclears
  rw [bind_eq_of_ok hfirst] at hboth
  obtain ⟨last, after, hlast⟩ := exists_eq_ok_of_isOk hboth
  have hrun := htwice clearDefault giveName first last middle after hfirst hlast
  obtain ⟨old, hold, hnumber, hrevises, hplace⟩ := (hpatched _ _ _ hrun).revises
  obtain ⟨hdefinition, hzero⟩ := hstored old hold hnumber
  refine ⟨last, after, hrun, ?_, ?_⟩
  · rw [VariablePatch.revises_iff.1 hrevises, hdefinition]
    rfl
  · rw [revised_iff.1 hplace]
    exact hzero

end Reachable

end PromptPacks
