import PromptPacks.Proofs.Store.Guards
import PromptPacks.Proofs.Store.VariableRows

namespace PromptPacks

open PromptPacks.Number

namespace Tables

/-- All rules accept a new variable at the end of a pack, but another one stands
    at the greatest place already. -/
structure LacksPlace (tables : Tables) (packId : Int) (definition : VariableDefinition) :
    Prop where
  isEditable : ∃ pack, tables.pack? packId = some pack ∧ pack.isDefault = false
  isAccepted : definition.check = .ok ()
  isFree : tables.variableNamed? packId definition.name = none
  isExhausted : tables.lastPlace? packId = some maxInt64

def nextPlace (tables : Tables) (packId : Int) : Int :=
  ((tables.lastPlace? packId).map (· + 1)).getD 0

/-- The tables with other values in the row of a variable. -/
def setVariable (tables : Tables) (row : PackVariable) : Tables :=
  { tables with
    «variables» := tables.variables.map fun other => if other.id = row.id then row else other }

variable {tables : Tables} {row : PackVariable}

/-- Where a place is lacking, the one behind all variables is beyond the
    greatest number. -/
theorem LacksPlace.maxInt64_lt_nextPlace {packId : Int} {definition : VariableDefinition}
    (hlacks : tables.LacksPlace packId definition) : maxInt64 < tables.nextPlace packId := by
  rw [nextPlace, hlacks.isExhausted]
  decide

/-- A variable may have a name that no other variable of its pack has. -/
theorem replaceVariable?_of_free
    (hfree : ∀ other ∈ tables.variables, other.key = row.key → other.id = row.id) :
    tables.replaceVariable? row = some (tables.setVariable row) := by
  have hnone : (tables.variables.any fun other =>
      other.packId == row.packId && other.name == row.name && other.id != row.id) = false := by
    simpa [PackVariable.key, and_imp] using hfree
  rw [replaceVariable?, contains_storedTypes, hnone]
  simp [setVariable]

/-- A variable after a replacement is the new row or an old one with another
    number. -/
theorem mem_variables_setVariable {other : PackVariable} :
    other ∈ (tables.setVariable row).variables ↔
      (other = row ∧ ∃ old ∈ tables.variables, old.id = row.id) ∨
        (other ∈ tables.variables ∧ other.id ≠ row.id) :=
  Rows.mem_replace_iff

/-- Replacing a variable by one with a free name keeps the constraints. -/
theorem Valid.setVariable (hvalid : tables.Valid) {old : PackVariable}
    (hold : old ∈ tables.variables) (hid : row.id = old.id) (hpack : row.packId = old.packId)
    (hfree : ∀ other ∈ tables.variables, other.key = row.key → other.id = row.id) :
    (tables.setVariable row).Valid := by
  refine hvalid.replaceVariable? (replaceVariable?_of_free hfree) fun other hother heq => ?_
  rw [List.inj_on_of_nodup_map hvalid.variableIds hother hold (heq.trans hid), hpack]

end Tables

namespace Store

open Transaction

variable {tables : Tables}

/-- The place after all variables exists unless the last one stands at the
    greatest place. -/
theorem outcome_nextPlace {packId : Int} {failure : StoreFailure → Prop}
    {success : Int → Tables → Prop}
    (hplaces : ∀ row ∈ tables.variables, row.sortOrder ≤ maxInt64)
    (hfailure : tables.lastPlace? packId = some maxInt64 → failure .storage)
    (hsuccess : tables.nextPlace packId ≤ maxInt64 → success (tables.nextPlace packId) tables) :
    (nextPlace packId).Outcome tables failure success := by
  unfold Tables.nextPlace at hsuccess
  rw [nextPlace, outcome_bind, outcome_ask]
  cases hplace : tables.lastPlace? packId with
  | none =>
    rw [hplace] at hsuccess
    exact hsuccess (by decide)
  | some place =>
    rw [hplace] at hfailure hsuccess
    rw [outcome_ite]
    refine ⟨fun hlt => hsuccess (Int.add_one_le_of_lt hlt), fun hle => hfailure ?_⟩
    obtain ⟨row, hrow, rfl⟩ := List.mem_map.1 (List.max?_mem hplace)
    have hbound := hplaces row (List.mem_filter.1 hrow).1
    exact congrArg some (Int.le_antisymm hbound (Int.not_lt.1 hle))

/-- A new variable stands at the given place or after all others. The tables
    lack a place for it only if the last one is the greatest of all. -/
theorem createVariable_spec (hvalid : tables.Valid)
    (hplaces : ∀ row ∈ tables.variables, row.sortOrder ≤ maxInt64) (packId : Int)
    (definition : VariableDefinition) (sortOrder : Option Int) :
    (createVariable packId definition sortOrder).Outcome tables
      (fun reason => reason = .storage ↔ sortOrder = none ∧ tables.LacksPlace packId definition)
      fun row after => ∃ pack, tables.pack? packId = some pack ∧ pack.isDefault = false ∧
        definition.check = .ok () ∧ tables.variableNamed? packId definition.name = none ∧
        (sortOrder = none → tables.nextPlace packId ≤ maxInt64) ∧
        row = .ofDefinition (tables.lastVariable + 1) packId definition
          (sortOrder.getD (tables.nextPlace packId)) ∧
        after = tables.addVariables packId
          [(definition, sortOrder.getD (tables.nextPlace packId))] ∧
        after.Valid := by
  rw [createVariable, outcome_bind, outcome_requireEditable]
  refine ⟨fun hpack => ?_, fun pack hpack => ⟨fun hdefault => ?_, fun hdefault => ?_⟩⟩
  · simp only [reduceCtorEq, false_iff]
    rintro ⟨-, ⟨pack, hsome, -⟩, -⟩
    rw [hpack] at hsome
    cases hsome
  · simp only [reduceCtorEq, false_iff]
    rintro ⟨-, ⟨other, hsome, hother⟩, -⟩
    rw [hpack, Option.some.injEq] at hsome
    rw [hsome, hother] at hdefault
    cases hdefault
  rw [outcome_bind, outcome_accept]
  refine ⟨fun refusal herror => ?_, fun haccepted => ?_⟩
  · simp only [reduceCtorEq, false_iff]
    rintro ⟨-, -, haccepted, -⟩
    rw [herror] at haccepted
    cases haccepted
  rw [outcome_bind, outcome_requireFreeVariable]
  refine ⟨fun hused => ?_, fun hfree => ?_⟩
  · simp only [reduceCtorEq, false_iff]
    rintro ⟨-, -, -, hfree, -⟩
    exact hused hfree
  have hhas := Tables.hasPack_of_pack?_eq_some hpack
  have hadded : ∀ place, (tables.addVariables packId [(definition, place)]).Valid :=
    fun place => hvalid.addVariables hhas (by simp) (by simpa using hfree)
  cases sortOrder with
  | some place =>
    refine (outcome_add_insertVariable? hhas hfree).2 ?_
    exact ⟨pack, hpack, hdefault, haccepted, hfree, by simp, rfl, rfl, hadded place⟩
  | none =>
    rw [outcome_bind]
    refine outcome_nextPlace hplaces (fun hexhausted => ?_) fun hplace => ?_
    · simpa using ⟨⟨pack, hpack, hdefault⟩, haccepted, hfree, hexhausted⟩
    · refine (outcome_add_insertVariable? hhas hfree).2 ?_
      exact ⟨pack, hpack, hdefault, haccepted, hfree, fun _ => hplace, rfl, rfl, hadded _⟩

/-- Writing the row of a variable cannot fail if no other variable of its pack
    has its name. -/
theorem outcome_writeVariable {row : PackVariable}
    (hfree : ∀ other ∈ tables.variables, other.key = row.key → other.id = row.id)
    {success : PackVariable → Tables → Prop} (hsuccess : success row (tables.setVariable row)) :
    (do
      change (·.replaceVariable? row)
      return row : Transaction PackVariable).Outcome tables (· ≠ .storage) success := by
  simp only [outcome_bind, outcome_change, outcome_pure, Tables.replaceVariable?_of_free hfree]
  simpa using hsuccess

/-- A change of a variable concerns its own row only. A new name must be free in
    the pack, and the definition that results has to pass as a whole. -/
theorem updateVariable_spec (hvalid : tables.Valid) (packId variableId : Int)
    (patch : VariablePatch) :
    (updateVariable packId variableId patch).Outcome tables (· ≠ .storage) fun row after =>
      ∃ pack, tables.pack? packId = some pack ∧ pack.isDefault = false ∧
        ∃ existing, tables.variableRow? variableId = some existing ∧ existing.packId = packId ∧
          (patch.apply existing.definition).check = .ok () ∧
          row = .ofDefinition existing.id packId (patch.apply existing.definition)
            (patch.sortOrder.getD existing.sortOrder) ∧
          after = tables.setVariable row ∧ after.Valid := by
  rw [updateVariable, outcome_bind, outcome_requireEditable]
  refine ⟨by simp, fun pack hpack => ⟨by simp, fun hdefault => ?_⟩⟩
  rw [outcome_bind]
  refine outcome_requireVariable (by simp) fun existing hexisting howner => ?_
  obtain ⟨hmem, -⟩ := Tables.variableRow?_eq_some hexisting
  rw [readDefinition_eq_pure, pure_bind, outcome_bind, outcome_accept]
  refine ⟨by simp, fun haccepted => ?_⟩
  rw [outcome_ite]
  refine ⟨fun hname => ?_, fun hname => ?_⟩
  · rw [outcome_bind, outcome_requireFreeVariable]
    refine ⟨by simp, fun hunused => ?_⟩
    have hfree : ∀ other ∈ tables.variables,
        other.key = (packId, (patch.apply existing.definition).name) → other.id = existing.id :=
      fun other hother hkey => absurd hkey (Tables.variableNamed?_eq_none.1 hunused other hother)
    refine outcome_writeVariable ?_ ?_
    · exact hfree
    · exact ⟨pack, hpack, hdefault, existing, hexisting, howner, haccepted, rfl, rfl,
        hvalid.setVariable hmem rfl howner.symm hfree⟩
  · rw [ne_eq, not_not] at hname
    have hfree : ∀ other ∈ tables.variables,
        other.key = (packId, (patch.apply existing.definition).name) →
          other.id = existing.id := by
      intro other hother hkey
      rw [hname, ← howner] at hkey
      rw [List.inj_on_of_nodup_map hvalid.variableKeys hother hmem hkey]
    refine outcome_writeVariable ?_ ?_
    · exact hfree
    · exact ⟨pack, hpack, hdefault, existing, hexisting, howner, haccepted, rfl, rfl,
        hvalid.setVariable hmem rfl howner.symm hfree⟩

/-- A variable is updated if the changed definition has no fault and no other
    variable of the pack has its name. The name is looked up only if it is a new
    one, and then no variable has it. -/
theorem updateVariable_eq_ok (hvalid : tables.Valid) {pack : Pack} (hpack : pack ∈ tables.packs)
    (heditable : pack.isDefault = false) {old row : PackVariable} (hold : old ∈ tables.variables)
    (howner : old.packId = pack.id) {patch : VariablePatch}
    (haccepted : (patch.apply old.definition).check = .ok ())
    (hrow : row = .ofDefinition old.id pack.id (patch.apply old.definition)
      (patch.sortOrder.getD old.sortOrder))
    (hfree : ∀ other ∈ tables.variables, other.key = row.key → other.id = row.id) :
    updateVariable pack.id old.id patch tables = .ok (row, tables.setVariable row) := by
  have hfound : tables.variableRow? old.id = some old :=
    Rows.find?_eq_some_of_nodup hvalid.variableIds hold fun other _ => by simp
  have hedit : requireEditable pack.id tables = .ok (pack, tables) := by
    apply Outcome.eq_ok
    rw [outcome_requireEditable_of_pack? (hvalid.pack?_of_mem hpack) heditable]
    exact ⟨rfl, rfl⟩
  have hreplace := Tables.replaceVariable?_of_free hfree
  rw [updateVariable, bind_eq_of_ok hedit, bind_eq_of_ok (requireVariable_eq_ok hfound howner),
    readDefinition_eq_pure, pure_bind]
  apply Outcome.eq_ok
  simp only [← hrow, outcome_bind, outcome_accept, outcome_ite, outcome_requireFreeVariable,
    outcome_change, outcome_pure, hreplace]
  refine ⟨fun refusal hrefusal => ?_, fun _ => ⟨fun hname => ⟨fun hused => hused ?_, ?_⟩, ?_⟩⟩
  · cases haccepted.symm.trans hrefusal
  · refine Tables.variableNamed?_eq_none.2 fun other hother hkey => hname ?_
    have hid : other.id = old.id := by
      rw [hfree other hother (by rw [hkey, hrow]; rfl), hrow]
      rfl
    obtain rfl := List.inj_on_of_nodup_map hvalid.variableIds hother hold hid
    exact (congrArg Prod.snd hkey).symm
  · simp
  · simp

/-- A variable is deleted from the pack that it belongs to. That templates may
    still need it is not looked at. -/
theorem deleteVariable_spec (hvalid : tables.Valid) (packId variableId : Int) :
    (deleteVariable packId variableId).Outcome tables (· ≠ .storage) fun _ after =>
      ∃ pack, tables.pack? packId = some pack ∧ pack.isDefault = false ∧
        ∃ existing, tables.variableRow? variableId = some existing ∧ existing.packId = packId ∧
          after = tables.deleteVariables (·.id == variableId) ∧ after.Valid := by
  rw [deleteVariable, outcome_bind, outcome_requireEditable]
  refine ⟨by simp, fun pack hpack => ⟨by simp, fun hdefault => ?_⟩⟩
  rw [outcome_bind]
  refine outcome_requireVariable (by simp) fun existing hexisting howner => ?_
  exact ⟨pack, hpack, hdefault, existing, hexisting, howner, rfl, hvalid.deleteVariables _⟩

end Store

end PromptPacks
