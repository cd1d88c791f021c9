import PromptPacks.Proofs.Store.Copies
import PromptPacks.Proofs.Store.Definitions

namespace PromptPacks

open PromptPacks.Number PromptPacks.Store PromptPacks.Transaction

namespace PackVariable

/-- If each of two rows is shown before the other, they are one row. -/
theorem IsShownBefore.id_eq {a b : PackVariable} (hab : a.IsShownBefore b)
    (hba : b.IsShownBefore a) : a.id = b.id := by
  unfold IsShownBefore at hab hba
  omega

/-- Rows in display order fall into those up to a place and those behind it. A
    new row with this place belongs between them. -/
theorem exists_eq_append_of_pairwise {rows : List PackVariable}
    (hshown : rows.Pairwise IsShownBefore) (place : Int) :
    ∃ low high, rows = low ++ high ∧ (∀ row ∈ low, row.sortOrder ≤ place) ∧
      ∀ row ∈ high, place < row.sortOrder := by
  induction rows with
  | nil => exact ⟨[], [], rfl, by simp, by simp⟩
  | cons row rest ih =>
    obtain ⟨hfirst, hrest⟩ := List.pairwise_cons.1 hshown
    by_cases hplace : row.sortOrder ≤ place
    · obtain ⟨low, high, heq, hlow, hhigh⟩ := ih hrest
      exact ⟨row :: low, high, by rw [heq]; rfl, List.forall_mem_cons.2 ⟨hplace, hlow⟩, hhigh⟩
    · refine ⟨[], row :: rest, rfl, by simp, List.forall_mem_cons.2 ⟨Int.not_le.1 hplace, ?_⟩⟩
      intro other hother
      obtain hlt | ⟨heq, -⟩ := hfirst other hother <;> omega

end PackVariable

namespace Tables

variable {tables : Tables} {packId : Int}

/-- Places and numbers leave no choice in the order of the variables of a pack.
    So any list of them that is in display order is the one that is shown. -/
theorem Valid.variablesOf_eq_of_perm (hvalid : tables.Valid) {rows : List PackVariable}
    (hperm : rows.Perm (tables.variables.filter (·.packId == packId)))
    (hshown : rows.Pairwise PackVariable.IsShownBefore) : tables.variablesOf packId = rows := by
  refine List.Perm.eq_of_pairwise (fun a b ha hb hab hba => ?_) pairwise_variablesOf hshown
    (variablesOf_perm.trans hperm.symm)
  exact List.inj_on_of_nodup_map hvalid.variableIds (mem_variablesOf.1 ha).1
    (List.mem_of_mem_filter (hperm.subset hb)) (hab.id_eq hba)

/-- Every variable of a pack stands before the next place, unless the places are
    used up. -/
theorem sortOrder_lt_nextPlace {row : PackVariable} (hrow : row ∈ tables.variablesOf packId) :
    row.sortOrder < tables.nextPlace packId := by
  have hmem : row.sortOrder ∈
      (tables.variables.filter (·.packId == packId)).map (·.sortOrder) :=
    List.mem_map_of_mem (variablesOf_perm.subset hrow)
  obtain ⟨last, hlast⟩ := Option.isSome_iff_exists.1 (List.isSome_max?_of_mem hmem)
  have hle := (List.max?_eq_some_iff.1 hlast).2 _ hmem
  rw [nextPlace, lastPlace?, hlast]
  exact Int.lt_add_one_of_le hle

/-- A new variable is shown behind those up to its place and before all others,
    as its number is the greatest. -/
theorem Valid.variablesOf_addVariables (hvalid : tables.Valid) {after : Tables}
    {definition : VariableDefinition} {place : Int}
    (hafter : after = tables.addVariables packId [(definition, place)]) (hnext : after.Valid) :
    ∃ low high, tables.variablesOf packId = low ++ high ∧
      after.variablesOf packId = low ++
        .ofDefinition (tables.lastVariable + 1) packId definition place :: high ∧
      (∀ row ∈ low, row.sortOrder ≤ place) ∧ ∀ row ∈ high, place < row.sortOrder := by
  have hshown : (tables.variablesOf packId).Pairwise PackVariable.IsShownBefore :=
    pairwise_variablesOf
  obtain ⟨low, high, heq, hlow, hhigh⟩ := PackVariable.exists_eq_append_of_pairwise hshown place
  refine ⟨low, high, heq, hnext.variablesOf_eq_of_perm ?_ ?_, hlow, hhigh⟩
  · have hrows : after.variables.filter (·.packId == packId) =
        tables.variables.filter (·.packId == packId) ++
          [.ofDefinition (tables.lastVariable + 1) packId definition place] := by
      rw [hafter, Tables.addVariables, List.filter_append]
      simp [PackVariable.numbered, PackVariable.ofDefinition]
    rw [hrows]
    refine List.perm_middle.trans (List.Perm.trans ?_ (List.perm_append_singleton _ _).symm)
    exact (heq ▸ variablesOf_perm).cons _
  · have hold : ∀ row ∈ low ++ high, row.id ≤ tables.lastVariable := fun row hrow =>
      hvalid.variablesCounted row (mem_variablesOf.1 (heq ▸ hrow)).1
    obtain ⟨hlows, hhighs, hacross⟩ := List.pairwise_append.1 (heq ▸ hshown)
    refine List.pairwise_append.2 ⟨hlows, List.pairwise_cons.2 ⟨?_, hhighs⟩, ?_⟩
    · exact fun row hrow => .inl (hhigh row hrow)
    · intro row hrow
      refine List.forall_mem_cons.2 ⟨?_, hacross row hrow⟩
      obtain hlt | heq := Int.lt_or_eq_of_le (hlow row hrow)
      · exact .inl hlt
      · have hcounted := hold row (List.mem_append_left high hrow)
        exact .inr ⟨heq, by simp only [PackVariable.ofDefinition]; omega⟩

/-- A variable that keeps its place is shown where it was. What the order looks
    at is the same in each row and the one that takes its place. -/
theorem Valid.variablesOf_setVariable (hvalid : tables.Valid) {old row : PackVariable}
    (hold : old ∈ tables.variables) (hid : row.id = old.id) (hpack : row.packId = old.packId)
    (hplace : row.sortOrder = old.sortOrder) (hnext : (tables.setVariable row).Valid) :
    (tables.setVariable row).variablesOf packId =
      (tables.variablesOf packId).map fun other => if other.id = row.id then row else other := by
  have hsame : ∀ other ∈ tables.variables, ∀ new,
      new = (if other.id = row.id then row else other) →
        new.id = other.id ∧ new.packId = other.packId ∧ new.sortOrder = other.sortOrder := by
    rintro other hother new rfl
    split
    next heq =>
      obtain rfl := List.inj_on_of_nodup_map hvalid.variableIds hother hold (heq.trans hid)
      exact ⟨hid, hpack, hplace⟩
    next => exact ⟨rfl, rfl, rfl⟩
  refine hnext.variablesOf_eq_of_perm ?_ ?_
  · have hrows : (tables.setVariable row).variables.filter (·.packId == packId) =
        (tables.variables.filter (·.packId == packId)).map
          fun other => if other.id = row.id then row else other := by
      rw [Tables.setVariable, List.filter_map]
      refine congrArg _ (List.filter_congr fun other hother => ?_)
      rw [Function.comp, (hsame other hother _ rfl).2.1]
    rw [hrows]
    exact variablesOf_perm.map _
  · refine List.pairwise_map.2 (pairwise_variablesOf.imp_of_mem fun ha hb hbefore => ?_)
    obtain ⟨hida, -, hplacea⟩ := hsame _ (mem_variablesOf.1 ha).1 _ rfl
    obtain ⟨hidb, -, hplaceb⟩ := hsame _ (mem_variablesOf.1 hb).1 _ rfl
    rwa [PackVariable.IsShownBefore, hida, hidb, hplacea, hplaceb]

/-- The other variables are shown in the same order when some are deleted. -/
theorem Valid.variablesOf_deleteVariables (hvalid : tables.Valid)
    (condition : PackVariable → Bool) :
    (tables.deleteVariables condition).variablesOf packId =
      (tables.variablesOf packId).filter (!condition ·) := by
  refine (hvalid.deleteVariables condition).variablesOf_eq_of_perm ?_
    (pairwise_variablesOf.filter _)
  rw [Tables.deleteVariables, List.filter_comm]
  exact variablesOf_perm.filter _

end Tables

namespace Store

variable {tables after : Tables} {pack : Pack} {row : PackVariable}

/-- A new variable is shown behind all variables up to its place. Among those
    with the same place it is the last one, as it has the greatest number. -/
theorem variables_of_createVariable (hvalid : tables.Valid)
    (hplaces : ∀ other ∈ tables.variables, other.sortOrder ≤ maxInt64)
    (hpack : pack ∈ tables.packs) {definition : VariableDefinition} {sortOrder : Option Int}
    (hrun : createVariable pack.id definition sortOrder tables = .ok (row, after)) :
    row = .ofDefinition row.id pack.id definition
        (sortOrder.getD (tables.nextPlace pack.id)) ∧
      ∃ low high, tables.variablesOf pack.id = low ++ high ∧
        Store.variables pack.id after = .ok (low ++ row :: high, after) ∧
        (∀ other ∈ low, other.sortOrder ≤ sortOrder.getD (tables.nextPlace pack.id)) ∧
        ∀ other ∈ high, sortOrder.getD (tables.nextPlace pack.id) < other.sortOrder := by
  obtain ⟨-, -, -, -, -, -, hrow, hafter, hnext⟩ :=
    (createVariable_spec hvalid hplaces pack.id definition sortOrder).of_ok hrun
  obtain ⟨low, high, heq, hshown, hlow, hhigh⟩ := hvalid.variablesOf_addVariables hafter hnext
  refine ⟨by rw [hrow]; rfl, low, high, heq, ?_, hlow, hhigh⟩
  rw [variables_eq_ok hnext (by rw [hafter]; exact hpack), hshown, hrow]

/-- An update that does not move a variable replaces it in the listing where it
    stands. -/
theorem variables_of_updateVariable (hvalid : tables.Valid) (hpack : pack ∈ tables.packs)
    {owner variableId : Int} {patch : VariablePatch} (hplace : patch.sortOrder = none)
    (hrun : updateVariable owner variableId patch tables = .ok (row, after)) :
    row.id = variableId ∧
      Store.variables pack.id after = .ok ((tables.variablesOf pack.id).map fun other =>
        if other.id = variableId then row else other, after) := by
  obtain ⟨-, -, -, existing, hexisting, howner, -, hrow, hafter, hnext⟩ :=
    (updateVariable_spec hvalid owner variableId patch).of_ok hrun
  obtain ⟨hmem, rfl⟩ := Tables.variableRow?_eq_some hexisting
  have hid : row.id = existing.id := by rw [hrow]; rfl
  have hkept : row.sortOrder = existing.sortOrder := by
    rw [hrow, hplace]
    rfl
  refine ⟨hid, ?_⟩
  rw [variables_eq_ok hnext (by rw [hafter]; exact hpack), hafter,
    hvalid.variablesOf_setVariable hmem hid (by rw [hrow, howner]; rfl) hkept (hafter ▸ hnext),
    hid]

/-- A deletion takes one variable out of the listing and leaves the order of the
    others. -/
theorem variables_of_deleteVariable (hvalid : tables.Valid) (hpack : pack ∈ tables.packs)
    {owner variableId : Int} (hrun : deleteVariable owner variableId tables = .ok ((), after)) :
    Store.variables pack.id after =
      .ok ((tables.variablesOf pack.id).filter (·.id ≠ variableId), after) := by
  obtain ⟨-, -, -, -, -, -, hafter, hnext⟩ :=
    (deleteVariable_spec hvalid owner variableId).of_ok hrun
  rw [variables_eq_ok hnext (by rw [hafter]; exact hpack), hafter,
    hvalid.variablesOf_deleteVariables]
  simp only [decide_not]
  rfl

end Store

/-- How the variables of a pack are shown now and after one more request. What
    is added without a place comes last, and with a place it comes behind all
    variables up to that place. Whatever is changed or deleted, the variables
    that remain stay in their order. -/
structure Tables.KeepsDisplayOrder (tables : Tables) (packId : Int)
    (shown : List PackVariable) : Prop where
  answers : Store.variables packId tables = .ok (shown, tables)
  appends : ∀ definition row after,
    createVariable packId definition none tables = .ok (row, after) →
      row = .ofDefinition row.id packId definition row.sortOrder ∧
      Store.variables packId after = .ok (shown ++ [row], after)
  inserts : ∀ definition place row after,
    createVariable packId definition (some place) tables = .ok (row, after) →
      row = .ofDefinition row.id packId definition place ∧
      ∃ low high, shown = low ++ high ∧
        Store.variables packId after = .ok (low ++ row :: high, after) ∧
        (∀ other ∈ low, other.sortOrder ≤ place) ∧ ∀ other ∈ high, place < other.sortOrder
  updates : ∀ owner variableId patch row after, patch.sortOrder = none →
    updateVariable owner variableId patch tables = .ok (row, after) →
      row.id = variableId ∧
      Store.variables packId after =
        .ok (shown.map fun other => if other.id = variableId then row else other, after)
  deletes : ∀ owner variableId after,
    deleteVariable owner variableId tables = .ok ((), after) →
      Store.variables packId after = .ok (shown.filter (·.id ≠ variableId), after)

namespace Reachable

variable {registry : Registry} {tables : Tables} {pack : Pack}

/-- What each operation does to the listing of variables, for every store and
    every pack. Without a place a new variable comes last: nothing stands behind
    the next place. -/
theorem keepsDisplayOrder (hreachable : Reachable registry tables) (hpack : pack ∈ tables.packs) :
    ∃ shown, tables.KeepsDisplayOrder pack.id shown := by
  have hvalid := hreachable.valid
  have hplaces : ∀ row ∈ tables.variables, row.sortOrder ≤ maxInt64 :=
    fun row hrow => (hreachable.sound.places row hrow).2
  refine ⟨tables.variablesOf pack.id, variables_eq_ok hvalid hpack, ?_, ?_, ?_, ?_⟩
  · intro definition row after hrun
    obtain ⟨hrow, low, high, heq, hshown, -, hhigh⟩ :=
      variables_of_createVariable hvalid hplaces hpack hrun
    obtain rfl : high = [] := List.eq_nil_iff_forall_not_mem.2 fun other hother =>
      absurd (hhigh other hother) (Int.not_lt.2 (Int.le_of_lt
        (Tables.sortOrder_lt_nextPlace (heq ▸ List.mem_append_right low hother))))
    refine ⟨by rw [hrow]; rfl, ?_⟩
    rw [hshown, heq, List.append_nil]
  · exact fun _ _ _ _ => variables_of_createVariable hvalid hplaces hpack
  · exact fun _ _ _ _ _ => variables_of_updateVariable hvalid hpack
  · exact fun _ _ _ => variables_of_deleteVariable hvalid hpack

/-- A variable with the place of another one is shown behind it, and before the
    one at the greatest place. -/
theorem keepsDisplayOrder_seasonalTale : ∃ shown row after low high,
    Store.variables 2 seasonalTale = .ok (shown, seasonalTale) ∧
      createVariable 2 mood (some 0) seasonalTale = .ok (row, after) ∧
      shown = low ++ high ∧ Store.variables 2 after = .ok (low ++ row :: high, after) ∧
      "season" ∈ low.map (·.name) ∧ "weather" ∈ high.map (·.name) := by
  obtain ⟨pack, hpack, hid⟩ : ∃ pack ∈ seasonalTale.packs, pack.id = 2 := by decide +kernel
  obtain ⟨shown, hkeeps⟩ := reachable_seasonalTale.keepsDisplayOrder hpack
  rw [hid] at hkeeps
  have hcreates : (createVariable 2 mood (some 0) seasonalTale).isOk = true := by decide +kernel
  obtain ⟨row, after, hrun⟩ := exists_eq_ok_of_isOk hcreates
  obtain ⟨-, low, high, heq, hshown, hlow, hhigh⟩ := hkeeps.inserts mood 0 row after hrun
  have hmem : ∀ other ∈ seasonalTale.variables, other.packId = 2 → other ∈ low ++ high := by
    intro other hother howner
    have hanswers := hkeeps.answers
    rw [← hid, variables_eq_ok reachable_seasonalTale.valid hpack, hid] at hanswers
    cases hanswers
    exact heq ▸ Tables.mem_variablesOf.2 ⟨hother, howner⟩
  refine ⟨shown, row, after, low, high, hkeeps.answers, hrun, heq, hshown, ?_, ?_⟩
  · obtain ⟨other, hother, howner, hname, hplace⟩ : ∃ other ∈ seasonalTale.variables,
        other.packId = 2 ∧ other.name = "season" ∧ other.sortOrder = 0 := by decide +kernel
    obtain hmem | hmem := List.mem_append.1 (hmem other hother howner)
    · exact List.mem_map.2 ⟨other, hmem, hname⟩
    · exact absurd (hhigh other hmem) (by omega)
  · obtain ⟨other, hother, howner, hname, hplace⟩ : ∃ other ∈ seasonalTale.variables,
        other.packId = 2 ∧ other.name = "weather" ∧ 0 < other.sortOrder := by decide +kernel
    obtain hmem | hmem := List.mem_append.1 (hmem other hother howner)
    · exact absurd (hlow other hmem) (by omega)
    · exact List.mem_map.2 ⟨other, hmem, hname⟩

end Reachable

end PromptPacks
