import PromptPacks.Proofs.Store.Outcome
import PromptPacks.Proofs.Store.Validity
import PromptPacks.Store.Templates

namespace PromptPacks

/-- The template of another pack with the content of a given one. -/
def PackTemplate.moved (row : PackTemplate) (packId : Int) : PackTemplate :=
  { row with packId }

namespace Tables

/-- The tables with a template in its pack, in place of the one with the same
    identifier if there is one. -/
def put (tables : Tables) (row : PackTemplate) : Tables :=
  { tables with templates :=
      if row.key ∈ tables.templates.map PackTemplate.key then
        tables.templates.map fun other => if other.key = row.key then row else other
      else tables.templates ++ [row] }

/-- The tables with some templates in their packs, put there one after the
    other. -/
def putAll (tables : Tables) (rows : List PackTemplate) : Tables :=
  rows.foldl put tables

section

variable {tables : Tables} (row : PackTemplate) (rows : List PackTemplate)

@[simp]
theorem packs_put : (tables.put row).packs = tables.packs := rfl

@[simp]
theorem variables_put : (tables.put row).variables = tables.variables := rfl

@[simp]
theorem stories_put : (tables.put row).stories = tables.stories := rfl

@[simp]
theorem lastPack_put : (tables.put row).lastPack = tables.lastPack := rfl

@[simp]
theorem lastVariable_put : (tables.put row).lastVariable = tables.lastVariable := rfl

@[simp]
theorem lastStory_put : (tables.put row).lastStory = tables.lastStory := rfl

@[simp]
theorem putAll_nil : tables.putAll [] = tables := rfl

@[simp]
theorem putAll_cons : tables.putAll (row :: rows) = (tables.put row).putAll rows := rfl

/-- Templates can be put in two parts. -/
theorem putAll_append (more : List PackTemplate) :
    tables.putAll (rows ++ more) = (tables.putAll rows).putAll more :=
  List.foldl_append

@[simp]
theorem packs_putAll : (tables.putAll rows).packs = tables.packs := by
  induction rows generalizing tables with
  | nil => rfl
  | cons row rows ih => exact ih

@[simp]
theorem variables_putAll : (tables.putAll rows).variables = tables.variables := by
  induction rows generalizing tables with
  | nil => rfl
  | cons row rows ih => exact ih

@[simp]
theorem stories_putAll : (tables.putAll rows).stories = tables.stories := by
  induction rows generalizing tables with
  | nil => rfl
  | cons row rows ih => exact ih

@[simp]
theorem lastPack_putAll : (tables.putAll rows).lastPack = tables.lastPack := by
  induction rows generalizing tables with
  | nil => rfl
  | cons row rows ih => exact ih

@[simp]
theorem lastVariable_putAll : (tables.putAll rows).lastVariable = tables.lastVariable := by
  induction rows generalizing tables with
  | nil => rfl
  | cons row rows ih => exact ih

/-- Putting a template neither adds nor removes a pack. -/
@[simp]
theorem hasPack_put {packId : Int} : (tables.put row).HasPack packId ↔ tables.HasPack packId :=
  Iff.rfl

/-- The same for any number of templates. -/
@[simp]
theorem hasPack_putAll {packId : Int} :
    (tables.putAll rows).HasPack packId ↔ tables.HasPack packId := by
  simp [HasPack]

end

variable {tables after : Tables} {row other : PackTemplate} {rows : List PackTemplate}

/-- Putting a template is the change of the tables wherever its pack exists.
    There is no other constraint, as a template with its key is replaced. -/
theorem putTemplate?_of_hasPack (hpack : tables.HasPack row.packId) :
    tables.putTemplate? row = some (tables.put row) := by
  have hkey : (tables.template? row.packId row.templateId).isSome = true ↔
      row.key ∈ tables.templates.map PackTemplate.key := by
    simp [template?, List.find?_isSome, PackTemplate.key]
  unfold putTemplate? put
  by_cases hfound : row.key ∈ tables.templates.map PackTemplate.key
  · rw [if_pos (hkey.2 hfound), if_pos hfound]
    simp [PackTemplate.key]
  · rw [if_neg (fun h => hfound (hkey.1 h)), if_pos (pack?_isSome_iff.2 hpack), if_neg hfound]

/-- A template with a new key is inserted, if its pack exists. In contrast to
    putting it, a key that is in use would be an error. -/
theorem insertTemplate?_of_fresh (hpack : tables.HasPack row.packId)
    (hfresh : row.key ∉ tables.templates.map PackTemplate.key) :
    tables.insertTemplate? row = some (tables.put row) := by
  obtain ⟨pack, hpack⟩ := Option.isSome_iff_exists.1 (pack?_isSome_iff.2 hpack)
  have hnone : tables.template? row.packId row.templateId = none := template?_eq_none.2 hfresh
  rw [insertTemplate?, hpack, hnone, put, if_neg hfresh]
  rfl

/-- Of all other templates only the one with the same key is lost. -/
theorem mem_templates_put :
    other ∈ (tables.put row).templates ↔
      other = row ∨ (other ∈ tables.templates ∧ other.key ≠ row.key) := by
  unfold put
  by_cases hfound : row.key ∈ tables.templates.map PackTemplate.key
  · rw [if_pos hfound, Rows.mem_replace_iff]
    simp only [List.mem_map] at hfound
    simp [hfound]
  · rw [if_neg hfound, List.mem_append, List.mem_singleton, or_comm]
    refine or_congr_right (iff_self_and.2 fun hother hkey => hfound ?_)
    exact hkey ▸ List.mem_map_of_mem hother

/-- A template after some have been put is one of these or an old one. -/
theorem mem_templates_putAll (hmem : other ∈ (tables.putAll rows).templates) :
    other ∈ rows ∨ other ∈ tables.templates := by
  induction rows generalizing tables with
  | nil => exact .inr hmem
  | cons row rows ih =>
    obtain hmem | hmem := ih hmem
    · exact .inl (List.mem_cons_of_mem row hmem)
    · obtain rfl | ⟨hmem, -⟩ := mem_templates_put.1 hmem
      · exact .inl List.mem_cons_self
      · exact .inr hmem

/-- A put template is not seen where templates with its key are not looked at.
    All frames for templates are cases of this. -/
theorem filter_put {looks : PackTemplate → Bool}
    (hlooks : ∀ other : PackTemplate, other.key = row.key → looks other = false) :
    (tables.put row).templates.filter looks = tables.templates.filter looks := by
  unfold put
  by_cases hfound : row.key ∈ tables.templates.map PackTemplate.key
  · simp only [if_pos hfound]
    exact Rows.filter_replace (fun old _ => hlooks old) (hlooks row rfl)
  · simp only [if_neg hfound]
    rw [List.filter_append, List.filter_cons_of_neg (by simp [hlooks row rfl]), List.filter_nil,
      List.append_nil]

/-- The templates of all other packs stay as they are, and in their order. -/
theorem filter_templates_put {packId : Int} (hother : row.packId ≠ packId) :
    (tables.put row).templates.filter (·.packId == packId) =
      tables.templates.filter (·.packId == packId) := by
  apply filter_put
  intro other hkey
  have hpack : other.packId = row.packId := congrArg Prod.fst hkey
  simpa [hpack] using hother

/-- A search does not see what is put under another key. -/
theorem template?_put_of_ne {packId : Int} {templateId : String}
    (hother : row.key ≠ (packId, templateId)) :
    (tables.put row).template? packId templateId = tables.template? packId templateId := by
  rw [template?, template?, ← List.head?_filter, ← List.head?_filter, filter_put]
  intro other hkey
  rw [← hkey] at hother
  simpa [PackTemplate.key] using hother

/-- The same for any number of templates. -/
theorem template?_putAll_of_ne {packId : Int} {templateId : String}
    (hothers : ∀ row ∈ rows, row.key ≠ (packId, templateId)) :
    (tables.putAll rows).template? packId templateId = tables.template? packId templateId := by
  induction rows generalizing tables with
  | nil => rfl
  | cons row rows ih =>
    obtain ⟨hother, hothers⟩ := List.forall_mem_cons.1 hothers
    rw [putAll_cons, ih hothers, template?_put_of_ne hother]

/-- The listing of another pack does not change. -/
theorem templatesOf_put {packId : Int} (hother : row.packId ≠ packId) :
    (tables.put row).templatesOf packId = tables.templatesOf packId := by
  rw [templatesOf, filter_templates_put hother, templatesOf]

/-- The same for any number of templates of other packs. -/
theorem templatesOf_putAll {packId : Int} (hothers : ∀ row ∈ rows, row.packId ≠ packId) :
    (tables.putAll rows).templatesOf packId = tables.templatesOf packId := by
  induction rows generalizing tables with
  | nil => rfl
  | cons row rows ih =>
    obtain ⟨hother, hothers⟩ := List.forall_mem_cons.1 hothers
    exact (ih hothers).trans (templatesOf_put hother)

/-- Putting a template keeps the constraints, if its pack exists. The key of the
    row cannot collide, because a row that has it is replaced. -/
theorem Valid.put (hvalid : tables.Valid) (hpack : tables.HasPack row.packId) :
    (tables.put row).Valid := by
  refine { hvalid with
    templateKeys := ?_
    templatePacks := fun other hother => ?_ }
  · unfold Tables.put
    by_cases hfound : row.key ∈ tables.templates.map PackTemplate.key
    · simp only [if_pos hfound]
      rw [Rows.map_key_replace]
      exact hvalid.templateKeys
    · simp only [if_neg hfound]
      refine Rows.nodup_map_concat hvalid.templateKeys fun old hold hkey => hfound ?_
      exact hkey ▸ List.mem_map_of_mem hold
  · obtain rfl | ⟨hother, -⟩ := mem_templates_put.1 hother
    · exact hpack
    · exact hvalid.templatePacks other hother

/-- The same for any number of templates. -/
theorem Valid.putAll (hvalid : tables.Valid) (hpacks : ∀ row ∈ rows, tables.HasPack row.packId) :
    (tables.putAll rows).Valid := by
  induction rows generalizing tables with
  | nil => exact hvalid
  | cons row rows ih =>
    obtain ⟨hpack, hpacks⟩ := List.forall_mem_cons.1 hpacks
    exact ih (hvalid.put hpack) hpacks

/-- Templates that are moved to a pack belong to this pack. -/
theorem hasPack_of_mem_moved {packId : Int} (hpack : tables.HasPack packId) :
    ∀ row ∈ rows.map (·.moved packId), tables.HasPack row.packId := by
  intro row hrow
  obtain ⟨other, -, rfl⟩ := List.mem_map.1 hrow
  exact hpack

/-- A template is found where it has been put, if no other one has been put
    there as well. -/
theorem Valid.template?_putAll (hvalid : tables.Valid)
    (hpacks : ∀ row ∈ rows, tables.HasPack row.packId)
    (hsame : ∀ a ∈ rows, ∀ b ∈ rows, a.key = b.key → a = b) (hrow : row ∈ rows) :
    (tables.putAll rows).template? row.packId row.templateId = some row := by
  induction rows generalizing tables with
  | nil => cases hrow
  | cons first rest ih =>
    obtain ⟨hfirst, hrest⟩ := List.forall_mem_cons.1 hpacks
    by_cases hlater : row ∈ rest
    · refine ih (hvalid.put hfirst) hrest (fun a ha b hb => ?_) hlater
      exact hsame a (List.mem_cons_of_mem _ ha) b (List.mem_cons_of_mem _ hb)
    · obtain rfl := (List.mem_cons.1 hrow).resolve_right hlater
      rw [putAll_cons, template?_putAll_of_ne]
      · exact (hvalid.put hfirst).template?_of_mem (mem_templates_put.2 (.inl rfl))
      · intro other hother (hkey : other.key = row.key)
        exact hlater (hsame other (List.mem_cons_of_mem _ hother) row hrow hkey ▸ hother)

/-- A template with a new key stands behind all others. -/
theorem put_of_fresh (hfresh : row.key ∉ tables.templates.map PackTemplate.key) :
    tables.put row = { tables with templates := tables.templates ++ [row] } := by
  rw [put, if_neg hfresh]

/-- What is new beside a template and those before it. It is the step of the
    induction over templates with new keys. -/
theorem forall_key_notMem_put (hfresh : row.key ∉ tables.templates.map PackTemplate.key)
    (hkey : row.key ∉ rows.map PackTemplate.key)
    (hrows : ∀ other ∈ rows, other.key ∉ tables.templates.map PackTemplate.key) :
    ∀ other ∈ rows, other.key ∉ (tables.put row).templates.map PackTemplate.key := by
  intro other hother hmem
  rw [put_of_fresh hfresh, List.map_append, List.mem_append, List.map_singleton,
    List.mem_singleton] at hmem
  obtain hmem | heq := hmem
  · exact hrows other hother hmem
  · exact hkey (heq ▸ List.mem_map_of_mem hother)

/-- Templates with new keys stand behind all others, in their order. -/
theorem putAll_of_fresh (hkeys : (rows.map PackTemplate.key).Nodup)
    (hfresh : ∀ row ∈ rows, row.key ∉ tables.templates.map PackTemplate.key) :
    tables.putAll rows = { tables with templates := tables.templates ++ rows } := by
  induction rows generalizing tables with
  | nil => simp
  | cons row rows ih =>
    obtain ⟨hrow, hrows⟩ := List.forall_mem_cons.1 hfresh
    obtain ⟨hkey, hkeys⟩ := List.nodup_cons.1 hkeys
    rw [putAll_cons, ih hkeys (forall_key_notMem_put hrow hkey hrows), put_of_fresh hrow]
    simp

/-- In tables that keep their constraints, a search finds exactly the template
    with the key. -/
theorem Valid.template?_eq_some_iff (hvalid : tables.Valid) {packId : Int} {templateId : String} :
    tables.template? packId templateId = some row ↔
      row ∈ tables.templates ∧ row.key = (packId, templateId) := by
  constructor
  · intro hrow
    obtain ⟨hmem, hpack, hid⟩ := template?_eq_some hrow
    exact ⟨hmem, by rw [PackTemplate.key, hpack, hid]⟩
  · rintro ⟨hmem, hkey⟩
    simp only [PackTemplate.key, Prod.mk.injEq] at hkey
    rw [← hkey.1, ← hkey.2]
    exact hvalid.template?_of_mem hmem

end Tables

namespace Transaction

variable {α : Type} {tables : Tables} {failure : StoreFailure → Prop}

/-- A loop over changed items is a loop that changes each item first. -/
theorem forM_map {β : Type} (f : α → β) (step : β → Transaction PUnit) (items : List α) :
    (items.map f).forM step = items.forM fun item => step (f item) := by
  induction items with
  | nil => rfl
  | cons item items ih => exact congrArg (step (f item) >>= fun _ => ·) ih

/-- A request that goes over a list and never fails on the way does to the
    tables what each of its steps does, one after the other. What the steps rely
    on is kept by each of them. -/
theorem outcome_forM {step : α → Transaction PUnit} (effect : Tables → α → Tables)
    (invariant : Tables → Prop) {items : List α} {success : PUnit → Tables → Prop}
    (hstep : ∀ item ∈ items, ∀ tables, invariant tables → invariant (effect tables item) ∧
      ∀ success, (step item).Outcome tables failure success ↔ success () (effect tables item))
    (hinvariant : invariant tables) :
    (items.forM step).Outcome tables failure success ↔ success () (items.foldl effect tables) := by
  induction items generalizing tables with
  | nil => exact Iff.rfl
  | cons item items ih =>
    obtain ⟨hitem, hitems⟩ := List.forall_mem_cons.1 hstep
    obtain ⟨hkept, houtcome⟩ := hitem tables hinvariant
    rw [outcome_forM_cons, houtcome]
    exact ih hitems hkept

/-- Putting a template in a pack that exists cannot fail. -/
theorem outcome_change_putTemplate? {row : PackTemplate} (hpack : tables.HasPack row.packId)
    {success : Unit → Tables → Prop} :
    (change (·.putTemplate? row)).Outcome tables failure success ↔ success () (tables.put row) := by
  rw [outcome_change, Tables.putTemplate?_of_hasPack hpack]
  simp

/-- Templates with new and distinct keys are inserted one after the other
    without fail. Both conditions are needed, as each insertion takes a key. -/
theorem outcome_forM_insertTemplate? {rows : List PackTemplate}
    (hpacks : ∀ row ∈ rows, tables.HasPack row.packId)
    (hkeys : (rows.map PackTemplate.key).Nodup)
    (hfresh : ∀ row ∈ rows, row.key ∉ tables.templates.map PackTemplate.key)
    {success : PUnit → Tables → Prop} :
    (rows.forM fun row => change (·.insertTemplate? row)).Outcome tables failure success ↔
      success () (tables.putAll rows) := by
  induction rows generalizing tables with
  | nil => exact Iff.rfl
  | cons row rows ih =>
    obtain ⟨hpack, hpacks⟩ := List.forall_mem_cons.1 hpacks
    obtain ⟨hrow, hrows⟩ := List.forall_mem_cons.1 hfresh
    obtain ⟨hkey, hkeys⟩ := List.nodup_cons.1 hkeys
    rw [outcome_forM_cons, outcome_change, Tables.insertTemplate?_of_fresh hpack hrow]
    simp only [reduceCtorEq, false_implies, Option.some.injEq, true_and, forall_eq']
    exact ih hpacks hkeys (Tables.forall_key_notMem_put hrow hkey hrows)

/-- The same with the row handed back. -/
theorem outcome_putTemplate {packId : Int} {templateId content hash : String}
    (hpack : tables.HasPack packId) {success : PackTemplate → Tables → Prop} :
    (Store.putTemplate packId templateId content hash).Outcome tables failure success ↔
      success ⟨packId, templateId, content, hash⟩
        (tables.put ⟨packId, templateId, content, hash⟩) := by
  rw [Store.putTemplate, outcome_bind, outcome_change_putTemplate? hpack]
  exact Iff.rfl

/-- Putting one template for each item of a list never fails in a pack that
    exists. Items may have the same key, as the last of them stays. -/
theorem outcome_forM_putTemplate {packId : Int} {templateId content hash : α → String}
    {items : List α} (hpack : tables.HasPack packId) {success : PUnit → Tables → Prop} :
    (items.forM fun item => do
        let _ ← Store.putTemplate packId (templateId item) (content item) (hash item)
        pure ()).Outcome tables failure success ↔
      success () (tables.putAll
        (items.map fun item => ⟨packId, templateId item, content item, hash item⟩)) := by
  rw [outcome_forM
    (fun tables item => tables.put ⟨packId, templateId item, content item, hash item⟩)
    (·.HasPack packId) _ hpack]
  · rw [Tables.putAll, List.foldl_map]
  · intro item _ tables hpack
    refine ⟨hpack, fun success => ?_⟩
    rw [outcome_bind, outcome_putTemplate hpack]
    exact Iff.rfl

/-- The same for templates of another pack. -/
theorem outcome_forM_moved {packId : Int} {rows : List PackTemplate}
    (hpack : tables.HasPack packId) {success : PUnit → Tables → Prop} :
    (rows.forM fun row => do
        let _ ← Store.putTemplate packId row.templateId row.content row.hash
        pure ()).Outcome tables failure success ↔
      success () (tables.putAll (rows.map (·.moved packId))) :=
  outcome_forM_putTemplate hpack

end Transaction

end PromptPacks
