import PromptPacks.Proofs.Store.Guards
import PromptPacks.Proofs.Store.TemplateRows
import PromptPacks.Proofs.Store.VariableRows

namespace PromptPacks

open PromptPacks.Text

/-- A name is accepted if it is not blank and not too long. Lengths are counted
    in characters. -/
theorem checkPackName_eq_ok {name : String} :
    checkPackName name = .ok () ↔ isBlankText name = false ∧ name.length ≤ maxPackName := by
  unfold checkPackName
  by_cases hblank : isBlankText name = true
  · simp [hblank]
  · by_cases hlong : maxPackName < name.length
    · rw [if_neg hblank, if_pos hlong]
      simp only [reduceCtorEq, false_iff, not_and]
      omega
    · rw [if_neg hblank, if_neg hlong]
      simpa [hblank] using hlong

/-- A text is accepted if it is not too long. A missing one counts as empty. -/
theorem checkFreeText_eq_ok {field : String} {value : Option String} :
    checkFreeText field value = .ok () ↔ (value.getD "").length ≤ maxFreeText := by
  cases value with
  | none => simp [checkFreeText]
  | some text => simp [checkFreeText]

/-- A name that is refused breaks one of the two rules for names, and the
    refusal is that of the first of them. Whatever rules follow, they are not
    reached. -/
theorem firstBroken_of_checkPackName {name : String} {refusal : Refusal} {rest : List Condition}
    (hcheck : checkPackName name = .error refusal) :
    FirstBroken (⟨isBlankText name = false, .violation .blankPackName⟩ ::
      ⟨name.length ≤ maxPackName, .violation (.packNameTooLong name.length)⟩ :: rest) refusal := by
  unfold checkPackName at hcheck
  by_cases hblank : isBlankText name = true
  · rw [if_pos hblank] at hcheck
    cases hcheck
    exact .here (by simp [hblank])
  · by_cases hlong : maxPackName < name.length
    · rw [if_neg hblank, if_pos hlong] at hcheck
      cases hcheck
      exact .later (by simpa using hblank) (.here (by simpa using hlong))
    · rw [if_neg hblank, if_neg hlong] at hcheck
      cases hcheck

/-- A text that is refused breaks the rule for its length. -/
theorem firstBroken_of_checkFreeText {field : String} {value : Option String} {refusal : Refusal}
    {rest : List Condition} (hcheck : checkFreeText field value = .error refusal) :
    FirstBroken (⟨(value.getD "").length ≤ maxFreeText,
      .violation (.freeTextTooLong field (value.getD "").length)⟩ :: rest) refusal := by
  cases value with
  | none => cases hcheck
  | some text =>
    by_cases hlong : maxFreeText < text.length
    · rw [checkFreeText, if_pos hlong] at hcheck
      cases hcheck
      exact .here (by simpa using hlong)
    · rw [checkFreeText, if_neg hlong] at hcheck
      cases hcheck

namespace Tables

/-- The conditions for a new pack in the order in which they are checked. A text
    that is not given counts as an empty one. -/
def conditionsForPack (tables : Tables) (name : String) (description author : Option String) :
    List Condition :=
  [⟨isBlankText name = false, .violation .blankPackName⟩,
    ⟨name.length ≤ maxPackName, .violation (.packNameTooLong name.length)⟩,
    ⟨(description.getD "").length ≤ maxFreeText,
      .violation (.freeTextTooLong "Description" (description.getD "").length)⟩,
    ⟨(author.getD "").length ≤ maxFreeText,
      .violation (.freeTextTooLong "Author" (author.getD "").length)⟩,
    ⟨∀ pack ∈ tables.packs, pack.name ≠ name, .nameTaken .pack name⟩,
    ⟨∃ pack ∈ tables.packs, pack.isDefault = true, .notFound .pack "default"⟩]

def addPack (tables : Tables) (name : String) (description author : Option String)
    (isDefault : Bool) : Tables :=
  { tables with
    packs := tables.packs ++ [⟨tables.lastPack + 1, name, description, author, isDefault⟩]
    lastPack := tables.lastPack + 1 }

/-- The tables without a pack, its templates and its variables. -/
def withoutPack (tables : Tables) (packId : Int) : Tables :=
  { tables with
    packs := tables.packs.filter (·.id != packId)
    templates := tables.templates.filter (·.packId != packId)
    «variables» := tables.variables.filter (·.packId != packId) }

/-- The tables with other values in the row of a pack. -/
def setPack (tables : Tables) (row : Pack) : Tables :=
  { tables with packs := tables.packs.map fun other => if other.id = row.id then row else other }

/-- The copies of the templates of a pack for another one. -/
def templateCopies (tables : Tables) (source target : Int) : List PackTemplate :=
  (tables.templates.filter (·.packId == source)).map (·.moved target)

/-- What the variables of a pack pass on to their copies. -/
def variableCopies (tables : Tables) (source : Int) : List (VariableDefinition × Int) :=
  (tables.variables.filter (·.packId == source)).map fun row => (row.definition, row.sortOrder)

/-- The tables with a new pack that has copies of the templates and the
    variables of another one. -/
def withCopy (tables : Tables) (source : Int) (name : String)
    (description author : Option String) : Tables :=
  ((tables.addPack name description author false).putAll
    (tables.templateCopies source (tables.lastPack + 1))).addVariables (tables.lastPack + 1)
      (tables.variableCopies source)

variable {tables : Tables} {packId : Int} {name : String} {description author : Option String}
  {isDefault : Bool}

@[simp]
theorem templates_addPack :
    (tables.addPack name description author isDefault).templates = tables.templates := rfl

@[simp]
theorem variables_addPack :
    (tables.addPack name description author isDefault).variables = tables.variables := rfl

/-- Each copy has an original in the pack that is copied, and differs from it in
    its pack only. -/
theorem mem_templateCopies {source target : Int} {row : PackTemplate}
    (hrow : row ∈ tables.templateCopies source target) :
    ∃ old ∈ tables.templates, old.packId = source ∧ row = old.moved target := by
  obtain ⟨old, hold, rfl⟩ := List.mem_map.1 hrow
  simp only [List.mem_filter, beq_iff_eq] at hold
  exact ⟨old, hold.1, hold.2, rfl⟩

/-- The copies of the templates of a pack have distinct keys: their pack is one
    and the same, and their identifiers are distinct in the pack that they come
    from. -/
theorem Valid.nodup_templateCopies (hvalid : tables.Valid) (source target : Int) :
    ((tables.templateCopies source target).map PackTemplate.key).Nodup := by
  rw [templateCopies, List.map_map]
  refine List.Nodup.map_on (fun a ha b hb heq => ?_)
    ((List.Nodup.of_map _ hvalid.templateKeys).filter _)
  simp only [List.mem_filter, beq_iff_eq] at ha hb
  exact hvalid.template_eq_of_id ha.1 hb.1 (ha.2.trans hb.2.symm) (congrArg Prod.snd heq)

/-- The variables of one pack have distinct names. -/
theorem Valid.nodup_variableNames (hvalid : tables.Valid) (packId : Int) :
    ((tables.variables.filter (·.packId == packId)).map (·.name)).Nodup := by
  refine List.Nodup.map_on (fun a ha b hb heq => ?_)
    ((List.Nodup.of_map _ hvalid.variableIds).filter _)
  simp only [List.mem_filter, beq_iff_eq] at ha hb
  have hkey : a.key = b.key := by rw [PackVariable.key, PackVariable.key, ha.2, hb.2, heq]
  exact List.inj_on_of_nodup_map hvalid.variableKeys ha.1 hb.1 hkey

/-- A pack is added if its name is free and there is no second default pack. No
    other constraint can be broken, as its number is a new one. -/
theorem insertPack?_of_free (hname : tables.packNamed? name = none)
    (hdefault : isDefault = true → tables.defaultPack? = none) :
    tables.insertPack? name description author isDefault =
      some (⟨tables.lastPack + 1, name, description, author, isDefault⟩,
        tables.addPack name description author isDefault) := by
  have hnone : (isDefault && tables.defaultPack?.isSome) = false := by
    cases isDefault with
    | false => rfl
    | true => simp [hdefault rfl]
  simp [insertPack?, hname, hnone, addPack]

/-- The tables keep their constraints when a pack with a free name is added. -/
theorem Valid.addPack (hvalid : tables.Valid) (hname : tables.packNamed? name = none)
    (hdefault : isDefault = true → tables.defaultPack? = none) :
    (tables.addPack name description author isDefault).Valid :=
  hvalid.insertPack? (insertPack?_of_free hname hdefault)

/-- The row of a pack is replaced if no other pack has the new name. -/
theorem replacePack?_of_free {row : Pack}
    (hfree : ∀ other ∈ tables.packs, other.name = row.name → other.id = row.id) :
    tables.replacePack? row = some (tables.setPack row) := by
  have hnone : (tables.packs.any fun other => other.name == row.name && other.id != row.id)
      = false := by
    simpa using hfree
  simp [replacePack?, hnone, setPack]

/-- The tables keep their constraints when the row of a pack is replaced by one
    with a free name. -/
theorem Valid.setPack (hvalid : tables.Valid) {pack row : Pack} (hpack : pack ∈ tables.packs)
    (hid : row.id = pack.id) (hdefault : row.isDefault = pack.isDefault)
    (hfree : ∀ other ∈ tables.packs, other.name = row.name → other.id = row.id) :
    (tables.setPack row).Valid := by
  refine hvalid.replacePack? (replacePack?_of_free hfree) fun old hold heq => ?_
  rw [hdefault, hvalid.pack_eq_of_id hold hpack (heq.trans hid)]

/-- A pack that no story uses can be removed. Its templates and variables go
    with it, so nothing is left that refers to it. -/
theorem deletePack?_of_unused (hunused : tables.storyCount packId = 0) :
    tables.deletePack? packId = some (tables.withoutPack packId) := by
  have hnone : (tables.stories.any (·.packId == packId)) = false := by
    simpa using storyCount_eq_zero.1 hunused
  simp [deletePack?, hnone, withoutPack]

/-- After an addition there is one more pack, under the number behind the
    counter. -/
theorem hasPack_addPack :
    (tables.addPack name description author isDefault).HasPack packId ↔
      tables.HasPack packId ∨ packId = tables.lastPack + 1 := by
  simp [HasPack, addPack, or_and_right, exists_or, eq_comm]

/-- All names are free in a pack that is yet to be added, as every variable
    belongs to a pack that is there. -/
theorem Valid.variableNamed?_next (hvalid : tables.Valid) :
    tables.variableNamed? (tables.lastPack + 1) name = none := by
  rw [variableNamed?_eq_none]
  exact fun row hrow hkey => hvalid.variable_packId_ne_next hrow (congrArg Prod.fst hkey)

end Tables

namespace Store

open Transaction

variable {tables : Tables} {failure : StoreFailure → Prop}

/-- A pack with a free name is added without fail. -/
theorem outcome_add_insertPack? {name : String} {description author : Option String}
    {isDefault : Bool} (hname : tables.packNamed? name = none)
    (hdefault : isDefault = true → tables.defaultPack? = none)
    {success : Pack → Tables → Prop} :
    (add (·.insertPack? name description author isDefault)).Outcome tables failure success ↔
      success ⟨tables.lastPack + 1, name, description, author, isDefault⟩
        (tables.addPack name description author isDefault) := by
  rw [outcome_add, Tables.insertPack?_of_free hname hdefault]
  simp

/-- Copies of templates never clash: those of one pack have distinct
    identifiers, and the other pack is to have none before. -/
theorem outcome_copyTemplates {source target : Int} (hvalid : tables.Valid)
    (htarget : tables.HasPack target) (hfresh : ∀ row ∈ tables.templates, row.packId ≠ target)
    {success : PUnit → Tables → Prop} :
    (copyTemplates source target).Outcome tables failure success ↔
      success () (tables.putAll (tables.templateCopies source target)) := by
  have hcopies : ∀ row ∈ tables.templateCopies source target,
      row.key ∉ tables.templates.map PackTemplate.key := by
    intro row hrow hmem
    obtain ⟨old, hold, hkey⟩ := List.mem_map.1 hmem
    obtain ⟨other, -, rfl⟩ := List.mem_map.1 hrow
    exact hfresh old hold (congrArg Prod.fst hkey)
  have hmoved := forM_map (PackTemplate.moved · target)
    (fun row => change (·.insertTemplate? row)) (tables.templates.filter (·.packId == source))
  rw [copyTemplates, outcome_bind, outcome_ask]
  change ((tables.templates.filter (·.packId == source)).forM fun row =>
    change (·.insertTemplate? (row.moved target))).Outcome tables failure success ↔ _
  rw [← hmoved]
  exact outcome_forM_insertTemplate? (Tables.hasPack_of_mem_moved htarget)
    (hvalid.nodup_templateCopies source target) hcopies

/-- The variables of a pack are copied without fail into one that has none,
    since their names are distinct. -/
theorem outcome_copyVariables {source target : Int} (hvalid : tables.Valid)
    (htarget : tables.HasPack target) (hfree : ∀ name, tables.variableNamed? target name = none)
    {success : PUnit → Tables → Prop} :
    (copyVariables source target).Outcome tables failure success ↔
      success () (tables.addVariables target (tables.variableCopies source)) := by
  rw [copyVariables, outcome_bind, outcome_ask]
  exact outcome_forM_insertVariable? htarget (hvalid.nodup_variableNames source)
    fun row _ => hfree _

section

variable {source : Int} {name : String} {description author : Option String}
  (hvalid : tables.Valid) (hname : tables.packNamed? name = none)

include hvalid hname

/-- The tables with a new pack and the copies of the templates keep their
    constraints. -/
theorem valid_templateCopies : ((tables.addPack name description author false).putAll
    (tables.templateCopies source (tables.lastPack + 1))).Valid := by
  exact (hvalid.addPack hname (by simp)).putAll
    (Tables.hasPack_of_mem_moved (Tables.hasPack_addPack.2 (.inr rfl)))

/-- A new pack has room for copies of everything in another one, and all
    constraints are kept. -/
theorem valid_withCopy : (tables.withCopy source name description author).Valid := by
  refine (valid_templateCopies hvalid hname).addVariables ?_ ?_ fun item _ => ?_
  · exact (Tables.hasPack_putAll _).2 (Tables.hasPack_addPack.2 (.inr rfl))
  · rw [Tables.variableCopies, List.map_map]
    exact hvalid.nodup_variableNames source
  · rw [Tables.variableNamed?, Tables.variables_putAll]
    exact hvalid.variableNamed?_next

/-- A pack and the copies are added without fail, if the name is free. The
    insertions of the templates are plain ones; that none of their keys is taken
    is shown and not assumed. -/
theorem outcome_addCopy {success : Pack → Tables → Prop} :
    (do
      let pack ← add (·.insertPack? name description author false)
      copyTemplates source pack.id
      copyVariables source pack.id
      return pack : Transaction Pack).Outcome tables failure success ↔
        success ⟨tables.lastPack + 1, name, description, author, false⟩
          (tables.withCopy source name description author) := by
  have hpack : (tables.addPack name description author false).HasPack (tables.lastPack + 1) :=
    Tables.hasPack_addPack.2 (.inr rfl)
  rw [outcome_bind, outcome_add_insertPack? hname (by simp), outcome_bind,
    outcome_copyTemplates (hvalid.addPack hname (by simp)) hpack
      (fun row hrow => hvalid.template_packId_ne_next hrow), outcome_bind]
  refine (outcome_copyVariables (valid_templateCopies hvalid hname)
    ((Tables.hasPack_putAll _).2 hpack) fun fresh => ?_).trans ?_
  · rw [Tables.variableNamed?, Tables.variables_putAll]
    exact hvalid.variableNamed?_next
  · rw [Tables.variableCopies, Tables.variables_putAll]
    exact Iff.rfl

end

/-- A new pack is a copy of the default pack. A request that does not meet the
    conditions is turned down for the first one that it breaks. -/
theorem createPack_outcome (hvalid : tables.Valid) (name : String)
    (description author : Option String) :
    (createPack name description author).Outcome tables
      (fun reason => ∃ refusal, reason = .refused refusal ∧
        FirstBroken (tables.conditionsForPack name description author) refusal)
      fun pack after =>
        (∀ condition ∈ tables.conditionsForPack name description author, condition.holds) ∧
        ∃ default, tables.defaultPack? = some default ∧
          pack = ⟨tables.lastPack + 1, name, description, author, false⟩ ∧
          after = tables.withCopy default.id name description author ∧ after.Valid := by
  rw [createPack, outcome_bind, outcome_accept]
  refine ⟨fun refusal hbroken => ⟨_, rfl, firstBroken_of_checkPackName hbroken⟩, fun hcheck => ?_⟩
  obtain ⟨hblank, hlength⟩ := checkPackName_eq_ok.1 hcheck
  rw [outcome_bind, outcome_accept]
  refine ⟨fun refusal hbroken => ⟨_, rfl, .later hblank (.later hlength
    (firstBroken_of_checkFreeText hbroken))⟩, fun hcheck => ?_⟩
  have hdescription := checkFreeText_eq_ok.1 hcheck
  rw [outcome_bind, outcome_accept]
  refine ⟨fun refusal hbroken => ⟨_, rfl, .later hblank (.later hlength (.later hdescription
    (firstBroken_of_checkFreeText hbroken)))⟩, fun hcheck => ?_⟩
  have hauthor := checkFreeText_eq_ok.1 hcheck
  rw [outcome_bind, outcome_requireFreeName]
  refine ⟨?_, fun hunnamed => ?_⟩
  · rintro ⟨other, hnamed, -⟩
    refine ⟨_, rfl, .later hblank (.later hlength (.later hdescription (.later hauthor
      (.here fun hfree => ?_))))⟩
    rw [Tables.packNamed?_eq_none.2 hfree] at hnamed
    cases hnamed
  have hnone : tables.packNamed? name = none :=
    Option.eq_none_iff_forall_ne_some.2 fun other hnamed => by cases hunnamed other hnamed
  have hfree := Tables.packNamed?_eq_none.1 hnone
  rw [outcome_bind, outcome_requireDefault]
  refine ⟨fun hnodefault => ⟨_, rfl, .later hblank (.later hlength (.later hdescription
    (.later hauthor (.later hfree (.here ?_)))))⟩, fun default hdefault => ?_⟩
  · simpa using Tables.defaultPack?_eq_none.1 hnodefault
  refine (outcome_addCopy hvalid hnone).2
    ⟨?_, default, hdefault, rfl, rfl, valid_withCopy hvalid hnone⟩
  simp only [Tables.conditionsForPack, List.forall_mem_cons]
  exact ⟨hblank, hlength, hdescription, hauthor, hfree, ⟨default, Tables.defaultPack?_eq_some
    hdefault⟩, by simp⟩

/-- The conditions for a new pack, as facts about its texts and about the
    tables. -/
theorem conditionsForPack_iff {name : String} {description author : Option String} :
    (∀ condition ∈ tables.conditionsForPack name description author, condition.holds) ↔
      checkPackName name = .ok () ∧ checkFreeText "Description" description = .ok () ∧
        checkFreeText "Author" author = .ok () ∧ tables.packNamed? name = none ∧
        ∃ pack ∈ tables.packs, pack.isDefault = true := by
  simp [Tables.conditionsForPack, checkPackName_eq_ok, checkFreeText_eq_ok,
    Tables.packNamed?_eq_none, and_assoc]

/-- A new pack has copies of the templates and the variables of the default
    pack, and the tables hold whatever the rules of the store accept. -/
theorem createPack_spec (hvalid : tables.Valid) (name : String)
    (description author : Option String) :
    (createPack name description author).Outcome tables (· ≠ .storage) fun pack after =>
      ∃ default, tables.defaultPack? = some default ∧ tables.packNamed? name = none ∧
        checkPackName name = .ok () ∧ checkFreeText "Description" description = .ok () ∧
        checkFreeText "Author" author = .ok () ∧
        pack = ⟨tables.lastPack + 1, name, description, author, false⟩ ∧
        after = ((tables.addPack name description author false).putAll
          (tables.templateCopies default.id pack.id)).addVariables pack.id
            (tables.variableCopies default.id) ∧
        after.Valid := by
  refine (createPack_outcome hvalid name description author).imp ?_ ?_
  · rintro _ ⟨refusal, rfl, -⟩
    simp
  · rintro _ _ ⟨hall, default, hdefault, rfl, rfl, hafter⟩
    obtain ⟨hname, hdescription, hauthor, hfree, -⟩ := conditionsForPack_iff.1 hall
    exact ⟨default, hdefault, hfree, hname, hdescription, hauthor, rfl, rfl, hafter⟩

/-- Writing the row of a pack cannot fail if no other pack has its name. The
    rules for its texts may still turn it down. -/
theorem outcome_writePack {row : Pack} {description author : Option String}
    (hfree : ∀ other ∈ tables.packs, other.name = row.name → other.id = row.id)
    {success : Pack → Tables → Prop}
    (hsuccess : checkFreeText "Description" description = .ok () →
      checkFreeText "Author" author = .ok () → success row (tables.setPack row)) :
    (do
      accept (checkFreeText "Description" description)
      accept (checkFreeText "Author" author)
      change (·.replacePack? row)
      return row : Transaction Pack).Outcome tables (· ≠ .storage) success := by
  simp only [outcome_bind, outcome_accept, outcome_change, outcome_pure,
    Tables.replacePack?_of_free hfree]
  refine ⟨by simp, fun hdescription => ⟨by simp, fun hauthor => ⟨by simp, ?_⟩⟩⟩
  simpa using hsuccess hdescription hauthor

/-- A change of a pack concerns its own row only. A new name must be free, and a
    pack that keeps its name is not asked about it. -/
theorem updatePack_spec (hvalid : tables.Valid) (packId : Int)
    (name description author : Option String) :
    (updatePack packId name description author).Outcome tables (· ≠ .storage) fun row after =>
      ∃ pack, tables.pack? packId = some pack ∧ pack.isDefault = false ∧
        (∀ fresh, name = some fresh → checkPackName fresh = .ok ()) ∧
        checkFreeText "Description" description = .ok () ∧
        checkFreeText "Author" author = .ok () ∧
        row = ⟨packId, name.getD pack.name, description.or pack.description,
          author.or pack.author, false⟩ ∧
        after = tables.setPack row ∧ after.Valid := by
  rw [updatePack, outcome_bind, outcome_requireEditable]
  refine ⟨by simp, fun pack hpack => ⟨by simp, fun hdefault => ?_⟩⟩
  obtain ⟨hmem, rfl⟩ := Tables.pack?_eq_some hpack
  cases name with
  | none =>
    have hfree : ∀ other ∈ tables.packs, other.name = pack.name → other.id = pack.id :=
      fun other hother heq => congrArg Pack.id (hvalid.pack_eq_of_name hother hmem heq)
    refine outcome_writePack (by exact hfree) fun hdescription hauthor => ?_
    refine ⟨pack, hpack, hdefault, by simp, hdescription, hauthor, by rw [hdefault], rfl, ?_⟩
    exact hvalid.setPack hmem rfl rfl hfree
  | some fresh =>
    rw [outcome_bind, outcome_accept]
    refine ⟨by simp, fun hname => ?_⟩
    rw [outcome_bind, outcome_requireFreeName]
    refine ⟨by simp, fun hunused => ?_⟩
    have hfree : ∀ other ∈ tables.packs, other.name = fresh → other.id = pack.id := by
      rintro other hother rfl
      simpa using hunused other (hvalid.packNamed?_of_mem hother)
    refine outcome_writePack ?_ fun hdescription hauthor => ?_
    · exact hfree
    refine ⟨pack, hpack, hdefault, by simpa using hname, hdescription, hauthor,
      by rw [hdefault], rfl, ?_⟩
    exact hvalid.setPack hmem rfl rfl hfree

/-- A pack is deleted only if it is not the default one and no story uses it.
    Its rows go with it, and the constraints are kept. -/
theorem deletePack_spec (hvalid : tables.Valid) (packId : Int) :
    (deletePack packId).Outcome tables (· ≠ .storage) fun _ after =>
      ∃ pack, tables.pack? packId = some pack ∧ pack.isDefault = false ∧
        tables.storyCount packId = 0 ∧ after = tables.withoutPack packId ∧ after.Valid := by
  simp only [deletePack, outcome_bind, outcome_requirePack, outcome_ite, outcome_refuse,
    outcome_ask]
  refine ⟨by simp, fun pack hpack => ⟨by simp, fun hdefault => ⟨by simp, fun hcount => ?_⟩⟩⟩
  have hunused : tables.storyCount packId = 0 := by omega
  have hdelete := Tables.deletePack?_of_unused hunused
  rw [outcome_change, hdelete]
  refine ⟨by simp, fun after hafter => ?_⟩
  rw [Option.some.injEq] at hafter
  exact ⟨pack, hpack, by simpa using hdefault, hunused, hafter.symm,
    hafter ▸ hvalid.deletePack? hdelete⟩

end Store

end PromptPacks
