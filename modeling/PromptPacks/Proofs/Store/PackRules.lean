import PromptPacks.Proofs.Store.Effects

namespace PromptPacks

open PromptPacks.Store PromptPacks.Text

section

variable {name : String}

/-- An accepted name is not blank. -/
theorem isBlankText_of_checkPackName (hname : checkPackName name = .ok ()) :
    isBlankText name = false :=
  (checkPackName_eq_ok.1 hname).1

/-- A number does not make a name blank, so the only rule that a number can
    break is that for the length. -/
theorem isBlankText_numberedName (n : Nat) (hname : isBlankText name = false) :
    isBlankText (numberedName name n) = false := by
  have htext : (toString name).toList.all isBlank = false := hname
  simp only [isBlankText, numberedName, String.toList_append, List.all_append, htext,
    Bool.false_and]

end

theorem checkPackName_defaultPackName : checkPackName defaultPackName = .ok () := by
  decide

theorem checkFreeText_defaultPackDescription :
    checkFreeText "Description" (some defaultPackDescription) = .ok () := by
  decide

/-- The rules for the name, the description and the author of a pack. -/
structure Pack.ObeysRules (pack : Pack) : Prop where
  name : checkPackName pack.name = .ok ()
  description : checkFreeText "Description" pack.description = .ok ()
  author : checkFreeText "Author" pack.author = .ok ()

/-- The name of a pack is one that the rules accept, or such a name with a
    number. -/
def Pack.HasAcceptedName (pack : Pack) : Prop :=
  ∃ base, checkPackName base = .ok () ∧
    (pack.name = base ∨ ∃ n, 2 ≤ n ∧ pack.name = numberedName base n)

/-- No pack has a blank name, even where a number has been added to it. -/
theorem Pack.HasAcceptedName.isBlankText_eq_false {pack : Pack} (hname : pack.HasAcceptedName) :
    isBlankText pack.name = false := by
  obtain ⟨base, hbase, heq | ⟨n, -, heq⟩⟩ := hname
  · rw [heq]
    exact isBlankText_of_checkPackName hbase
  · rw [heq]
    exact isBlankText_numberedName n (isBlankText_of_checkPackName hbase)

namespace Request

/-- A request keeps to the limits: where it imports a pack, the pack gets a
    name, a description and an author within them. All other requests see to
    this themselves. -/
def KeepsLimits (registry : Registry) ⦃α : Type⦄ (tables : Tables) : Request α → Prop
  | importPack envelope =>
    (∃ pack after, Store.importPack registry envelope tables = .ok (pack, after)) →
      checkPackName (uniqueName envelope.name tables.packNames) = .ok () ∧
        checkFreeText "Description" envelope.description = .ok () ∧
        checkFreeText "Author" envelope.author = .ok ()
  | _ => True

/-- The envelope that a request imports. -/
def envelope? {α : Type} : Request α → Option Envelope
  | importPack envelope => some envelope
  | _ => none

variable {α : Type} {registry : Registry} {tables after : Tables} {request : Request α}

/-- A request that brings an envelope keeps to the limits exactly as its import
    does. -/
theorem KeepsLimits.of_envelope? {envelope : Envelope}
    (hlimits : request.KeepsLimits registry tables)
    (henvelope : request.envelope? = some envelope) :
    (importPack envelope).KeepsLimits registry tables := by
  cases request with
  | importPack other =>
    obtain rfl := Option.some.inj henvelope
    exact hlimits
  | _ => cases henvelope

/-- What holds of the packs that are there, and of each that a request can make
    of these or can add, holds of all packs. -/
theorem Effect.forall_packs {condition : Pack → Prop}
    (heffect : request.Effect registry tables after) (hvalid : tables.Valid)
    (hseeded : tables.defaultPack? = none → ∀ id, condition
      ⟨id, uniqueName defaultPackName tables.packNames, some defaultPackDescription, none, true⟩)
    (hcreated : ∀ pack : Pack, pack.ObeysRules → condition pack)
    (hupdated : ∀ old new : Pack, condition old →
      (checkPackName new.name = .ok () ∨ new.name = old.name) →
      (checkFreeText "Description" new.description = .ok () ∨
        new.description = old.description) →
      (checkFreeText "Author" new.author = .ok () ∨ new.author = old.author) → condition new)
    (himported : ∀ envelope, request.envelope? = some envelope → envelope.check = .ok () →
      (∃ pack after, Store.importPack registry envelope tables = .ok (pack, after)) →
        ∀ id, condition ⟨id, uniqueName envelope.name tables.packNames, envelope.description,
          envelope.author, false⟩)
    (hpacks : ∀ pack ∈ tables.packs, condition pack) : ∀ pack ∈ after.packs, condition pack := by
  cases heffect with
  | unchanged | setTemplate | resetTemplate | createVariable | updateVariable | deleteVariable
  | assignPack | setStoryValues => exact hpacks
  | seed | resetAll => simpa using hpacks
  | firstSeed hdefault =>
    rw [Tables.packs_refreshAll, Tables.addPack, List.forall_mem_append]
    exact ⟨hpacks, List.forall_mem_singleton.2 (hseeded hdefault _)⟩
  | createPack _ _ hname hdescription hauthor =>
    rw [Tables.addVariables, Tables.packs_putAll, Tables.addPack, List.forall_mem_append]
    exact ⟨hpacks, List.forall_mem_singleton.2 (hcreated _ ⟨hname, hdescription, hauthor⟩)⟩
  | @updatePack packId name description author pack hpack _ hname hdescription hauthor =>
    intro row hrow
    obtain ⟨rfl, -⟩ | ⟨hrow, -⟩ := Rows.mem_replace_iff.1 hrow
    · refine hupdated pack _ (hpacks pack (Tables.pack?_eq_some hpack).1) ?_ ?_ ?_
      · cases name with
        | none => exact .inr rfl
        | some fresh => exact .inl (hname fresh rfl)
      · cases description with
        | none => exact .inr rfl
        | some text => exact .inl hdescription
      · cases author with
        | none => exact .inr rfl
        | some text => exact .inl hauthor
    · exact hpacks row hrow
  | deletePack => exact fun pack hpack => hpacks pack (List.mem_filter.1 hpack).1
  | @importPack envelope default hcheck haccepts hdefault =>
    have hrun := (importPack_eq_ok_iff hvalid).2 ⟨hcheck, haccepts, default, hdefault⟩
    rw [Tables.addVariables, Tables.packs_putAll, Tables.packs_putAll, Tables.addPack,
      List.forall_mem_append]
    exact ⟨hpacks, List.forall_mem_singleton.2 (himported envelope rfl hcheck hrun _)⟩

/-- All packs stay within the rules as long as requests keep to the limits. The
    condition speaks of imported texts and of names with a number only. -/
theorem Effect.obeysRules (heffect : request.Effect registry tables after)
    (hvalid : tables.Valid) (hsound : tables.Sound registry)
    (hlimits : request.KeepsLimits registry tables)
    (hobeys : ∀ pack ∈ tables.packs, pack.ObeysRules) : ∀ pack ∈ after.packs, pack.ObeysRules := by
  refine heffect.forall_packs hvalid (fun hdefault id => ?_) (fun pack hpack => hpack)
    (fun old new hold hname hdescription hauthor => ?_) (fun envelope henvelope _ hrun id => ?_)
    hobeys
  · have hfree : tables.packNamed? defaultPackName = none := by
      simp [Tables.packNamed?, hsound.packs_eq_nil hdefault]
    rw [Tables.uniqueName_of_free hfree]
    exact ⟨checkPackName_defaultPackName, checkFreeText_defaultPackDescription, rfl⟩
  · exact {
      name := hname.elim id fun heq => heq ▸ hold.name
      description := hdescription.elim id fun heq => heq ▸ hold.description
      author := hauthor.elim id fun heq => heq ▸ hold.author }
  · obtain ⟨hname, hdescription, hauthor⟩ := hlimits.of_envelope? henvelope hrun
    exact ⟨hname, hdescription, hauthor⟩

/-- An import leaves a pack with a free name and the texts of the envelope as
    they are. So texts that are too long are stored. -/
theorem mem_packs_after_importPack {envelope : Envelope} (hvalid : tables.Valid)
    (hrun : ∃ pack after, Store.importPack registry envelope tables = .ok (pack, after)) :
    ⟨tables.lastPack + 1, uniqueName envelope.name tables.packNames, envelope.description,
      envelope.author, false⟩ ∈ ((importPack envelope).after registry tables).packs := by
  obtain ⟨pack, after, hrun⟩ := hrun
  obtain ⟨-, -, default, -, rfl, hafter, -⟩ :=
    (importPack_spec hvalid registry envelope).of_ok hrun
  rw [Request.after, run, hrun, hafter]
  simp [Tables.addVariables, Tables.addPack]

/-- An import beyond the limits leaves a pack beyond the rules. So the limits
    are not stricter than the rules require. -/
theorem keepsLimits_of_obeysRules (hvalid : tables.Valid)
    (hobeys : ∀ pack ∈ (request.after registry tables).packs, pack.ObeysRules) :
    request.KeepsLimits registry tables := by
  cases request with
  | importPack envelope =>
    intro hrun
    obtain ⟨hname, hdescription, hauthor⟩ := hobeys _ (mem_packs_after_importPack hvalid hrun)
    exact ⟨hname, hdescription, hauthor⟩
  | _ => trivial

/-- Names stay accepted ones up to a number, whatever is imported. The number is
    added where a name is taken, and only there. -/
theorem Effect.hasAcceptedName (heffect : request.Effect registry tables after)
    (hvalid : tables.Valid) (hnames : ∀ pack ∈ tables.packs, pack.HasAcceptedName) :
    ∀ pack ∈ after.packs, pack.HasAcceptedName := by
  have hunique : ∀ {base : String} {pack : Pack}, checkPackName base = .ok () →
      pack.name = uniqueName base tables.packNames → pack.HasAcceptedName := by
    intro base pack hbase hname
    have hfree : IsFirstFree base tables.packNames pack.name := hname ▸ isFirstFree_uniqueName
    obtain heq | ⟨-, n, hn, heq, -⟩ := hfree.2
    · exact ⟨base, hbase, .inl heq⟩
    · exact ⟨base, hbase, .inr ⟨n, hn, heq⟩⟩
  refine heffect.forall_packs hvalid (fun _ id => hunique checkPackName_defaultPackName rfl)
    (fun pack hpack => ⟨pack.name, hpack.name, .inl rfl⟩) (fun old new hold hname _ _ => ?_)
    (fun envelope _ hcheck _ id => hunique (Envelope.check_eq_ok.1 hcheck).2.1 rfl) hnames
  obtain hname | heq := hname
  · exact ⟨new.name, hname, .inl rfl⟩
  · obtain ⟨base, hbase, hold⟩ := hold
    exact ⟨base, hbase, heq ▸ hold⟩

end Request

/-- All packs are within the rules as long as imports bring no longer names and
    texts than the rules allow, and the first one that does brings a pack beyond
    them. Even then no name is blank, and each is an accepted one up to a
    number. -/
theorem obeysRules_iff_keepsLimits (registry : Registry) :
    (∀ tables, LeadsTo registry (Request.KeepsLimits registry) .empty tables →
      ∀ pack ∈ tables.packs, pack.ObeysRules) ∧
    (∀ tables, Reachable registry tables → (∀ pack ∈ tables.packs, pack.ObeysRules) →
      ∀ {α : Type} (request : Request α),
        (∀ pack ∈ (request.after registry tables).packs, pack.ObeysRules) ↔
          request.KeepsLimits registry tables) ∧
    ∀ tables, Reachable registry tables →
      ∀ pack ∈ tables.packs, isBlankText pack.name = false ∧ pack.HasAcceptedName := by
  refine ⟨fun tables hleads => ?_, fun tables hreachable hobeys α request => ?_,
    fun tables hreachable => ?_⟩
  · refine hleads.keeps (fun tables => ∀ pack ∈ tables.packs, pack.ObeysRules) .empty
      (by simp [Tables.empty]) ?_ fun row hkept => hkept
    intro tables after α request hbefore _ hkept hlimits heffect
    exact heffect.obeysRules hbefore.valid hbefore.sound hlimits hkept
  · constructor
    · exact Request.keepsLimits_of_obeysRules hreachable.valid
    · intro hlimits
      exact (request.effect_after hreachable.valid hreachable.sound).obeysRules hreachable.valid
        hreachable.sound hlimits hobeys
  · have hnames := hreachable.keeps (fun tables => ∀ pack ∈ tables.packs, pack.HasAcceptedName)
      (by simp [Tables.empty])
      (fun hbefore _ hkept heffect => heffect.hasAcceptedName hbefore.valid hkept)
      fun row hkept => hkept
    exact fun pack hpack => ⟨(hnames pack hpack).isBlankText_eq_false, hnames pack hpack⟩

/-- An exported pack with nothing but a name. -/
def noir : Envelope :=
  ⟨formatVersion, "Noir", none, none, [], []⟩

theorem leadsTo_sample :
    LeadsTo .empty (Request.KeepsLimits .empty) .empty Reachable.sample := by
  refine .request ?_ trivial (.request trivial trivial (.request trivial trivial
    (.request trivial trivial .start)))
  rintro place ⟨rfl⟩
  exact ⟨by decide, by decide⟩

/-- The packs of the sample obey the rules, and they still do so after one more
    pack has been imported. -/
theorem obeysRules_sample :
    (∀ pack ∈ Reachable.sample.packs, pack.ObeysRules) ∧
      ∀ pack ∈ ((Request.importPack noir).after .empty Reachable.sample).packs,
        pack.ObeysRules := by
  obtain ⟨hobeys, hiff, -⟩ := obeysRules_iff_keepsLimits .empty
  have hsample := hobeys _ leadsTo_sample
  refine ⟨hsample, (hiff _ Reachable.reachable_sample hsample _).2 fun _ => ⟨?_, rfl, rfl⟩⟩
  rw [Tables.uniqueName_of_free (by decide +kernel)]
  decide

/-- An exported pack with a description that is too long. -/
def wordy : Envelope :=
  { noir with description := some (String.ofList (List.replicate (maxFreeText + 1) 'x')) }

/-- The importer takes a pack whose description is too long, and the store keeps
    it. -/
theorem exists_not_obeysRules : ∃ tables, Reachable .empty tables ∧
    ∃ pack ∈ tables.packs, checkFreeText "Description" pack.description ≠ .ok () := by
  obtain ⟨default, hdefault⟩ :=
    Option.isSome_iff_exists.1 (by decide +kernel : Reachable.sample.defaultPack?.isSome = true)
  have hcheck : wordy.check = .ok () := Envelope.check_eq_ok.2 ⟨rfl, by decide, rfl, rfl⟩
  have hlong : checkFreeText "Description" wordy.description ≠ .ok () := by
    simp [checkFreeText, wordy]
  have hreachable : Reachable .empty ((Request.importPack wordy).after .empty Reachable.sample) :=
    .request (by simp [Request.GivesNumbers, wordy, noir]) Reachable.reachable_sample
  have hrun : ∃ pack after, importPack .empty wordy Reachable.sample = .ok (pack, after) :=
    (importPack_eq_ok_iff Reachable.reachable_sample.valid).2
      ⟨hcheck, by simp [wordy, noir], default, hdefault⟩
  have hmem := Request.mem_packs_after_importPack Reachable.reachable_sample.valid hrun
  exact ⟨_, hreachable, _, hmem, hlong⟩

end PromptPacks
