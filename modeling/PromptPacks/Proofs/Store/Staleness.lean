import PromptPacks.Proofs.Store.Overrides

namespace PromptPacks

open PromptPacks.Store PromptPacks.Transaction

namespace Tables

/-- Two stories differ at most in the values that they set, and in none under
    the name of a variable of their pack. -/
structure SameStory (tables : Tables) (story twin : Story) : Prop where
  fields : twin = { story with values := twin.values }
  values : ∀ name, (tables.variableNamed? story.packId name).isSome = true →
    twin.values.get? name = story.values.get? name

/-- Two tables differ at most in what their stories set under names that their
    packs do not declare. -/
structure SameButStale (tables other : Tables) : Prop where
  packs : other.packs = tables.packs
  templates : other.templates = tables.templates
  «variables» : other.variables = tables.variables
  storyIds : other.stories.map (·.id) = tables.stories.map (·.id)
  stories : ∀ story ∈ tables.stories, ∀ twin ∈ other.stories, twin.id = story.id →
    tables.SameStory story twin

variable {tables other : Tables} {story twin : Story} {registry : Registry} {name : String}

namespace SameStory

variable (hsame : tables.SameStory story twin)
include hsame

/-- Stories that are the same use the same pack. -/
theorem packId_eq : twin.packId = story.packId := by
  rw [hsame.fields]

/-- Stories that are the same have the same facts. -/
theorem facts_eq : twin.facts = story.facts := by
  rw [hsame.fields]
  rfl

/-- Two stories show the same under every name that is stale for neither of
    them. So only stale values can tell them apart. -/
theorem overrideValue?_eq (hvariables : other.variables = tables.variables)
    (hstory : ¬tables.IsStale story name) (htwin : ¬other.IsStale twin name) :
    other.overrideValue? twin name = tables.overrideValue? story name := by
  rw [overrideValue?, overrideValue?, hsame.packId_eq, variableNamed?_congr hvariables]
  cases hdeclared : tables.variableNamed? story.packId name with
  | some row => rw [hsame.values name (by rw [hdeclared]; rfl)]
  | none =>
    have hunset : story.values.get? name = none := by
      rw [← Option.not_isSome_iff_eq_none]
      exact fun hset => hstory ⟨hset, hdeclared⟩
    have htwinUnset : twin.values.get? name = none := by
      rw [← Option.not_isSome_iff_eq_none]
      refine fun hset => htwin ⟨hset, ?_⟩
      rw [hsame.packId_eq, variableNamed?_congr hvariables, hdeclared]
    rw [hunset, htwinUnset]

/-- Their contexts agree on a name if it is stale for neither, or if a runtime
    value covers it. -/
theorem get?_layers_eq (hvariables : other.variables = tables.variables) (hvalid : tables.Valid)
    (hother : other.Valid) (hkeyed : registry.IsKeyed) {runtime : Context}
    (hstale : tables.IsStale story name ∨ other.IsStale twin name →
      (runtime.get? name).isSome = true) :
    (other.layers registry runtime (some twin) twin.packId).resolve.get? name =
      (tables.layers registry runtime (some story) story.packId).resolve.get? name := by
  rw [hvalid.get?_layers_story hkeyed, hother.get?_layers_story hkeyed]
  cases hruntime : runtime.get? name with
  | some value => rw [Option.some_or, Option.some_or]
  | none =>
    rw [hruntime] at hstale
    have hfresh : ¬(tables.IsStale story name ∨ other.IsStale twin name) := by simpa using hstale
    rw [not_or] at hfresh
    rw [hsame.overrideValue?_eq hvariables hfresh.1 hfresh.2, hsame.facts_eq, packDefault?,
      packDefault?, hsame.packId_eq, variableNamed?_congr hvariables]

end SameStory

/-- Under a stale name a context has what the story sets there, read without a
    type. So the value is not ignored, unless the runtime covers it. -/
theorem IsStale.get?_layers (hstale : tables.IsStale story name) (hvalid : tables.Valid)
    (hkeyed : registry.IsKeyed) {runtime : Context} (hruntime : runtime.get? name = none)
    {value : Json} {result : ContextValue} (hvalue : story.values.get? name = some value)
    (hresult : ContextValue.ofJson? none value = some result) :
    (tables.layers registry runtime (some story) story.packId).resolve.get? name =
      some result := by
  rw [hvalid.get?_layers_story hkeyed, hruntime, Option.none_or, overrideValue?, hvalue,
    hstale.isUndeclared, Option.map_none, Option.bind_some, hresult, Option.some_or]

end Tables

namespace Transaction

variable {α β : Type} {tables other : Tables}

/-- A request leaves two tables alone and says the same of both. -/
def Agrees (request : Transaction α) (tables other : Tables) : Prop :=
  ∃ result : Except StoreFailure α,
    request tables = result.map (·, tables) ∧ request other = result.map (·, other)

theorem agrees_pure (answer : α) : (pure answer : Transaction α).Agrees tables other :=
  ⟨.ok answer, rfl, rfl⟩

theorem agrees_refuse (refusal : Refusal) : (refuse refusal : Transaction α).Agrees tables other :=
  ⟨.error (.refused refusal), rfl, rfl⟩

/-- A question has the same answer in both tables if it does not see where they
    differ. -/
theorem agrees_ask {question : Tables → α} (hsame : question tables = question other) :
    (ask question).Agrees tables other :=
  ⟨.ok (question tables), rfl, by rw [hsame]; rfl⟩

/-- The same for a demand. -/
theorem agrees_demand {refusal : Refusal} {question : Tables → Option α}
    (hsame : question tables = question other) : (demand refusal question).Agrees tables other := by
  rw [Agrees, demand_apply, demand_apply, ← hsame]
  cases question tables with
  | some answer => exact agrees_pure answer
  | none => exact agrees_refuse refusal

/-- Parts that agree make a whole that agrees. Neither of them may change the
    tables in between. -/
theorem Agrees.bind {request : Transaction α} {next : α → Transaction β}
    (hrequest : request.Agrees tables other) (hnext : ∀ answer, (next answer).Agrees tables other) :
    (request >>= next).Agrees tables other := by
  obtain ⟨result, htables, hother⟩ := hrequest
  cases result with
  | error reason =>
    exact ⟨.error reason, bind_eq_of_error htables, bind_eq_of_error hother⟩
  | ok answer =>
    rw [Agrees, bind_eq_of_ok htables, bind_eq_of_ok hother]
    exact hnext answer

end Transaction

namespace Store.Rendering

variable {registry : Registry} {tables other : Tables} {rendering : Rendering}
  {story twin : Option Story} {packId : Int}

/-- The search for a content looks at packs and templates only, so stories and
    variables do not matter. -/
theorem contentOf_agrees (hpacks : other.packs = tables.packs)
    (htemplates : other.templates = tables.templates) (packId : Int) (templateId : String) :
    (contentOf packId templateId).Agrees tables other := by
  have htemplate : ∀ packId,
      tables.template? packId templateId = other.template? packId templateId := by
    intro packId
    rw [Tables.template?, Tables.template?, htemplates]
  have hdefault : tables.defaultPack? = other.defaultPack? := by
    rw [Tables.defaultPack?, Tables.defaultPack?, hpacks]
  refine (agrees_ask (htemplate packId)).bind fun found => ?_
  cases found with
  | some row => exact agrees_pure row.content
  | none =>
    refine (agrees_demand hdefault).bind fun default => ?_
    refine (agrees_ask (htemplate default.id)).bind fun found => ?_
    cases found with
    | some row => exact agrees_pure row.content
    | none =>
      dsimp only
      cases ShippedTemplate.find? templateId with
      | some shipped => exact agrees_pure shipped.content
      | none => exact agrees_refuse _

/-- What a rendering gives depends on the packs, the templates and the context
    only. -/
theorem map_output_congr (hpacks : other.packs = tables.packs)
    (htemplates : other.templates = tables.templates)
    (hresolve : rendering.resolvePack tables = .ok ((story, packId), tables))
    (htwin : rendering.resolvePack other = .ok ((twin, packId), other))
    (hlayers : (other.layers registry rendering.runtime twin packId).resolve =
      (tables.layers registry rendering.runtime story packId).resolve) (templateId : String) :
    (rendering.output registry templateId other).map (·.1) =
      (rendering.output registry templateId tables).map (·.1) := by
  obtain ⟨content, htables, hother⟩ := contentOf_agrees hpacks htemplates packId templateId
  rw [output, bind_eq_of_ok hresolve, bind_eq_of_ok htwin]
  dsimp only
  cases content with
  | error reason => rw [bind_eq_of_error htables, bind_eq_of_error hother]
  | ok content =>
    rw [bind_eq_of_ok htables, bind_eq_of_ok hother]
    split_ifs
    · rfl
    · rw [bind_eq_of_ok contextFor_eq_ok, bind_eq_of_ok contextFor_eq_ok, hlayers]
      rfl

end Store.Rendering

namespace Reachable

open Store.Rendering

/-- The value that a story sets for the variable of its pack. -/
def rain : Dictionary Json :=
  .ofList [("weather", .string "rain")]

/-- A value under the same name for a single rendering. -/
def sun : Context :=
  .ofList [("weather", .text "sun")]

/-- The story uses the pack that declares the name for which it sets a value. -/
def rainy : Tables :=
  (Request.setStoryValues 1 rain).after .empty tale

/-- The story has got the default pack, which does not declare the name. -/
def worn : Tables :=
  (Request.assignPack 1 1).after .empty rainy

/-- The story has got the default pack without ever having set a value. -/
def plain : Tables :=
  (Request.assignPack 1 1).after .empty tale

/-- The story of these tables. -/
def dusk (packId : Int) (values : Dictionary Json) : Story :=
  ⟨1, "Dusk", some "noir", defaultMode, none, some " ", none, packId, values⟩

theorem stories_tale : tale.stories = [dusk 2 .empty] := by
  have hempty : sample.stories = [] := by
    rw [← List.isEmpty_iff]
    decide +kernel
  have hlast : sample.lastStory = 0 := by decide +kernel
  rw [tale, Tables.addStory, hempty, hlast]
  rfl

theorem story?_tale : tale.story? 1 = some (dusk 2 .empty) := by
  rw [Tables.story?, stories_tale]
  rfl

theorem hasPack_tale {packId : Int} (hpack : packId = 1 ∨ packId = 2) : tale.HasPack packId := by
  have hmem : ∀ packId ∈ [1, 2], ∃ pack ∈ tale.packs, pack.id = packId := by decide +kernel
  exact hmem packId (by simpa using hpack)

theorem rainy_eq : rainy = tale.setStory (dusk 2 rain) := by
  have hfind : ((tale.variablesOf 2).map (·.definition)).find? (·.name == "weather") =
      some { mood with name := "weather" } := by
    rw [reachable_tale.valid.find?_declared]
    decide +kernel
  have haccepted : checkOverrides ((tale.variablesOf 2).map (·.definition)) rain = .ok () := by
    change (checkOverride _ "weather" (.string "rain") >>= fun _ => .ok ()) = .ok ()
    rw [checkOverride, hfind]
    rfl
  rw [rainy, Request.after_setStoryValues reachable_tale.sound.stories story?_tale
    (hasPack_tale (.inr rfl)) haccepted]
  rfl

theorem plain_eq : plain = tale.setStory (dusk 1 .empty) := by
  rw [plain, Request.after_assignPack reachable_tale.sound.stories story?_tale
    (hasPack_tale (.inl rfl))]
  rfl

theorem givesNumbers_rain : (Request.setStoryValues 1 rain).GivesNumbers := by
  intro entry hentry
  obtain rfl := List.mem_singleton.1 hentry
  trivial

theorem reachable_rainy : Reachable .empty rainy :=
  .request givesNumbers_rain reachable_tale

theorem worn_eq : worn = rainy.setStory (dusk 1 rain) := by
  have hstory : rainy.story? 1 = some (dusk 2 rain) := by
    rw [rainy_eq, Tables.story?, Tables.setStory, stories_tale]
    rfl
  have hpack : rainy.HasPack 1 := by
    rw [rainy_eq, Tables.hasPack_setStory]
    exact hasPack_tale (.inl rfl)
  rw [worn, Request.after_assignPack reachable_rainy.sound.stories hstory hpack]
  rfl

theorem stories_worn : worn.stories = [dusk 1 rain] := by
  rw [worn_eq, rainy_eq, Tables.setStory, Tables.setStory, stories_tale]
  rfl

theorem stories_plain : plain.stories = [dusk 1 .empty] := by
  rw [plain_eq, Tables.setStory, stories_tale]
  rfl

theorem dusk_mem_worn : dusk 1 rain ∈ worn.stories := by
  rw [stories_worn]
  exact List.mem_cons_self

theorem dusk_mem_plain : dusk 1 .empty ∈ plain.stories := by
  rw [stories_plain]
  exact List.mem_cons_self

/-- No request that led to these tables took away a name for which a story sets
    a value. -/
theorem leadsTo_rainy : LeadsTo .empty Request.KeepsOverrides .empty rainy := by
  have hsample : LeadsTo .empty Request.KeepsOverrides .empty sample := by
    refine .request ?_ ⟨fun _ _ _ => trivial, fun _ _ _ h => h.elim⟩
      (.request trivial ⟨fun _ _ _ => trivial, fun _ _ _ h => h.elim⟩
        (.request trivial ⟨fun _ _ _ => trivial, fun _ _ _ h => h.elim⟩
          (.request trivial ⟨fun _ _ _ => trivial, fun _ _ _ h => h.elim⟩ .start)))
    rintro place ⟨rfl⟩
    exact ⟨by decide, by decide⟩
  obtain ⟨row, hrun⟩ := createStory_sample
  exact .request givesNumbers_rain ⟨fun _ _ _ => trivial, fun _ _ _ h => h.elim⟩
    (.story hrun hsample)

theorem reachable_worn : Reachable .empty worn :=
  .request trivial reachable_rainy

theorem reachable_plain : Reachable .empty plain :=
  .request trivial reachable_tale

theorem variableNamed?_worn (name : String) : worn.variableNamed? 1 name = none := by
  have hothers : ∀ row ∈ tale.variables, row.packId ≠ 1 := by decide +kernel
  rw [worn_eq, rainy_eq, Tables.variableNamed?, Tables.variables_setStory,
    Tables.variables_setStory, List.find?_eq_none]
  intro row hrow
  simp [hothers row hrow]

/-- The worn tables differ from the plain ones in a stale value only. -/
theorem sameButStale_worn : worn.SameButStale plain where
  packs := by simp [worn_eq, rainy_eq, plain_eq]
  templates := by simp [worn_eq, rainy_eq, plain_eq]
  «variables» := by simp [worn_eq, rainy_eq, plain_eq]
  storyIds := by rw [stories_worn, stories_plain]; rfl
  stories := by
    intro story hstory twin htwin _
    rw [stories_worn, List.mem_singleton] at hstory
    rw [stories_plain, List.mem_singleton] at htwin
    subst hstory htwin
    refine ⟨rfl, fun name hdeclared => ?_⟩
    rw [show (dusk 1 rain).packId = 1 from rfl, variableNamed?_worn] at hdeclared
    cases hdeclared

/-- What a story sets under a name that its pack does not declare counts in a
    context like any other value that it sets, unless a value is added under the
    name. So two states that differ in such values only give the same contexts
    and the same texts if values are added under all of these names. There are
    none of them as long as requests keep the names for which stories set
    values. -/
theorem context_eq_of_stale_covered {registry : Registry} (hregistry : registry.Constructible) :
    (∀ tables other, Reachable registry tables → Reachable registry other →
      tables.SameButStale other → ∀ story ∈ tables.stories, ∀ twin ∈ other.stories,
        twin.id = story.id → ∀ rendering : Rendering, rendering.storyId = some story.id →
          ∃ values twinValues, rendering.context registry tables = .ok (values, tables) ∧
            rendering.context registry other = .ok (twinValues, other) ∧
            (∀ name, (tables.IsStale story name ∨ other.IsStale twin name →
                (rendering.runtime.get? name).isSome = true) →
              twinValues.get? name = values.get? name) ∧
            (∀ name, tables.IsStale story name → rendering.runtime.get? name = none →
              ∃ result, (story.values.get? name).bind (ContextValue.ofJson? none) = some result ∧
                values.get? name = some result) ∧
            ((∀ name, tables.IsStale story name ∨ other.IsStale twin name →
                (rendering.runtime.get? name).isSome = true) →
              twinValues = values ∧ ∀ templateId,
                (rendering.output registry templateId other).map (·.1) =
                  (rendering.output registry templateId tables).map (·.1))) ∧
    ∀ tables, LeadsTo registry Request.KeepsOverrides .empty tables →
      ∀ story ∈ tables.stories, ∀ name, ¬tables.IsStale story name := by
  have hkeyed := hregistry.isKeyed
  refine ⟨fun tables other hreachable hother hsame story hstory twin htwin hid rendering hfor => ?_,
    fun tables hleads => hleads.not_isStale⟩
  have hstories := hsame.stories story hstory twin htwin hid
  have hvalid := hreachable.valid
  have hresolve := resolvePack_story hvalid hreachable.sound.stories hstory hfor
  have hresolveTwin :=
    resolvePack_story hother.valid hother.sound.stories htwin (hid ▸ hfor)
  refine ⟨_, _, context_eq_ok hresolve, context_eq_ok hresolveTwin, fun name hcovered => ?_,
    fun name hstale huncovered => ?_, fun hcovered => ?_⟩
  · exact hstories.get?_layers_eq hsame.variables hvalid hother.valid hkeyed hcovered
  · obtain ⟨value, hvalue⟩ := Option.isSome_iff_exists.1 hstale.isSet
    obtain ⟨result, hresult⟩ := ContextValue.exists_ofJson?
      (hreachable.isSome_scalarText? story hstory name value hvalue) none
    refine ⟨result, by rw [hvalue]; exact hresult, ?_⟩
    exact hstale.get?_layers hvalid hkeyed huncovered hvalue hresult
  · have hlayers := Dictionary.ext_get? fun name =>
      hstories.get?_layers_eq hsame.variables hvalid hother.valid hkeyed (hcovered name)
    refine ⟨hlayers, fun templateId => ?_⟩
    rw [hstories.packId_eq] at hresolveTwin hlayers
    exact map_output_congr hsame.packs hsame.templates hresolve hresolveTwin hlayers templateId

/-- A value that is added for a rendering covers the one that the story once
    set, so no difference is seen. -/
theorem context_eq_worn :
    (∃ values twinValues, (⟨some 1, sun⟩ : Rendering).context .empty worn = .ok (values, worn) ∧
      (⟨some 1, sun⟩ : Rendering).context .empty plain = .ok (twinValues, plain) ∧
        twinValues = values) ∧
      ∀ story ∈ rainy.stories, ∀ name, ¬rainy.IsStale story name := by
  obtain ⟨hcontexts, hkept⟩ := context_eq_of_stale_covered .empty
  refine ⟨?_, hkept rainy leadsTo_rainy⟩
  obtain ⟨values, twinValues, hcontext, htwin, -, -, hsame⟩ :=
    hcontexts worn plain reachable_worn reachable_plain sameButStale_worn
      (dusk 1 rain) dusk_mem_worn (dusk 1 .empty) dusk_mem_plain rfl ⟨some 1, sun⟩ rfl
  refine ⟨values, twinValues, hcontext, htwin, (hsame ?_).1⟩
  rintro name (⟨hset, -⟩ | ⟨hset, -⟩)
  · have hname : "weather" = name := by
      simpa [dusk, rain, Dictionary.get?_ofList, lastValue?] using hset
    rw [← hname]
    rfl
  · cases hset

/-- A value that a story has set for a variable of its former pack still takes
    part in its context. -/
theorem exists_stale_value_counts : ∃ tables other, Reachable .empty tables ∧
    Reachable .empty other ∧ tables.SameButStale other ∧ ∃ values otherValues,
      (start (some 1)).context .empty tables = .ok (values, tables) ∧
        (start (some 1)).context .empty other = .ok (otherValues, other) ∧
        values.get? "weather" = some (.text "rain") ∧ otherValues.get? "weather" = none := by
  refine ⟨worn, plain, reachable_worn, reachable_plain, sameButStale_worn, _, _,
    context_eq_ok (resolvePack_story reachable_worn.valid reachable_worn.sound.stories
      dusk_mem_worn rfl),
    context_eq_ok (resolvePack_story reachable_plain.valid reachable_plain.sound.stories
      dusk_mem_plain rfl), ?_, ?_⟩
  · have hstale : worn.IsStale (dusk 1 rain) "weather" := ⟨rfl, variableNamed?_worn "weather"⟩
    exact hstale.get?_layers reachable_worn.valid Registry.isKeyed_empty rfl rfl rfl
  · have hnone : plain.packDefault? 1 "weather" = none := by
      rw [Tables.packDefault?, Tables.variableNamed?_congr sameButStale_worn.variables,
        variableNamed?_worn]
      rfl
    rw [reachable_plain.valid.get?_layers_story Registry.isKeyed_empty,
      show (dusk 1 .empty).packId = 1 from rfl, hnone]
    rfl

end Reachable

end PromptPacks
