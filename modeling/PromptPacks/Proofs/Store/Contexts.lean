import PromptPacks.Proofs.Context.Layers
import PromptPacks.Proofs.Store.Baseline
import PromptPacks.Proofs.Store.Export
import PromptPacks.Store.Rendering

namespace PromptPacks

open PromptPacks.Store PromptPacks.Transaction

namespace Tables

variable {tables : Tables} {packId : Int} {name : String}

/-- In tables that keep their constraints, a search finds exactly the variable
    with the key. The order of the rows is of no account. -/
theorem Valid.variableNamed?_eq_some_iff (hvalid : tables.Valid) {row : PackVariable} :
    tables.variableNamed? packId name = some row ↔
      row ∈ tables.variables ∧ row.packId = packId ∧ row.name = name := by
  constructor
  · intro hrow
    have htest := List.find?_some hrow
    simp only [Bool.and_eq_true, beq_iff_eq] at htest
    exact ⟨List.mem_of_find?_eq_some hrow, htest⟩
  · rintro ⟨hmem, rfl, rfl⟩
    refine Rows.find?_eq_some_of_nodup hvalid.variableKeys hmem fun other _ => ?_
    simp [PackVariable.key, Prod.ext_iff]

/-- The definitions of a pack have distinct names, so a layer that is made from
    them has one value for each at most. -/
theorem Valid.nodup_declared (hvalid : tables.Valid) (packId : Int) :
    (((tables.variablesOf packId).map (·.definition)).map (·.name)).Nodup := by
  rw [List.map_map]
  exact (variablesOf_perm.map _).nodup_iff.2 (hvalid.nodup_variableNames packId)

/-- The definition of a name is that of the variable of the pack with the name.
    So layers can be described by rows instead of lists. -/
theorem Valid.find?_declared (hvalid : tables.Valid) :
    ((tables.variablesOf packId).map (·.definition)).find? (·.name == name) =
      (tables.variableNamed? packId name).map (·.definition) := by
  refine Option.ext fun definition => ?_
  rw [find?_definition_eq_some_iff (hvalid.nodup_declared packId), Option.map_eq_some_iff,
    List.mem_map]
  constructor
  · rintro ⟨⟨row, hrow, rfl⟩, hname⟩
    obtain ⟨hmem, hpack⟩ := mem_variablesOf.1 hrow
    exact ⟨row, hvalid.variableNamed?_eq_some_iff.2 ⟨hmem, hpack, hname⟩, rfl⟩
  · rintro ⟨row, hrow, rfl⟩
    obtain ⟨hmem, hpack, hname⟩ := hvalid.variableNamed?_eq_some_iff.1 hrow
    exact ⟨⟨row, mem_variablesOf.2 ⟨hmem, hpack⟩, rfl⟩, hname⟩

/-- The default value of the variable of a pack with a name. -/
def packDefault? (tables : Tables) (packId : Int) (name : String) : Option ContextValue :=
  (tables.variableNamed? packId name).bind (·.definition.default?)

/-- The value that a story sets itself under a name, read by the type of the
    variable of its pack with the name. -/
def overrideValue? (tables : Tables) (story : Story) (name : String) : Option ContextValue :=
  (story.values.get? name).bind
    (ContextValue.ofJson? ((tables.variableNamed? story.packId name).map (·.type)))

/-- What the tables and a registry contribute to a context. -/
def layers (tables : Tables) (registry : Registry) (runtime : Context) (story : Option Story)
    (packId : Int) : ContextLayers :=
  let declared := (tables.variablesOf packId).map (·.definition)
  { system := systemLayer registry (story.map Story.facts)
    defaults := defaultsLayer declared
    overrides := (story.map fun story => overridesLayer declared story.values).getD .empty
    runtime }

/-- What a context for a story holds, name by name: runtime values, then those
    of the story, then the defaults of its pack, then the facts of the story and
    the defaults of the system. -/
theorem Valid.get?_layers_story (hvalid : tables.Valid) {registry : Registry}
    (hkeyed : registry.IsKeyed) (runtime : Context) (story : Story) :
    (tables.layers registry runtime (some story) story.packId).resolve.get? name =
      (runtime.get? name).or ((tables.overrideValue? story name).or
        ((tables.packDefault? story.packId name).or
          ((story.facts.shown? name).or (registry.systemDefault? name)))) := by
  rw [ContextLayers.get?_resolve]
  simp only [layers, Option.map_some, Option.getD_some]
  rw [get?_overridesLayer, get?_defaultsLayer (hvalid.nodup_declared story.packId),
    get?_systemLayer hkeyed, declaredType?, hvalid.find?_declared, Option.map_map,
    Option.bind_map]
  rfl

/-- The same without a story: its values and its facts are missing. -/
theorem Valid.get?_layers_none (hvalid : tables.Valid) {registry : Registry}
    (hkeyed : registry.IsKeyed) (runtime : Context) (packId : Int) :
    (tables.layers registry runtime none packId).resolve.get? name =
      (runtime.get? name).or
        ((tables.packDefault? packId name).or (registry.systemDefault? name)) := by
  rw [ContextLayers.get?_resolve]
  simp only [layers, Option.map_none, Option.getD_none]
  rw [Dictionary.get?_empty, get?_defaultsLayer (hvalid.nodup_declared packId),
    get?_systemLayer hkeyed, hvalid.find?_declared, Option.bind_map]
  rfl

/-- The default pack, which has no variables, has no default values either. So
    without a story only the runtime and the system count. -/
theorem IsBaseline.packDefault?_eq_none {default : Pack} (hbaseline : tables.IsBaseline default) :
    tables.packDefault? default.id name = none := by
  have hnone : tables.variableNamed? default.id name = none := by
    rw [variableNamed?, List.find?_eq_none]
    intro row hrow
    have hother := List.filter_eq_nil_iff.1 hbaseline.variables row hrow
    simp [hother]
  rw [packDefault?, hnone, Option.bind_none]

end Tables

namespace Store

namespace Rendering

/-- A rendering with single values, added one after the other. -/
def addEntries (rendering : Rendering) (entries : List (String × ContextValue)) : Rendering :=
  { rendering with
    runtime := entries.foldl (fun values entry => values.insert entry.1 entry.2)
      rendering.runtime }

/-- Values that are added in two parts are added one part after the other. -/
theorem addEntries_append (rendering : Rendering) (first second : List (String × ContextValue)) :
    rendering.addEntries (first ++ second) = (rendering.addEntries first).addEntries second := by
  simp only [addEntries, List.foldl_append]

/-- Values that are added to a rendering: single ones, or those of a whole
    context. -/
inductive Addition where
  | single (entries : List (String × ContextValue))
  | whole (values : Context)

/-- The values of an addition in the order in which they are added. -/
def Addition.entries : Addition → List (String × ContextValue)
  | single entries => entries
  | whole values => values.entries

def addition (rendering : Rendering) : Addition → Rendering
  | .single entries => rendering.addEntries entries
  | .whole values => rendering.add values

/-- A rendering with several additions, one after the other. -/
def addAll (rendering : Rendering) (additions : List Addition) : Rendering :=
  additions.foldl addition rendering

/-- A whole context is added as if its entries were added one by one. -/
theorem addition_eq (rendering : Rendering) (added : Addition) :
    rendering.addition added = rendering.addEntries added.entries := by
  cases added <;> rfl

/-- A series of additions is the addition of all their entries in order. The two
    ways to add values need not be told apart any more. -/
theorem addAll_eq (rendering : Rendering) (additions : List Addition) :
    rendering.addAll additions = rendering.addEntries (additions.flatMap Addition.entries) := by
  induction additions generalizing rendering with
  | nil => rfl
  | cons added rest ih =>
    rw [List.flatMap_cons, addEntries_append, ← addition_eq, ← ih]
    rfl

/-- Adding values does not change the story of a rendering. -/
theorem storyId_addAll (rendering : Rendering) (additions : List Addition) :
    (rendering.addAll additions).storyId = rendering.storyId := by
  rw [addAll_eq, addEntries]

/-- In a new rendering the last value added to a name counts. -/
theorem get?_runtime_addAll_start {storyId : Option Int} {additions : List Addition}
    {name : String} : ((start storyId).addAll additions).runtime.get? name =
      lastValue? (additions.flatMap Addition.entries) name := by
  rw [addAll_eq, addEntries, Dictionary.get?_foldl_insert, start, Dictionary.get?_empty,
    Option.or_none]

variable {registry : Registry} {tables : Tables} {rendering : Rendering} {story : Option Story}
  {packId : Int}

/-- A rendering is for a story that exists, or for none and the default pack. A
    story brings its own pack along. -/
theorem resolvePack_story (hvalid : tables.Valid) (hreads : tables.ReadsStories) {story : Story}
    (hstory : story ∈ tables.stories) (hid : rendering.storyId = some story.id) :
    rendering.resolvePack tables = .ok ((some story, story.packId), tables) := by
  have hread := readStory_eq_ok (hvalid.story?_of_mem hstory) (hreads story hstory)
  rw [resolvePack, hid]
  exact bind_eq_of_ok hread

/-- Without a story the default pack is taken. -/
theorem resolvePack_default {default : Pack} (hdefault : tables.defaultPack? = some default)
    (hnone : rendering.storyId = none) :
    rendering.resolvePack tables = .ok ((none, default.id), tables) := by
  refine Outcome.eq_ok ?_
  rw [resolvePack, hnone, outcome_bind, outcome_requireDefault, hdefault]
  simp

/-- The definitions of a pack can always be read, so that a context never fails
    for them. No condition on the tables is needed, as every stored row has a
    definition. -/
theorem outcome_contextFor {runtime : Context} {failure : StoreFailure → Prop}
    {success : Context → Tables → Prop} :
    (contextFor registry runtime story packId).Outcome tables failure success ↔
      success (tables.layers registry runtime story packId).resolve tables := by
  rw [contextFor, readDefinitions_eq_ask]
  exact Iff.rfl

/-- The same as an equation: a context is found for every pack and story. -/
theorem contextFor_eq_ok {runtime : Context} :
    contextFor registry runtime story packId tables =
      .ok ((tables.layers registry runtime story packId).resolve, tables) :=
  Outcome.eq_ok (outcome_contextFor.2 ⟨rfl, rfl⟩)

/-- If the story and the pack are found, the context is what their layers
    resolve to. -/
theorem context_eq_ok (hresolve : rendering.resolvePack tables = .ok ((story, packId), tables)) :
    rendering.context registry tables =
      .ok ((tables.layers registry rendering.runtime story packId).resolve, tables) := by
  rw [context, bind_eq_of_ok hresolve]
  exact contextFor_eq_ok

end Rendering

end Store

namespace Reachable

open Rendering

variable {registry : Registry} {tables : Tables}

/-- The values that are added to a rendering count first, then those that the
    story sets itself, then the default values of its pack, then what its own
    fields say, and then the default values of the system variables. Without a
    story it is the default pack that counts, and this one has no variables. -/
theorem get?_context (hreachable : Reachable registry tables)
    (hregistry : registry.Constructible) (additions : List Addition) :
    (∀ story ∈ tables.stories, ∃ values,
      ((start (some story.id)).addAll additions).context registry tables = .ok (values, tables) ∧
        ∀ name, values.get? name =
          (lastValue? (additions.flatMap Addition.entries) name).or
            ((tables.overrideValue? story name).or
              ((tables.packDefault? story.packId name).or
                ((story.facts.shown? name).or (registry.systemDefault? name))))) ∧
    (tables.packs ≠ [] → ∃ values,
      ((start none).addAll additions).context registry tables = .ok (values, tables) ∧
        ∀ name, values.get? name =
          (lastValue? (additions.flatMap Addition.entries) name).or
            (registry.systemDefault? name)) := by
  have hvalid := hreachable.valid
  have hkeyed := hregistry.isKeyed
  constructor
  · intro story hstory
    refine ⟨_, context_eq_ok (resolvePack_story hvalid hreachable.sound.stories hstory
      (storyId_addAll ..)), fun name => ?_⟩
    rw [hvalid.get?_layers_story hkeyed, get?_runtime_addAll_start]
  · intro hseeded
    obtain ⟨default, hbaseline⟩ := hreachable.packs_eq_nil_or_isBaseline.resolve_left hseeded
    have hdefault := hbaseline.defaultPack?_eq hvalid
    refine ⟨_, context_eq_ok (resolvePack_default hdefault (storyId_addAll ..)), fun name => ?_⟩
    rw [hvalid.get?_layers_none hkeyed, get?_runtime_addAll_start,
      hbaseline.packDefault?_eq_none, Option.none_or]

/-- Tables with a story that uses a pack of its own. -/
def tale : Tables :=
  sample.addStory ⟨0, "Dusk", some "noir", defaultMode, none, some " ", none, 2, .empty⟩

theorem createStory_sample : ∃ row,
    createStory "Dusk" (some "noir") none none (some " ") none 2 sample = .ok (row, tale) := by
  have hpack : ∃ pack ∈ sample.packs, pack.id = 2 := by decide +kernel
  exact ⟨_, createStory_eq_ok hpack⟩

theorem reachable_tale : Reachable .empty tale := by
  obtain ⟨row, hrun⟩ := createStory_sample
  exact .story hrun reachable_sample

/-- A runtime value that is given twice has its last value, the genre of the
    story is shown, and a tense of white space is not. -/
theorem get?_context_tale : ∃ values,
    ((start (some 1)).addAll [.single [("mood", .text "calm"), ("mood", .text "grim")]]).context
        .empty tale = .ok (values, tale) ∧
      values.get? "mood" = some (.text "grim") ∧ values.get? "genre" = some (.text "noir") ∧
      values.get? "tense" = none := by
  obtain ⟨hstories, -⟩ := reachable_tale.get?_context .empty
    [.single [("mood", .text "calm"), ("mood", .text "grim")]]
  have hlast : sample.lastStory = 0 := by decide +kernel
  obtain ⟨values, hcontext, hget⟩ := hstories _ (List.mem_append_right _ List.mem_cons_self)
  rw [hlast] at hcontext
  have hgenre : tale.packDefault? 2 "genre" = none := by
    rw [Tables.packDefault?, (by decide +kernel : tale.variableNamed? 2 "genre" = none)]
    rfl
  have htense : tale.packDefault? 2 "tense" = none := by
    rw [Tables.packDefault?, (by decide +kernel : tale.variableNamed? 2 "tense" = none)]
    rfl
  refine ⟨values, hcontext, hget "mood", (hget "genre").trans ?_, (hget "tense").trans ?_⟩
  · rw [hgenre]
    rfl
  · rw [htense]
    rfl

end Reachable

end PromptPacks
