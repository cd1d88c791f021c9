import PromptPacks.Proofs.Store.Contexts

namespace PromptPacks

open PromptPacks.Store PromptPacks.Transaction

/-- A document that is neither `null` nor made of others. -/
def Json.isScalar : Json → Bool
  | .bool _ | .integer _ | .float _ | .string _ => true
  | .null | .array _ | .object _ => false

namespace ContextValue

/-- A value that is not a list. -/
def IsScalar : ContextValue → Prop
  | .list _ => False
  | .bool _ | .integer _ | .number _ | .text _ => True

/-- A scalar or a list of scalars. -/
def IsFlat : ContextValue → Prop
  | .list items => ∀ item ∈ items, item.IsScalar
  | .bool _ | .integer _ | .number _ | .text _ => True

variable {type : Option VariableType} {value : Json} {result : ContextValue}

theorem IsScalar.isFlat (hscalar : result.IsScalar) : result.IsFlat := by
  cases result with
  | list items => exact hscalar.elim
  | _ => trivial

theorem isScalar_coerce (raw : String) (type : VariableType) : (coerce raw type).IsScalar := by
  cases type with
  | number =>
    rw [coerce]
    split
    · trivial
    · split <;> trivial
  | boolean =>
    rw [coerce]
    split <;> trivial
  | text | textarea | enum => trivial

/-- What a scalar document becomes is a scalar, with or without a declared
    type. -/
theorem isScalar_of_ofScalar? (hresult : ofScalar? type value = some result) :
    result.IsScalar := by
  cases value with
  | integer n =>
    cases hresult
    rw [ofInt]
    split <;> trivial
  | string s =>
    cases type with
    | none =>
      cases hresult
      trivial
    | some type =>
      cases hresult
      exact isScalar_coerce s type
  | bool b | float x =>
    cases hresult
    trivial
  | null | array items | object fields => cases hresult

/-- Whatever a document nests, its value does not: an array gives up what is not
    a scalar. No bound on the nesting is needed. -/
theorem isFlat_of_ofJson? (hresult : ofJson? type value = some result) : result.IsFlat := by
  cases value with
  | array items =>
    cases hresult
    intro item hitem
    obtain ⟨document, -, hdocument⟩ := List.mem_filterMap.1 hitem
    exact isScalar_of_ofScalar? hdocument
  | _ =>
    simp only [ofJson?] at hresult
    exact (isScalar_of_ofScalar? hresult).isFlat

/-- Only `null` and objects have no value in a context. So an array always has
    one, if only the empty list. -/
theorem ofJson?_eq_none_iff :
    ofJson? type value = none ↔ value = .null ∨ ∃ fields, value = .object fields := by
  cases value with
  | string s => cases type <;> simp [ofJson?, ofScalar?]
  | _ => simp [ofJson?, ofScalar?]

/-- The documents without a scalar value are those that are no scalars, whatever
    type is declared. -/
theorem isScalar_eq_false_iff : value.isScalar = false ↔ ofScalar? type value = none := by
  cases value with
  | string s => cases type <;> simp [Json.isScalar, ofScalar?]
  | _ => simp [Json.isScalar, ofScalar?]

/-- The value of an array has, in order, the values of the items that are
    scalars. The declared type does not reach the items. -/
theorem ofJson?_array (type : Option VariableType) (items : List Json) :
    ∃ values, ofJson? type (.array items) = some (.list values) ∧
      List.Forall₂ (fun item value => ofJson? none item = some value)
        (items.filter (·.isScalar)) values := by
  refine ⟨_, rfl, ?_⟩
  induction items with
  | nil => exact .nil
  | cons item rest ih =>
    cases hvalue : ofScalar? none item with
    | none =>
      rw [List.filterMap_cons_none hvalue,
        List.filter_cons_of_neg (by simp [isScalar_eq_false_iff.2 hvalue])]
      exact ih
    | some value =>
      have hscalar : item.isScalar = true := by
        by_contra hnot
        rw [isScalar_eq_false_iff.1 (Bool.eq_false_iff.2 hnot)] at hvalue
        cases hvalue
      rw [List.filterMap_cons_some hvalue, List.filter_cons_of_pos hscalar]
      refine .cons ?_ ih
      cases item with
      | array items => cases hscalar
      | _ => exact hvalue

end ContextValue

/-- All values of a context are flat. -/
def Context.IsFlat (values : Context) : Prop :=
  ∀ name value, values.get? name = some value → value.IsFlat

namespace Context.IsFlat

theorem empty : Context.IsFlat .empty := by
  intro name value hvalue
  cases hvalue

/-- A context is flat if all entries that it is made from are. -/
theorem ofList {entries : List (String × ContextValue)}
    (hentries : ∀ entry ∈ entries, entry.2.IsFlat) : Context.IsFlat (.ofList entries) := by
  intro name value hvalue
  rw [Dictionary.get?_ofList, lastValue?, Option.map_eq_some_iff] at hvalue
  obtain ⟨entry, hfound, rfl⟩ := hvalue
  exact hentries entry (List.mem_reverse.1 (List.mem_of_find?_eq_some hfound))

/-- Laying one flat context over another brings nothing nested in. -/
theorem overlay {lower upper : Context} (hlower : lower.IsFlat) (hupper : upper.IsFlat) :
    Context.IsFlat (lower.overlay upper) := by
  intro name value hvalue
  rw [Dictionary.get?_overlay, Option.or_eq_some_iff] at hvalue
  obtain hvalue | ⟨-, hvalue⟩ := hvalue
  · exact hupper name value hvalue
  · exact hlower name value hvalue

/-- Default values are coerced texts, so their layer is flat. -/
theorem defaultsLayer (declared : List VariableDefinition) :
    (PromptPacks.defaultsLayer declared).IsFlat := by
  refine ofList fun entry hentry => ?_
  obtain ⟨definition, -, hvalue⟩ := List.mem_filterMap.1 hentry
  obtain ⟨raw, -, rfl⟩ := Option.map_eq_some_iff.1 hvalue
  exact (ContextValue.isScalar_coerce raw definition.type).isFlat

/-- What the fields of a story say is text, so nothing in it is nested. -/
theorem entries (facts : StoryFacts) : ∀ entry ∈ facts.entries, entry.2.IsFlat := by
  intro entry hentry
  obtain ⟨field, -, hvalue⟩ := List.mem_filterMap.1 hentry
  obtain ⟨text, -, rfl⟩ := Option.map_eq_some_iff.1 hvalue
  trivial

/-- The layer of the system consists of defaults and of the facts of the story,
    which are all flat. -/
theorem systemLayer (registry : Registry) (facts : Option StoryFacts) :
    (PromptPacks.systemLayer registry facts).IsFlat := by
  refine overlay (defaultsLayer _) (ofList ?_)
  cases facts with
  | none => simp
  | some facts => exact entries facts

/-- The values of a story are flat once they are read, also those under names
    that are not declared. -/
theorem overridesLayer (declared : List VariableDefinition) (overrides : Dictionary Json) :
    (PromptPacks.overridesLayer declared overrides).IsFlat := by
  refine ofList fun entry hentry => ?_
  obtain ⟨override, -, hvalue⟩ := List.mem_filterMap.1 hentry
  obtain ⟨value, hresult, rfl⟩ := Option.map_eq_some_iff.1 hvalue
  exact ContextValue.isFlat_of_ofJson? hresult

/-- Only the runtime values can bring a nested value into a context, as the
    other three layers are flat by construction. -/
theorem layers (tables : Tables) (registry : Registry) {runtime : Context}
    (hruntime : runtime.IsFlat) (story : Option Story) (packId : Int) :
    (tables.layers registry runtime story packId).resolve.IsFlat := by
  refine overlay (overlay (overlay (systemLayer _ _) (defaultsLayer _)) ?_) hruntime
  cases story with
  | none => exact empty
  | some story => exact overridesLayer _ _

end Context.IsFlat

namespace Store.Rendering

variable {registry : Registry} {tables : Tables} {rendering : Rendering}

/-- The search for the pack of a rendering changes nothing, whether it succeeds
    or not. -/
theorem resolvePack_unchanged :
    rendering.resolvePack.Outcome tables (fun _ => True) fun _ after => after = tables := by
  rw [resolvePack]
  split
  · exact outcome_bind.2 (readStory_unchanged.imp_success fun _ _ hsame => hsame)
  · rw [outcome_bind, outcome_requireDefault]
    exact ⟨fun _ => trivial, fun _ _ => rfl⟩

/-- A context is flat if its runtime values are, and finding it changes
    nothing. -/
theorem isFlat_of_context_eq_ok (hruntime : rendering.runtime.IsFlat) {values : Context}
    {after : Tables} (hrun : rendering.context registry tables = .ok (values, after)) :
    after = tables ∧ values.IsFlat := by
  cases hresolve : rendering.resolvePack tables with
  | error reason => cases (bind_eq_of_error hresolve).symm.trans hrun
  | ok result =>
    obtain ⟨⟨story, packId⟩, next⟩ := result
    obtain rfl := resolvePack_unchanged.of_ok hresolve
    cases (context_eq_ok hresolve).symm.trans hrun
    exact ⟨rfl, .layers _ _ hruntime _ _⟩

/-- The runtime values are flat if all that are added are. Values that are
    overwritten later are included in the condition, which makes it simpler and
    no weaker in use. -/
theorem isFlat_runtime_addAll {storyId : Option Int} {additions : List Addition}
    (hadditions : ∀ added ∈ additions, ∀ entry ∈ added.entries, entry.2.IsFlat) :
    ((start storyId).addAll additions).runtime.IsFlat := by
  intro name value hvalue
  rw [get?_runtime_addAll_start, ← Dictionary.get?_ofList] at hvalue
  refine Context.IsFlat.ofList (fun entry hentry => ?_) name value hvalue
  obtain ⟨added, hadded, hmem⟩ := List.mem_flatMap.1 hentry
  exact hadditions added hadded entry hmem

end Store.Rendering

namespace Reachable

open Rendering

variable {registry : Registry} {tables : Tables}

/-- With flat runtime values, every context is flat: those of the stories that
    there are, and those without a story as soon as there is a pack. A document
    of a story has no value exactly if it is `null` or an object, and of an
    array exactly the scalar items count. -/
theorem context_isFlat (hreachable : Reachable registry tables) {additions : List Addition}
    (hadditions : ∀ added ∈ additions, ∀ entry ∈ added.entries, entry.2.IsFlat) :
    (∀ storyId values after,
      ((start storyId).addAll additions).context registry tables = .ok (values, after) →
        after = tables ∧ ∀ name value, values.get? name = some value → value.IsFlat) ∧
    (∀ story ∈ tables.stories, ∃ values,
      ((start (some story.id)).addAll additions).context registry tables = .ok (values, tables)) ∧
    (tables.packs ≠ [] → ∃ values,
      ((start none).addAll additions).context registry tables = .ok (values, tables)) ∧
    ∀ type value,
      (ContextValue.ofJson? type value = none ↔
        value = .null ∨ ∃ fields, value = .object fields) ∧
      ∀ items, value = .array items → ∃ values,
        ContextValue.ofJson? type value = some (.list values) ∧
          List.Forall₂ (fun item value => ContextValue.ofJson? none item = some value)
            (items.filter (·.isScalar)) values := by
  have hvalid := hreachable.valid
  refine ⟨fun storyId values after => ?_, fun story hstory => ?_, fun hseeded => ?_,
    fun type value => ⟨ContextValue.ofJson?_eq_none_iff, ?_⟩⟩
  · exact isFlat_of_context_eq_ok (isFlat_runtime_addAll hadditions)
  · exact ⟨_, context_eq_ok (resolvePack_story hvalid hreachable.sound.stories hstory
      (storyId_addAll ..))⟩
  · obtain ⟨default, hbaseline⟩ := hreachable.packs_eq_nil_or_isBaseline.resolve_left hseeded
    have hdefault := hbaseline.defaultPack?_eq hvalid
    exact ⟨_, context_eq_ok (resolvePack_default hdefault (storyId_addAll ..))⟩
  · rintro items rfl
    exact ContextValue.ofJson?_array type items

/-- A list of names is added to the context of the story, and a nested list in a
    document of the story does not get into one. -/
theorem context_isFlat_tale :
    (∃ values, ((start (some 1)).addAll [.single [("names", .list [.text "Mira"])]]).context
        .empty tale = .ok (values, tale) ∧ Context.IsFlat values) ∧
      ContextValue.ofJson? none (.array [.array [.integer 1], .bool true, .null]) =
        some (.list [.bool true]) := by
  have hadditions : ∀ added ∈ [Addition.single [("names", .list [.text "Mira"])]],
      ∀ entry ∈ added.entries, entry.2.IsFlat := by
    simp [Addition.entries, ContextValue.IsFlat, ContextValue.IsScalar]
  obtain ⟨hflat, hstories, -, hdocuments⟩ := reachable_tale.context_isFlat hadditions
  have hlast : sample.lastStory = 0 := by decide +kernel
  obtain ⟨values, hcontext⟩ := hstories _ (List.mem_append_right _ List.mem_cons_self)
  rw [hlast] at hcontext
  refine ⟨⟨values, hcontext, (hflat _ values tale hcontext).2⟩, ?_⟩
  obtain ⟨result, hresult, hvalues⟩ := (hdocuments none
    (.array [.array [.integer 1], .bool true, .null])).2 _ rfl
  rw [hresult]
  cases hvalues with
  | cons hfirst hrest =>
    cases hfirst
    cases hrest
    rfl

end Reachable

end PromptPacks
