import PromptPacks.Proofs.Dictionary
import PromptPacks.Variable.System

namespace PromptPacks

/-- Among definitions with distinct names, a search for a name finds the one
    that has it. The order of the definitions is then of no account. -/
theorem find?_definition_eq_some_iff {definitions : List VariableDefinition}
    (hnames : (definitions.map (·.name)).Nodup) {name : String} {definition : VariableDefinition} :
    definitions.find? (·.name == name) = some definition ↔
      definition ∈ definitions ∧ definition.name = name := by
  constructor
  · intro hfound
    exact ⟨List.mem_of_find?_eq_some hfound, by simpa using List.find?_some hfound⟩
  · rintro ⟨hmem, rfl⟩
    exact Rows.find?_eq_some_of_nodup hnames hmem (by simp)

namespace Registry

/-- The registries that a program can come to have: an empty one, the one with
    the system variables, and what definitions that are added and removed make
    of these. -/
inductive Constructible : Registry → Prop where
  | empty : Constructible .empty
  | system : Constructible .system
  | register {registry after : Registry} {definition : VariableDefinition}
    (hregister : registry.register definition = .ok after)
    (hregistry : Constructible registry) : Constructible after
  | registerMany {registry after : Registry} {definitions : List VariableDefinition}
    (hregister : registry.registerMany definitions = .ok after)
    (hregistry : Constructible registry) : Constructible after
  | remove {registry : Registry} (name : String) (hregistry : Constructible registry) :
    Constructible (registry.remove name)

/-- Every definition stands under its own name. -/
def IsKeyed (registry : Registry) : Prop :=
  ∀ name definition, registry.get? name = some definition → definition.name = name

variable {registry : Registry}

theorem isKeyed_empty : IsKeyed .empty := by
  intro name definition hfound
  cases hfound

/-- A definition is put under its own name, so a registry stays in order, also
    where a name is overwritten. -/
theorem IsKeyed.put (hkeyed : registry.IsKeyed) (definition : VariableDefinition) :
    (registry.put definition).IsKeyed := by
  intro name found hfound
  rw [get?, Registry.put, Dictionary.get?_insert] at hfound
  split at hfound
  next hname =>
    obtain rfl := Option.some.inj hfound
    exact hname.symm
  next => exact hkeyed name found hfound

/-- The same for any number of definitions. -/
theorem IsKeyed.foldl_put (hkeyed : registry.IsKeyed) (definitions : List VariableDefinition) :
    (definitions.foldl Registry.put registry).IsKeyed := by
  induction definitions generalizing registry with
  | nil => exact hkeyed
  | cons definition rest ih => exact ih (hkeyed.put definition)

/-- What is left after a removal stands where it stood. -/
theorem IsKeyed.remove (hkeyed : registry.IsKeyed) (name : String) :
    (registry.remove name).IsKeyed := by
  intro other definition hfound
  refine hkeyed other definition ?_
  have hmem := Dictionary.mem_entries_iff.2 hfound
  exact Dictionary.mem_entries_iff.1 (List.mem_filter.1 hmem).1

/-- Every registry that can be made keeps its definitions under their own names.
    So this need never be assumed of a registry in use. -/
theorem Constructible.isKeyed (hregistry : registry.Constructible) : registry.IsKeyed := by
  induction hregistry with
  | empty => exact isKeyed_empty
  | system => exact isKeyed_empty.foldl_put _
  | @register registry after definition hregister _ ih =>
    unfold Registry.register at hregister
    split at hregister
    · cases hregister
    · split at hregister
      · cases hregister
      · obtain rfl := Except.ok.inj hregister
        exact ih.put definition
  | @registerMany registry after definitions hregister _ ih =>
    unfold Registry.registerMany at hregister
    split at hregister
    · cases hregister
    · obtain rfl := Except.ok.inj hregister
      exact ih.foldl_put definitions
  | remove name _ ih => exact ih.remove name

/-- The names of the definitions are the names under which they are kept. -/
theorem IsKeyed.map_name (hkeyed : registry.IsKeyed) :
    (registry.definitions.entries.map (·.2)).map (·.name) = registry.names := by
  rw [List.map_map]
  refine List.map_congr_left fun entry hentry => ?_
  exact hkeyed entry.1 entry.2 (Dictionary.mem_entries_iff.1 hentry)

/-- The definitions of a category have distinct names, as all definitions do. -/
theorem IsKeyed.nodup_ofCategory (hkeyed : registry.IsKeyed) (category : VariableCategory) :
    ((registry.ofCategory category).map (·.name)).Nodup := by
  refine Rows.nodup_map_filter ?_ _
  rw [hkeyed.map_name]
  exact registry.definitions.nodup_names

/-- The definitions of a category are those that the registry holds under their
    names and that belong to it. -/
theorem IsKeyed.mem_ofCategory_iff (hkeyed : registry.IsKeyed) {category : VariableCategory}
    {definition : VariableDefinition} : definition ∈ registry.ofCategory category ↔
      registry.get? definition.name = some definition ∧ definition.category = category := by
  rw [ofCategory, List.mem_filter, decide_eq_true_eq]
  refine and_congr_left fun _ => ?_
  constructor
  · intro hmem
    obtain ⟨entry, hentry, rfl⟩ := List.mem_map.1 hmem
    have hfound := Dictionary.mem_entries_iff.1 hentry
    exact (hkeyed _ _ hfound) ▸ hfound
  · intro hfound
    exact List.mem_map.2 ⟨_, Dictionary.mem_entries_iff.2 hfound, rfl⟩

/-- A definition of a category is found by its name where all definitions are,
    and then its category is compared. -/
theorem IsKeyed.find?_ofCategory (hkeyed : registry.IsKeyed) (category : VariableCategory)
    (name : String) : (registry.ofCategory category).find? (·.name == name) =
      (registry.get? name).filter (·.category = category) := by
  refine Option.ext fun definition => ?_
  rw [find?_definition_eq_some_iff (hkeyed.nodup_ofCategory category), hkeyed.mem_ofCategory_iff,
    Option.filter_eq_some_iff, and_right_comm, decide_eq_true_eq]
  refine and_congr_left fun _ => ?_
  constructor
  · rintro ⟨hfound, rfl⟩
    exact hfound
  · intro hfound
    obtain rfl := hkeyed _ _ hfound
    exact ⟨hfound, rfl⟩

end Registry

end PromptPacks
