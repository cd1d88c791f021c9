import Mathlib.Data.List.Induction
import PromptPacks.Proofs.Variable.Batches
import PromptPacks.Proofs.Variable.Registry

namespace PromptPacks

namespace Registry

variable {registry after : Registry} {definitions : List VariableDefinition}

/-- A batch passes if its definitions do and their names are free, distinct and
    not among those before. -/
theorem checkBatch_eq_ok_iff {batch : List String} :
    registry.checkBatch batch definitions = .ok () ↔
      (∀ definition ∈ definitions, definition.check = .ok ()) ∧
        (∀ definition ∈ definitions, registry.has definition.name = false) ∧
        (definitions.map (·.name)).Nodup ∧
        ∀ definition ∈ definitions, definition.name ∉ batch := by
  induction definitions generalizing batch with
  | nil => simp [checkBatch]
  | cons definition rest ih =>
    rw [checkBatch, List.forall_mem_cons, List.forall_mem_cons, List.forall_mem_cons,
      List.map_cons, List.nodup_cons]
    cases hcheck : definition.check with
    | error refusal => simp
    | ok =>
      cases htaken : registry.has definition.name with
      | true => simp
      | false =>
        by_cases hbatch : definition.name ∈ batch
        · simp [hbatch]
        · simp only [Bool.false_or, List.contains_iff_mem, hbatch, if_false, ih,
            Rows.forall_notMem_cons, not_false_eq_true, true_and, and_assoc, and_left_comm]

/-- Definitions that a registry takes: they pass, and their names are free and
    distinct. -/
structure Admits (registry : Registry) (definitions : List VariableDefinition) : Prop where
  passes : ∀ definition ∈ definitions, definition.check = .ok ()
  free : ∀ definition ∈ definitions, registry.has definition.name = false
  distinct : (definitions.map (·.name)).Nodup

/-- A registry takes definitions together if it admits them, and then it has all
    of them. The condition speaks of names and checks only, not of the loop. -/
theorem registerMany_eq_ok_iff :
    registry.registerMany definitions = .ok after ↔
      registry.Admits definitions ∧ definitions.foldl put registry = after := by
  have hcheck : registry.checkBatch [] definitions = .ok () ↔ registry.Admits definitions := by
    rw [checkBatch_eq_ok_iff]
    constructor
    · rintro ⟨hpasses, hfree, hdistinct, -⟩
      exact ⟨hpasses, hfree, hdistinct⟩
    · intro hadmits
      exact ⟨hadmits.passes, hadmits.free, hadmits.distinct, by simp⟩
  rw [← hcheck, registerMany]
  cases registry.checkBatch [] definitions <;> simp

/-- After several additions the last definition of a name counts, or else what
    the registry had before. -/
theorem get?_foldl_put (registry : Registry) (definitions : List VariableDefinition)
    (name : String) : (definitions.foldl put registry).get? name =
      (lastValue? (definitions.map fun definition => (definition.name, definition)) name).or
        (registry.get? name) := by
  induction definitions generalizing registry with
  | nil => rfl
  | cons definition rest ih =>
    rw [List.foldl_cons, ih, List.map_cons, lastValue?_cons, Option.or_assoc, get?, put,
      Dictionary.get?_insert]
    congr 1
    split <;> rfl

/-- Admitted definitions stand beside those that were there before. What was
    there before does not have the name of a new definition, so nothing is
    overwritten. -/
theorem Admits.get?_foldl_put_eq_some_iff (hadmits : registry.Admits definitions) {name : String}
    {definition : VariableDefinition} :
    (definitions.foldl put registry).get? name = some definition ↔
      (definition ∈ definitions ∧ definition.name = name) ∨
        registry.get? name = some definition := by
  have hnames : ((definitions.map fun definition => (definition.name, definition)).map
      (·.1)).Nodup := by
    rw [List.map_map]
    exact hadmits.distinct
  have hlast : lastValue? (definitions.map fun definition => (definition.name, definition)) name =
      some definition ↔ definition ∈ definitions ∧ definition.name = name := by
    rw [lastValue?_eq_some_iff hnames, List.mem_map]
    constructor
    · rintro ⟨_, hmem, heq⟩
      cases heq
      exact ⟨hmem, rfl⟩
    · rintro ⟨hmem, rfl⟩
      exact ⟨definition, hmem, rfl⟩
  rw [get?_foldl_put, Option.or_eq_some_iff, hlast]
  refine or_congr_right (and_iff_right_of_imp fun hfound => ?_)
  rw [lastValue?_eq_none_iff, List.map_map]
  intro hmem
  obtain ⟨new, hnew, rfl⟩ := List.mem_map.1 hmem
  have hold : registry.has new.name = true := by
    rw [has_iff_mem_names]
    exact List.mem_map.2 ⟨_, Dictionary.mem_entries_iff.2 hfound, rfl⟩
  rw [hadmits.free new hnew] at hold
  cases hold

end Registry

namespace Registering

/-- Takes out the definition with a name and answers with it, if there is one. -/
def remove (name : String) : Registering (Option VariableDefinition) := do
  let removed := (← get).get? name
  modify (·.remove name)
  return removed

def clear : Registering Unit :=
  modify fun _ => .empty

/-- The calls that change a registry. -/
inductive Call where
  | register (definition : VariableDefinition)
  | registerAll (definitions : List VariableDefinition)
  | remove (name : String)
  | clear

namespace Call

def perform : Call → Registering Unit
  | .register definition => Registering.register definition
  | .registerAll definitions => Registering.registerAll definitions
  | .remove name => discard (Registering.remove name)
  | .clear => Registering.clear

/-- The registry that a call leaves, be it refused or not. -/
def after (call : Call) (registry : Registry) : Registry :=
  (outcome call.perform registry).2

/-- The definitions that a call is about to add. -/
def definitions : Call → List VariableDefinition
  | .register definition => [definition]
  | .registerAll definitions => definitions
  | .remove _ | .clear => []

/-- A call adds a definition: it is about to, and it is not refused. -/
def Adds (call : Call) (registry : Registry) (definition : VariableDefinition) : Prop :=
  definition ∈ call.definitions ∧ (outcome call.perform registry).1 = .ok ()

/-- A call takes away whatever stands under a name. -/
def Drops (name : String) : Call → Prop
  | .register _ | .registerAll _ => False
  | .remove other => other = name
  | .clear => True

variable {call : Call} {registry : Registry} {name : String} {definition : VariableDefinition}

/-- A single definition is a batch of its own. -/
theorem registerMany_singleton (registry : Registry) (definition : VariableDefinition) :
    registry.registerMany [definition] = registry.register definition := by
  rw [Registry.registerMany_eq_foldlM, List.foldlM_cons]
  cases registry.register definition <;> rfl

/-- A call that drops nothing registers its definitions together, be it one or
    many. So the three kinds of registration need one treatment only. -/
theorem outcome_perform (hkeeps : ∀ name, ¬call.Drops name) (registry : Registry) :
    outcome call.perform registry =
      match registry.registerMany call.definitions with
      | .ok after => (.ok (), after)
      | .error refusal => (.error refusal, registry) := by
  cases call with
  | register definition =>
    rw [definitions, registerMany_singleton]
    exact outcome_register definition registry
  | registerAll definitions => exact outcome_registerAll definitions registry
  | remove other => exact absurd rfl (hkeeps other)
  | clear => exact absurd trivial (hkeeps "")

/-- Such a call adds its definitions if the registry admits them, and else it
    changes nothing. -/
theorem outcome_perform_cases (hkeeps : ∀ name, ¬call.Drops name) (registry : Registry) :
    (∃ refusal, outcome call.perform registry = (.error refusal, registry)) ∨
      (registry.Admits call.definitions ∧ outcome call.perform registry =
        (.ok (), call.definitions.foldl Registry.put registry)) := by
  rw [outcome_perform hkeeps]
  cases hrun : registry.registerMany call.definitions with
  | error refusal => exact .inl ⟨refusal, rfl⟩
  | ok after =>
    obtain ⟨hadmits, rfl⟩ := Registry.registerMany_eq_ok_iff.1 hrun
    exact .inr ⟨hadmits, rfl⟩

/-- What a call leaves under a name: what it adds, and what was there before
    unless it drops it. -/
theorem get?_after_eq_some_iff :
    (call.after registry).get? name = some definition ↔
      (call.Adds registry definition ∧ definition.name = name) ∨
        (registry.get? name = some definition ∧ ¬call.Drops name) := by
  by_cases hkeeps : ∀ other, ¬call.Drops other
  · rw [after, Adds]
    obtain ⟨refusal, hrun⟩ | ⟨hadmits, hrun⟩ := outcome_perform_cases hkeeps registry
    · simp [hrun, hkeeps name]
    · simp [hrun, hkeeps name, hadmits.get?_foldl_put_eq_some_iff]
  · cases call with
    | register | registerAll => exact absurd (fun _ => id) hkeeps
    | remove other =>
      have hafter : (Call.remove other).after registry = registry.remove other := rfl
      rw [hafter, Registry.get?, Registry.remove, Dictionary.get?_erase]
      simp only [Adds, definitions, Drops, List.not_mem_nil, false_and, false_or, eq_comm]
      split <;> simp_all [Registry.get?]
    | clear => simp [after, perform, Registering.clear, outcome_modify, Adds, definitions, Drops,
        Registry.get?, Registry.empty, Dictionary.get?_empty]

/-- What a call adds has passed, and its name was free. This is all that the
    history has to know of the call. -/
theorem Adds.passes (hadds : call.Adds registry definition) :
    definition.check = .ok () ∧ registry.has definition.name = false := by
  obtain ⟨hmem, hanswer⟩ := hadds
  have hkeeps : ∀ name, ¬call.Drops name := by
    cases call with
    | register | registerAll => exact fun _ => id
    | remove | clear => cases hmem
  obtain ⟨refusal, hrun⟩ | ⟨hadmits, -⟩ := outcome_perform_cases hkeeps registry
  · rw [hrun] at hanswer
    cases hanswer
  · exact ⟨hadmits.passes definition hmem, hadmits.free definition hmem⟩

end Call

/-- The registry that calls leave, one after the other, be they refused or not. -/
def run (calls : List Call) (registry : Registry) : Registry :=
  calls.foldl (fun registry call => call.after registry) registry

/-- A definition is on record after some calls: it was there from the start, or
    one of the calls has added it, and no call since then has dropped its name. -/
def OnRecord (start : Registry) (calls : List Call) (definition : VariableDefinition) : Prop :=
  (start.get? definition.name = some definition ∧ ∀ call ∈ calls, ¬call.Drops definition.name) ∨
    ∃ before call later, calls = before ++ call :: later ∧
      call.Adds (run before start) definition ∧ ∀ other ∈ later, ¬other.Drops definition.name

section

variable {start : Registry} {calls later : List Call} {call : Call} {name : String}
  {definition : VariableDefinition}

/-- Calls can be run in two parts. -/
theorem run_append (calls later : List Call) (start : Registry) :
    run (calls ++ later) start = run later (run calls start) :=
  List.foldl_append

/-- A further call adds to the record, and it keeps what it does not drop. The
    call that has added a definition is the last one, or it is among those
    before. -/
theorem onRecord_concat :
    OnRecord start (calls ++ [call]) definition ↔
      call.Adds (run calls start) definition ∨
        (OnRecord start calls definition ∧ ¬call.Drops definition.name) := by
  constructor
  · rintro (⟨hstart, hkept⟩ | ⟨before, other, later, heq, hadds, hkept⟩)
    · obtain ⟨hkept, hlast⟩ := List.forall_mem_append.1 hkept
      exact .inr ⟨.inl ⟨hstart, hkept⟩, hlast call List.mem_cons_self⟩
    · obtain rfl | ⟨later, last, rfl⟩ := later.eq_nil_or_concat'
      · obtain ⟨rfl, hlast⟩ := List.append_inj' heq rfl
        cases hlast
        exact .inl hadds
      · rw [← List.cons_append, ← List.append_assoc] at heq
        obtain ⟨rfl, hlast⟩ := List.append_inj' heq rfl
        cases hlast
        obtain ⟨hkept, hlast⟩ := List.forall_mem_append.1 hkept
        exact .inr ⟨.inr ⟨before, other, later, rfl, hadds, hkept⟩,
          hlast call List.mem_cons_self⟩
  · rintro (hadds | ⟨⟨hstart, hkept⟩ | ⟨before, other, later, rfl, hadds, hkept⟩, hkeeps⟩)
    · exact .inr ⟨calls, call, [], rfl, hadds, List.forall_mem_nil _⟩
    · exact .inl ⟨hstart, List.forall_mem_append.2 ⟨hkept, List.forall_mem_singleton.2 hkeeps⟩⟩
    · exact .inr ⟨before, other, later ++ [call], by simp, hadds,
        List.forall_mem_append.2 ⟨hkept, List.forall_mem_singleton.2 hkeeps⟩⟩

/-- A registry holds what is on record, under its own name, and nothing else.
    The induction is on the calls, from their end, as the record looks back from
    there. -/
theorem get?_run_eq_some_iff (hstart : start.IsKeyed) :
    (run calls start).get? name = some definition ↔
      definition.name = name ∧ OnRecord start calls definition := by
  induction calls using List.reverseRecOn generalizing name with
  | nil =>
    constructor
    · intro hfound
      obtain rfl := hstart name definition hfound
      exact ⟨rfl, .inl ⟨hfound, List.forall_mem_nil _⟩⟩
    · rintro ⟨rfl, ⟨hfound, -⟩ | ⟨before, call, later, heq, -⟩⟩
      · exact hfound
      · simp at heq
  | append_singleton calls call ih =>
    have hlast : run (calls ++ [call]) start = call.after (run calls start) := run_append ..
    rw [hlast, Call.get?_after_eq_some_iff, ih, onRecord_concat]
    constructor
    · rintro (⟨hadds, rfl⟩ | ⟨⟨rfl, hrecord⟩, hkeeps⟩)
      · exact ⟨rfl, .inl hadds⟩
      · exact ⟨rfl, .inr ⟨hrecord, hkeeps⟩⟩
    · rintro ⟨rfl, hadds | ⟨hrecord, hkeeps⟩⟩
      · exact .inl ⟨hadds, rfl⟩
      · exact .inr ⟨⟨rfl, hrecord⟩, hkeeps⟩

/-- What stands under a name stays there as long as no call drops the name,
    since no call adds a name that is there already. -/
theorem get?_run_of_kept (hfound : start.get? name = some definition)
    (hkept : ∀ call ∈ later, ¬call.Drops name) :
    (run later start).get? name = some definition := by
  induction later generalizing start with
  | nil => exact hfound
  | cons call rest ih =>
    obtain ⟨hcall, hrest⟩ := List.forall_mem_cons.1 hkept
    exact ih (Call.get?_after_eq_some_iff.2 (.inr ⟨hfound, hcall⟩)) hrest

/-- All that is on record has passed, if all that was there from the start has.
    Definitions pass when they are added and are never changed. -/
theorem OnRecord.check_eq_ok (hrecord : OnRecord start calls definition)
    (hstart : ∀ name definition, start.get? name = some definition → definition.check = .ok ()) :
    definition.check = .ok () := by
  obtain ⟨hfound, -⟩ | ⟨before, call, later, -, hadds, -⟩ := hrecord
  · exact hstart _ _ hfound
  · exact hadds.passes.1

end

end Registering

namespace Registry

/-- A registry in order: each definition has passed and stands under its own
    name, names ascend, and the categories are ascending lists that share out
    the definitions. -/
structure IsOrderly (registry : Registry) : Prop where
  keyed : ∀ name definition, registry.get? name = some definition → definition.name = name
  passes : ∀ name definition, registry.get? name = some definition → definition.check = .ok ()
  nodup_names : registry.names.Nodup
  ascending_names : registry.names.Pairwise (· < ·)
  mem_names : ∀ name, name ∈ registry.names ↔ ∃ definition, registry.get? name = some definition
  ascending_category : ∀ category,
    ((registry.ofCategory category).map (·.name)).Pairwise (· < ·)
  disjoint_categories : ∀ category other, category ≠ other →
    (registry.ofCategory category).Disjoint (registry.ofCategory other)
  mem_categories : ∀ definition, (∃ category, definition ∈ registry.ofCategory category) ↔
    ∃ name, registry.get? name = some definition

/-- Names ascend by the way in which definitions are kept, so there is nothing
    but their own names and their faults to be looked after. -/
theorem IsKeyed.isOrderly {registry : Registry} (hkeyed : registry.IsKeyed)
    (hpasses : ∀ name definition, registry.get? name = some definition →
      definition.check = .ok ()) : registry.IsOrderly where
  keyed := hkeyed
  passes := hpasses
  nodup_names := registry.definitions.nodup_names
  ascending_names := List.pairwise_map.2 registry.definitions.ascending
  mem_names name := by
    simp only [get?, ← Dictionary.mem_entries_iff]
    simp [names, Dictionary.names]
  ascending_category category := by
    have hall : ((registry.definitions.entries.map (·.2)).map (·.name)).Pairwise (· < ·) := by
      rw [hkeyed.map_name]
      exact List.pairwise_map.2 registry.definitions.ascending
    exact hall.sublist (List.filter_sublist.map _)
  disjoint_categories category other hne definition hmem hother :=
    hne ((hkeyed.mem_ofCategory_iff.1 hmem).2.symm.trans (hkeyed.mem_ofCategory_iff.1 hother).2)
  mem_categories definition := by
    simp only [hkeyed.mem_ofCategory_iff]
    constructor
    · rintro ⟨-, hfound, -⟩
      exact ⟨_, hfound⟩
    · rintro ⟨name, hfound⟩
      obtain rfl := hkeyed name definition hfound
      exact ⟨_, hfound, rfl⟩

/-- An empty registry admits the variables of the system, so a registry can be
    made from them. -/
theorem admits_systemVariables : Registry.empty.Admits systemVariables where
  passes := by decide +kernel
  free := fun _ _ => rfl
  distinct := by decide

/-- All variables of the system pass the check for definitions. -/
theorem check_of_get?_system {name : String} {definition : VariableDefinition}
    (hfound : Registry.system.get? name = some definition) : definition.check = .ok () := by
  obtain ⟨hmem, -⟩ | hnone := admits_systemVariables.get?_foldl_put_eq_some_iff.1 hfound
  · exact admits_systemVariables.passes definition hmem
  · cases hnone

end Registry

namespace Registering

/-- A registry that starts empty or with the system variables stays in order
    whatever is called and whatever of it is refused. It holds exactly the
    definitions that are on record, so each stays under its name until a call
    drops the name. -/
theorem isOrderly_run {start : Registry} (hstart : start = .empty ∨ start = .system)
    (calls : List Call) :
    (run calls start).IsOrderly ∧
      (∀ name definition, (run calls start).get? name = some definition ↔
        definition.name = name ∧ OnRecord start calls definition) ∧
      ∀ name definition later, (run calls start).get? name = some definition →
        (∀ call ∈ later, ¬call.Drops name) →
          (run (calls ++ later) start).get? name = some definition := by
  have hkeyed : start.IsKeyed := by
    obtain rfl | rfl := hstart
    · exact Registry.isKeyed_empty
    · exact Registry.isKeyed_empty.foldl_put _
  have hpasses : ∀ name definition, start.get? name = some definition →
      definition.check = .ok () := by
    intro name definition hfound
    obtain rfl | rfl := hstart
    · cases hfound
    · exact Registry.check_of_get?_system hfound
  have hruns : (run calls start).IsKeyed := fun name definition hfound =>
    ((get?_run_eq_some_iff hkeyed).1 hfound).1
  refine ⟨hruns.isOrderly fun name definition hfound => ?_,
    fun name definition => get?_run_eq_some_iff hkeyed,
    fun name definition later hfound hkept => ?_⟩
  · exact ((get?_run_eq_some_iff hkeyed).1 hfound).2.check_eq_ok hpasses
  · rw [run_append]
    exact get?_run_of_kept hfound hkept

/-- A season in words, and a season as a number. -/
def season (type : VariableType) : VariableDefinition where
  name := "season"
  displayName := "Season"
  type := type
  category := .runtime
  required := false
  defaultValue := none
  options := none
  description := none

/-- The second definition of a season is refused, alone and in a batch, so that
    the first one stays through the whole history. -/
theorem isOrderly_run_seasons :
    (run [.register (season .text), .register (season .number), .remove "mode"]
      .system).IsOrderly ∧
    (run ([.register (season .text), .register (season .number), .remove "mode"] ++
      [.registerAll [season .number], .remove "pov"]) .system).get? "season" =
        some (season .text) := by
  obtain ⟨horderly, hrecord, hkept⟩ := isOrderly_run (.inr rfl)
    [.register (season .text), .register (season .number), .remove "mode"]
  have hadds : (Call.register (season .text)).Adds .system (season .text) :=
    ⟨List.mem_cons_self, by decide +kernel⟩
  have hfound := (hrecord "season" (season .text)).2 ⟨rfl, .inr ⟨[], .register (season .text),
    [.register (season .number), .remove "mode"], rfl, hadds, by simp [Call.Drops, season]⟩⟩
  exact ⟨horderly, hkept "season" _ _ hfound (by simp [Call.Drops])⟩

end Registering

end PromptPacks
