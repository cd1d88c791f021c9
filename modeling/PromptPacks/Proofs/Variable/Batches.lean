import PromptPacks.Proofs.Dictionary
import PromptPacks.Variable.Registry

namespace PromptPacks

namespace Registry

variable {registry grown : Registry} {definitions : List VariableDefinition} {refusal : Refusal}

/-- A registry has a name exactly if it is one of its names. -/
theorem has_iff_mem_names {name : String} : registry.has name = true ↔ name ∈ registry.names :=
  Dictionary.contains_iff_mem_names

/-- A definition that is put into a registry adds its own name. -/
theorem has_put (registry : Registry) (definition : VariableDefinition) (name : String) :
    (registry.put definition).has name = (registry.has name || name == definition.name) := by
  rw [Bool.eq_iff_iff, Bool.or_eq_true, beq_iff_eq, has_iff_mem_names, has_iff_mem_names, names,
    put, Dictionary.mem_names_insert, or_comm]
  rfl

/-- What was there before a batch and the names of the batch so far are what is
    there after the definitions so far have been registered, so both ways come
    to the same answer. -/
theorem foldlM_register_eq (batch : List String)
    (hgrown : ∀ name, grown.has name = (registry.has name || batch.contains name))
    (definitions : List VariableDefinition) :
    definitions.foldlM register grown =
      (registry.checkBatch batch definitions).map fun _ => definitions.foldl put grown := by
  induction definitions generalizing batch grown with
  | nil => rfl
  | cons definition rest ih =>
    rw [List.foldlM_cons, register, checkBatch]
    cases hcheck : definition.check with
    | error refusal => rfl
    | ok =>
      dsimp only
      rw [hgrown]
      split
      · rfl
      · refine ih (definition.name :: batch) fun name => ?_
        rw [has_put, hgrown, List.contains_cons, Bool.or_assoc, Bool.or_comm (batch.contains name)]

/-- To register definitions all at once is to register them one by one. The
    names of the batch that have been seen take the place of the registry that
    would have grown. -/
theorem registerMany_eq_foldlM (registry : Registry) (definitions : List VariableDefinition) :
    registry.registerMany definitions = definitions.foldlM register registry := by
  have hnone : ∀ name, registry.has name = (registry.has name || [].contains name) := by simp
  rw [foldlM_register_eq [] hnone, registerMany]
  cases registry.checkBatch [] definitions <;> rfl

/-- Definitions that are registered one by one are refused for the first of them
    that is. Those before it have been taken, and those behind it are never
    looked at. -/
theorem foldlM_register_eq_error_iff :
    definitions.foldlM register registry = .error refusal ↔
      ∃ accepted definition rest before, definitions = accepted ++ definition :: rest ∧
        accepted.foldlM register registry = .ok before ∧
          before.register definition = .error refusal := by
  constructor
  · intro herror
    induction definitions generalizing registry with
    | nil => cases herror
    | cons definition rest ih =>
      rw [List.foldlM_cons] at herror
      cases hfirst : registry.register definition with
      | error reason =>
        rw [hfirst] at herror
        cases herror
        exact ⟨[], definition, rest, registry, rfl, rfl, hfirst⟩
      | ok after =>
        rw [hfirst] at herror
        obtain ⟨accepted, refused, rest, before, rfl, haccepted, hrefused⟩ := ih herror
        refine ⟨definition :: accepted, refused, rest, before, rfl, ?_, hrefused⟩
        rw [List.foldlM_cons, hfirst]
        exact haccepted
  · rintro ⟨accepted, definition, rest, before, rfl, haccepted, hrefused⟩
    rw [List.foldlM_append, haccepted]
    change before.register definition >>= _ = _
    rw [hrefused]
    rfl

end Registry

/-- A program that changes a registry in place. What it has written by the time
    it fails stays. -/
abbrev Registering :=
  ExceptT Refusal (StateM Registry)

namespace Registering

def register (definition : VariableDefinition) : Registering Unit := do
  MonadExcept.ofExcept definition.check
  if (← get).has definition.name then throw (.nameTaken .variable definition.name)
  modify (·.put definition)

/-- Registers definitions one by one, up to the first that is refused. -/
def registerEach (definitions : List VariableDefinition) : Registering Unit :=
  definitions.forM register

/-- Checks definitions against a registry and against the names of those before
    them. -/
def checkEach (batch : List String) : List VariableDefinition → Registering Unit
  | [] => return ()
  | definition :: rest => do
    MonadExcept.ofExcept definition.check
    if (← get).has definition.name || batch.contains definition.name then
      throw (.nameTaken .variable definition.name)
    checkEach (definition.name :: batch) rest

/-- Checks all definitions before it adds the first one. -/
def registerAll (definitions : List VariableDefinition) : Registering Unit := do
  checkEach [] definitions
  definitions.forM fun definition => modify (·.put definition)

section Outcomes

variable {α β : Type} {registry after : Registry} {refusal : Refusal}

/-- What a program answers when it is run with a registry, and the registry that
    it leaves. -/
def outcome (program : Registering α) (registry : Registry) : Except Refusal α × Registry :=
  program.run.run registry

/-- Where the first of two programs succeeds, the second one runs on what it has
    left. -/
theorem outcome_bind_of_ok {program : Registering α} {next : α → Registering β} {answer : α}
    (hprogram : outcome program registry = (.ok answer, after)) :
    outcome (program >>= next) registry = outcome (next answer) after := by
  unfold outcome at hprogram ⊢
  rw [ExceptT.run_bind, StateT.run_bind, hprogram]
  rfl

/-- Where the first of two programs fails, the second one does not run, and what
    the first has left stays. -/
theorem outcome_bind_of_error {program : Registering α} {next : α → Registering β}
    (hprogram : outcome program registry = (.error refusal, after)) :
    outcome (program >>= next) registry = (.error refusal, after) := by
  unfold outcome at hprogram ⊢
  rw [ExceptT.run_bind, StateT.run_bind, hprogram]
  rfl

/-- Looking at the registry does not change it. -/
theorem outcome_get_bind (next : Registry → Registering α) (registry : Registry) :
    outcome (get >>= next) registry = outcome (next registry) registry :=
  rfl

theorem outcome_modify (update : Registry → Registry) (registry : Registry) :
    outcome (modify update) registry = (.ok (), update registry) :=
  rfl

/-- A rule stops the program where it is broken, and it changes nothing in
    either case. -/
theorem outcome_check_bind (rule : Except Refusal Unit) (next : Unit → Registering α)
    (registry : Registry) :
    outcome (MonadExcept.ofExcept rule >>= next) registry =
      match rule with
      | .ok () => outcome (next ()) registry
      | .error refusal => (.error refusal, registry) := by
  cases rule <;> rfl

end Outcomes

/-- What one registration leaves: the definition is added, or nothing is
    changed. -/
theorem outcome_register (definition : VariableDefinition) (registry : Registry) :
    outcome (register definition) registry =
      match registry.register definition with
      | .ok after => (.ok (), after)
      | .error refusal => (.error refusal, registry) := by
  rw [register, outcome_check_bind, Registry.register]
  cases definition.check with
  | error refusal => rfl
  | ok =>
    dsimp only
    rw [outcome_get_bind]
    split <;> rfl

/-- The checks of a batch leave the registry as it is, whatever they find. That
    they all come before the first change is what makes a batch all or nothing. -/
theorem outcome_checkEach (batch : List String) (definitions : List VariableDefinition)
    (registry : Registry) :
    outcome (checkEach batch definitions) registry =
      (registry.checkBatch batch definitions, registry) := by
  induction definitions generalizing batch with
  | nil => rfl
  | cons definition rest ih =>
    rw [checkEach, outcome_check_bind, Registry.checkBatch]
    cases definition.check with
    | error refusal => rfl
    | ok =>
      dsimp only
      rw [outcome_get_bind]
      split
      · rfl
      · exact ih (definition.name :: batch)

/-- Checked definitions are put one after the other, and none of these steps
    fails. -/
theorem outcome_putEach (definitions : List VariableDefinition) (registry : Registry) :
    outcome (definitions.forM fun definition => modify (·.put definition)) registry =
      (.ok (), definitions.foldl Registry.put registry) := by
  induction definitions generalizing registry with
  | nil => rfl
  | cons definition rest ih => exact ih (registry.put definition)

/-- What definitions registered all at once leave: all of them in the registry
    or none. The checks come first, so no failure can come between two
    additions. -/
theorem outcome_registerAll (definitions : List VariableDefinition) (registry : Registry) :
    outcome (registerAll definitions) registry =
      match registry.registerMany definitions with
      | .ok after => (.ok (), after)
      | .error refusal => (.error refusal, registry) := by
  have hcheck := outcome_checkEach [] definitions registry
  rw [registerAll, Registry.registerMany]
  cases hbatch : registry.checkBatch [] definitions with
  | error refusal =>
    rw [hbatch] at hcheck
    exact outcome_bind_of_error hcheck
  | ok =>
    rw [hbatch] at hcheck
    rw [outcome_bind_of_ok hcheck]
    exact outcome_putEach definitions registry

/-- What definitions registered one by one leave: those before the first that is
    refused. Only what they say of success is needed where the two ways are
    compared. -/
theorem outcome_registerEach (definitions : List VariableDefinition) (registry : Registry) :
    (outcome (registerEach definitions) registry).1 =
        (definitions.foldlM Registry.register registry).map (fun _ => ()) ∧
      ∀ after, definitions.foldlM Registry.register registry = .ok after →
        (outcome (registerEach definitions) registry).2 = after := by
  induction definitions generalizing registry with
  | nil =>
    refine ⟨rfl, ?_⟩
    rintro _ ⟨⟩
    rfl
  | cons definition rest ih =>
    have hfirst := outcome_register definition registry
    rw [List.foldlM_cons]
    change (outcome (register definition >>= fun _ => registerEach rest) registry).1 = _ ∧
      ∀ after, _ → (outcome (register definition >>= fun _ => registerEach rest) registry).2 = after
    cases hregister : registry.register definition with
    | error refusal =>
      rw [hregister] at hfirst
      rw [outcome_bind_of_error hfirst]
      refine ⟨rfl, ?_⟩
      rintro _ ⟨⟩
    | ok after =>
      rw [hregister] at hfirst
      rw [outcome_bind_of_ok hfirst]
      exact ih after

/-- Definitions registered all at once are accepted exactly if all of them are
    accepted one by one, and then the registry is the same. Else they are
    refused for the first of them that is refused in its turn, and the registry
    is as before. -/
theorem registerAll_refines (registry : Registry) (definitions : List VariableDefinition) :
    registry.registerMany definitions = definitions.foldlM Registry.register registry ∧
      (∀ refusal, registry.registerMany definitions = .error refusal ↔
        ∃ accepted definition rest before, definitions = accepted ++ definition :: rest ∧
          accepted.foldlM Registry.register registry = .ok before ∧
            before.register definition = .error refusal) ∧
      outcome (registerAll definitions) registry =
        ((outcome (registerEach definitions) registry).1,
          match (outcome (registerEach definitions) registry).1 with
          | .ok () => (outcome (registerEach definitions) registry).2
          | .error _ => registry) := by
  have hfold := Registry.registerMany_eq_foldlM registry definitions
  obtain ⟨hanswer, hafter⟩ := outcome_registerEach definitions registry
  refine ⟨hfold, fun refusal => ?_, ?_⟩
  · rw [hfold]
    exact Registry.foldlM_register_eq_error_iff
  · rw [outcome_registerAll, hfold, hanswer]
    cases hrun : definitions.foldlM Registry.register registry with
    | error refusal => rfl
    | ok after => rw [hafter after hrun]; rfl

end Registering

end PromptPacks
