import PromptPacks.Proofs.Store.Outcome
import PromptPacks.Proofs.Store.Validity

namespace PromptPacks

/-- The rows of a pack for some definitions with their places. Their numbers
    follow the one given out last. -/
def PackVariable.numbered (packId : Int) :
    Nat → List (VariableDefinition × Int) → List PackVariable
  | _, [] => []
  | last, (definition, place) :: rest =>
    .ofDefinition (last + 1) packId definition place :: numbered packId (last + 1) rest

/-- A numbered row comes from one of the definitions, with its place. -/
theorem PackVariable.mem_numbered {packId : Int} {last : Nat}
    {items : List (VariableDefinition × Int)} {row : PackVariable}
    (hrow : row ∈ numbered packId last items) :
    ∃ item ∈ items, row = .ofDefinition row.id packId item.1 item.2 := by
  induction items generalizing last with
  | nil => cases hrow
  | cons item rest ih =>
    obtain rfl | hrow := List.mem_cons.1 hrow
    · exact ⟨item, List.mem_cons_self, rfl⟩
    · obtain ⟨other, hother, heq⟩ := ih hrow
      exact ⟨other, List.mem_cons_of_mem item hother, heq⟩

/-- The keys of numbered rows are told by the names of the definitions, so the
    numbers do not matter for them. -/
theorem PackVariable.map_key_numbered (packId : Int) (last : Nat)
    (items : List (VariableDefinition × Int)) :
    (numbered packId last items).map key = items.map fun item => (packId, item.1.name) := by
  induction items generalizing last with
  | nil => rfl
  | cons item rest ih => rw [numbered, List.map_cons, List.map_cons, ih, key, ofDefinition]

namespace Tables

def addVariables (tables : Tables) (packId : Int) (items : List (VariableDefinition × Int)) :
    Tables :=
  { tables with
    «variables» := tables.variables ++ PackVariable.numbered packId tables.lastVariable items
    lastVariable := tables.lastVariable + items.length }

variable {tables after : Tables} {packId : Int} {item : VariableDefinition × Int}
  {items : List (VariableDefinition × Int)}

@[simp]
theorem addVariables_nil : tables.addVariables packId [] = tables := by
  simp [addVariables, PackVariable.numbered]

/-- Variables can be added one by one, as the counter goes on where it is. -/
theorem addVariables_cons :
    tables.addVariables packId (item :: items) =
      (tables.addVariables packId [item]).addVariables packId items := by
  obtain ⟨definition, place⟩ := item
  simp only [addVariables, PackVariable.numbered, List.length_cons, List.length_nil,
    List.append_assoc, List.cons_append, List.nil_append, Tables.mk.injEq, true_and, and_true]
  omega

/-- Every type is spelled as one that can be stored. The type of a variable is
    therefore never what keeps it out of the table. -/
theorem contains_storedTypes (type : VariableType) : storedTypes.contains type.label = true := by
  cases type <;> decide

/-- A variable is added wherever its pack exists and its name is free there. Its
    type has a spelling that the table takes, as every type has. -/
theorem insertVariable?_of_free {definition : VariableDefinition} {place : Int}
    (hpack : tables.HasPack packId)
    (hfree : tables.variableNamed? packId definition.name = none) :
    tables.insertVariable? packId definition place =
      some (.ofDefinition (tables.lastVariable + 1) packId definition place,
        tables.addVariables packId [(definition, place)]) := by
  have hsome := Option.isSome_iff_exists.1 (pack?_isSome_iff.2 hpack)
  obtain ⟨pack, hpack⟩ := hsome
  rw [insertVariable?, contains_storedTypes, hpack, hfree]
  simp [addVariables, PackVariable.numbered]

/-- A variable leaves all other names of its pack free. -/
theorem variableNamed?_addVariables_singleton {name : String} (hname : name ≠ item.1.name)
    (hfree : tables.variableNamed? packId name = none) :
    (tables.addVariables packId [item]).variableNamed? packId name = none := by
  rw [variableNamed?_eq_none] at hfree ⊢
  intro row hrow
  obtain hrow | hrow := List.mem_append.1 hrow
  · exact hfree row hrow
  · obtain ⟨other, hother, heq⟩ := PackVariable.mem_numbered hrow
    obtain rfl := List.mem_singleton.1 hother
    rw [heq]
    simpa [PackVariable.key, PackVariable.ofDefinition] using hname.symm

/-- Variables with distinct names that are free in the pack can be added
    together, and the constraints are kept. -/
theorem Valid.addVariables (hvalid : tables.Valid) (hpack : tables.HasPack packId)
    (hnames : (items.map (·.1.name)).Nodup)
    (hfree : ∀ item ∈ items, tables.variableNamed? packId item.1.name = none) :
    (tables.addVariables packId items).Valid := by
  induction items generalizing tables with
  | nil => simpa using hvalid
  | cons item items ih =>
    obtain ⟨hitem, hitems⟩ := List.forall_mem_cons.1 hfree
    obtain ⟨hname, hnames⟩ := List.nodup_cons.1 hnames
    rw [addVariables_cons]
    refine ih (hvalid.insertVariable? (insertVariable?_of_free hpack hitem)) hpack hnames ?_
    intro other hother
    refine variableNamed?_addVariables_singleton (fun heq => hname ?_) (hitems other hother)
    exact List.mem_map.2 ⟨other, hother, heq⟩

end Tables

namespace Transaction

variable {α : Type} {tables : Tables} {failure : StoreFailure → Prop}

/-- Adding a variable with a free name cannot fail. -/
theorem outcome_add_insertVariable? {packId : Int} {definition : VariableDefinition} {place : Int}
    (hpack : tables.HasPack packId)
    (hfree : tables.variableNamed? packId definition.name = none)
    {success : PackVariable → Tables → Prop} :
    (add (·.insertVariable? packId definition place)).Outcome tables failure success ↔
      success (.ofDefinition (tables.lastVariable + 1) packId definition place)
        (tables.addVariables packId [(definition, place)]) := by
  rw [outcome_add, Tables.insertVariable?_of_free hpack hfree]
  simp

/-- Adding a variable for each item of a list never fails in a pack that exists,
    if the names are distinct and free. -/
theorem outcome_forM_insertVariable? {packId : Int} {definition : α → VariableDefinition}
    {place : α → Int} {items : List α} (hpack : tables.HasPack packId)
    (hnames : (items.map fun item => (definition item).name).Nodup)
    (hfree : ∀ item ∈ items, tables.variableNamed? packId (definition item).name = none)
    {success : PUnit → Tables → Prop} :
    (items.forM fun item => do
        let _ ← add (·.insertVariable? packId (definition item) (place item))
        pure ()).Outcome tables failure success ↔
      success () (tables.addVariables packId
        (items.map fun item => (definition item, place item))) := by
  induction items generalizing tables with
  | nil =>
    rw [List.map_nil, Tables.addVariables_nil]
    exact Iff.rfl
  | cons item items ih =>
    obtain ⟨hitem, hitems⟩ := List.forall_mem_cons.1 hfree
    obtain ⟨hname, hnames⟩ := List.nodup_cons.1 hnames
    rw [List.map_cons, Tables.addVariables_cons, ← ih (by exact hpack) hnames]
    · rw [outcome_forM_cons, outcome_bind, outcome_add_insertVariable? hpack hitem, outcome_pure]
    · intro other hother
      refine Tables.variableNamed?_addVariables_singleton (fun heq => hname ?_)
        (hitems other hother)
      exact List.mem_map.2 ⟨other, hother, heq⟩

end Transaction

end PromptPacks
