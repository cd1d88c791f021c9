namespace PromptPacks

/-- Puts an entry into an ascending list of entries. An entry of the same name
    is replaced. -/
def insertEntry (name : String) (value : α) : List (String × α) → List (String × α)
  | [] => [(name, value)]
  | entry :: rest =>
    if name < entry.1 then (name, value) :: entry :: rest
    else if name = entry.1 then (name, value) :: rest
    else entry :: insertEntry name value rest

/-- Setting a name brings in no other name. What is in the entries afterwards
    and has another name was there before. -/
theorem fst_mem_insertEntry {name : String} {value : α} {entries : List (String × α)}
    {entry : String × α} (hmem : entry ∈ insertEntry name value entries) :
    entry.1 = name ∨ entry ∈ entries := by
  induction entries with
  | nil => simp_all [insertEntry]
  | cons head rest ih =>
    simp only [insertEntry] at hmem
    split at hmem
    · simp_all only [List.mem_cons]
      rcases hmem with rfl | hmem
      · exact .inl rfl
      · exact .inr hmem
    · split at hmem
      · simp_all only [List.mem_cons]
        rcases hmem with rfl | hmem
        · exact .inl rfl
        · exact .inr (.inr hmem)
      · simp only [List.mem_cons] at hmem ⊢
        rcases hmem with rfl | hmem
        · exact .inr (.inl rfl)
        · exact (ih hmem).imp_right .inr

/-- Two different names are in order one way or the other. -/
theorem lt_of_not_lt_of_ne {a b : String} (hnot : ¬a < b) (hne : a ≠ b) : b < a :=
  String.not_le.1 fun hle => hne (String.le_antisymm hle (String.not_lt.1 hnot))

/-- Entries stay in the order of their names, each of them once. A name that is
    there already gets the value in its place, so that nothing has to be
    removed. -/
theorem pairwise_insertEntry {name : String} {value : α} {entries : List (String × α)}
    (hascending : entries.Pairwise (·.1 < ·.1)) :
    (insertEntry name value entries).Pairwise (·.1 < ·.1) := by
  induction entries with
  | nil => simp [insertEntry]
  | cons head rest ih =>
    obtain ⟨hhead, hrest⟩ := List.pairwise_cons.1 hascending
    simp only [insertEntry]
    split
    next hlt =>
      refine List.pairwise_cons.2 ⟨fun entry hmem => ?_, hascending⟩
      rcases List.mem_cons.1 hmem with rfl | hmem
      · exact hlt
      · exact String.lt_trans hlt (hhead entry hmem)
    next hnot =>
      split
      next heq => exact List.pairwise_cons.2 ⟨fun entry hmem => heq ▸ hhead entry hmem, hrest⟩
      next hne =>
        refine List.pairwise_cons.2 ⟨fun entry hmem => ?_, ih hrest⟩
        rcases fst_mem_insertEntry hmem with hname | hmem
        · exact hname ▸ lt_of_not_lt_of_ne hnot hne
        · exact hhead entry hmem

/-- A finite map from names to values. Its entries stand in strictly ascending
    order of their names, so two maps with the same values under the same names
    are equal. -/
structure Dictionary (α : Type u) where
  entries : List (String × α)
  ascending : entries.Pairwise (·.1 < ·.1)

namespace Dictionary

def empty : Dictionary α :=
  ⟨[], .nil⟩

/-- The map with a value under a name; an earlier value of that name is
    replaced. -/
def insert (d : Dictionary α) (name : String) (value : α) : Dictionary α :=
  ⟨insertEntry name value d.entries, pairwise_insertEntry d.ascending⟩

def erase (d : Dictionary α) (name : String) : Dictionary α :=
  ⟨d.entries.filter (·.1 != name), d.ascending.filter _⟩

def get? (d : Dictionary α) (name : String) : Option α :=
  (d.entries.find? (·.1 == name)).map (·.2)

def contains (d : Dictionary α) (name : String) : Bool :=
  d.entries.any (·.1 == name)

def names (d : Dictionary α) : List String :=
  d.entries.map (·.1)

def size (d : Dictionary α) : Nat :=
  d.entries.length

/-- The entries of one map on top of another: where both have a value, that of
    `upper` counts. -/
def overlay (lower upper : Dictionary α) : Dictionary α :=
  upper.entries.foldl (fun d entry => d.insert entry.1 entry.2) lower

/-- The map of some entries; of several with one name the last counts. -/
def ofList (entries : List (String × α)) : Dictionary α :=
  entries.foldl (fun d entry => d.insert entry.1 entry.2) empty

end Dictionary

def sortedNames (names : List String) : List String :=
  (Dictionary.ofList (names.map (·, ()))).names

end PromptPacks
