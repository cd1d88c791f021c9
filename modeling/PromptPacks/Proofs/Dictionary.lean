import PromptPacks.Dictionary
import PromptPacks.Proofs.Store.Rows

namespace PromptPacks

variable {α : Type}

/-- Inserting an entry adds its name and takes no other name away, wherever the
    entry comes to stand. The order of the entries need not be known for this. -/
theorem mem_map_fst_insertEntry {name other : String} {value : α} {entries : List (String × α)} :
    other ∈ (insertEntry name value entries).map (·.1) ↔
      other = name ∨ other ∈ entries.map (·.1) := by
  induction entries with
  | nil => simp [insertEntry]
  | cons head rest ih =>
    rw [insertEntry]
    split
    · simp
    · split
      next heq => simp [heq]
      next hne => simp only [List.map_cons, List.mem_cons, ih, or_left_comm]

/-- After an insertion a search finds the new entry under its own name, and what
    it found before under every other one. This holds of entries in any order,
    as the search stops at the first entry of a name. -/
theorem find?_insertEntry {name other : String} {value : α} {entries : List (String × α)} :
    (insertEntry name value entries).find? (·.1 == other) =
      if other = name then some (name, value) else entries.find? (·.1 == other) := by
  induction entries with
  | nil =>
    by_cases hname : other = name
    · simp [insertEntry, hname]
    · simp [insertEntry, hname, Ne.symm hname]
  | cons head rest ih =>
    rw [insertEntry]
    by_cases hname : other = name
    · rw [if_pos hname] at ih ⊢
      split
      · simp [hname]
      · split
        · simp [hname]
        next hne => rw [List.find?_cons_of_neg (by simp [hname, Ne.symm hne]), ih]
    · rw [if_neg hname] at ih ⊢
      split
      · rw [List.find?_cons_of_neg (by simp [Ne.symm hname])]
      · split
        next heq =>
          rw [List.find?_cons_of_neg (by simp [Ne.symm hname]),
            List.find?_cons_of_neg (by simp [← heq, Ne.symm hname])]
        next hne => rw [List.find?_cons, List.find?_cons, ih]

/-- The value of the last entry with a name. -/
def lastValue? (entries : List (String × α)) (name : String) : Option α :=
  (entries.reverse.find? (·.1 == name)).map (·.2)

/-- An entry counts only if none behind it has the same name, so the rest of the
    list is asked first. -/
theorem lastValue?_cons {entry : String × α} {entries : List (String × α)} {name : String} :
    lastValue? (entry :: entries) name =
      (lastValue? entries name).or (if name = entry.1 then some entry.2 else none) := by
  rw [lastValue?, lastValue?, List.reverse_cons, List.find?_append]
  cases entries.reverse.find? (·.1 == name) with
  | some found => rfl
  | none =>
    by_cases hname : name = entry.1
    · simp [hname]
    · simp [hname, Ne.symm hname]

/-- What stands later counts more: the first of two lists is asked only for
    names that the second one does not have. -/
theorem lastValue?_append {entries others : List (String × α)} {name : String} :
    lastValue? (entries ++ others) name =
      (lastValue? others name).or (lastValue? entries name) := by
  rw [lastValue?, List.reverse_append, List.find?_append, Option.map_or]
  rfl

/-- A name has no value exactly if no entry has it, whatever the values of the
    others are. -/
theorem lastValue?_eq_none_iff {entries : List (String × α)} {name : String} :
    lastValue? entries name = none ↔ name ∉ entries.map (·.1) := by
  rw [lastValue?, Option.map_eq_none_iff, List.find?_eq_none]
  simp only [List.mem_reverse, List.mem_map, beq_iff_eq, not_exists, not_and]

/-- Where names are distinct, a search for a name finds its only entry. Which
    entry of a name stands first is then no longer a question. -/
theorem map_find?_eq_some_iff {entries : List (String × α)} (hnames : (entries.map (·.1)).Nodup)
    {name : String} {value : α} :
    (entries.find? (·.1 == name)).map (·.2) = some value ↔ (name, value) ∈ entries := by
  rw [Option.map_eq_some_iff]
  constructor
  · rintro ⟨entry, hfound, rfl⟩
    have hname : entry.1 = name := by simpa using List.find?_some hfound
    exact hname ▸ List.mem_of_find?_eq_some hfound
  · intro hmem
    exact ⟨_, Rows.find?_eq_some_of_nodup hnames hmem (by simp), rfl⟩

/-- Where names are distinct, the entry that counts for a name is its only one,
    so that the last and the first entry are the same. -/
theorem lastValue?_eq_some_iff {entries : List (String × α)} (hnames : (entries.map (·.1)).Nodup)
    {name : String} {value : α} :
    lastValue? entries name = some value ↔ (name, value) ∈ entries := by
  have hreverse : (entries.reverse.map (·.1)).Nodup := by
    rwa [List.map_reverse, List.nodup_reverse]
  rw [lastValue?, map_find?_eq_some_iff hreverse, List.mem_reverse]

namespace Dictionary

/-- The names of a map after an insertion: the given one and those that it has
    had. -/
theorem mem_names_insert {d : Dictionary α} {name other : String} {value : α} :
    other ∈ (d.insert name value).names ↔ other = name ∨ other ∈ d.names :=
  mem_map_fst_insertEntry

/-- The names after any number of insertions. Repeated names need no separate
    treatment, as only their membership is stated. -/
theorem mem_names_foldl_insert {entries : List (String × α)} {d : Dictionary α} {name : String} :
    name ∈ (entries.foldl (fun d entry => d.insert entry.1 entry.2) d).names ↔
      name ∈ entries.map (·.1) ∨ name ∈ d.names := by
  induction entries generalizing d with
  | nil => simp
  | cons entry rest ih =>
    rw [List.foldl_cons, ih, mem_names_insert, List.map_cons, List.mem_cons, or_assoc,
      or_left_comm]

/-- A map that is made from a list has exactly the names of the list, repeated
    ones included. -/
theorem mem_names_ofList {entries : List (String × α)} {name : String} :
    name ∈ (ofList entries).names ↔ name ∈ entries.map (·.1) := by
  rw [ofList, mem_names_foldl_insert]
  simp [names, empty]

/-- A map contains a name exactly if the name is one of its names, which are
    kept in order. -/
theorem contains_iff_mem_names {d : Dictionary α} {name : String} :
    d.contains name = true ↔ name ∈ d.names := by
  simp [contains, names]

/-- The names of a map ascend, so none occurs twice. This follows from the order
    that each map carries. -/
theorem nodup_names (d : Dictionary α) : d.names.Nodup :=
  List.pairwise_map.2 (d.ascending.imp String.ne_of_lt)

/-- In the entries of a map the last one of a name is the only one, so it is
    what the map has there. -/
theorem lastValue?_entries {d : Dictionary α} {name : String} :
    lastValue? d.entries name = d.get? name :=
  Option.ext fun _ =>
    (lastValue?_eq_some_iff d.nodup_names).trans (map_find?_eq_some_iff d.nodup_names).symm

theorem get?_empty {name : String} : (empty : Dictionary α).get? name = none :=
  rfl

/-- What a map holds after an insertion, name by name. All later facts about
    insertions follow from this one. -/
theorem get?_insert {d : Dictionary α} {name other : String} {value : α} :
    (d.insert name value).get? other = if other = name then some value else d.get? other := by
  rw [get?, insert, find?_insertEntry]
  split <;> rfl

/-- What a map holds after a name has been taken out. The name itself need not
    have had a value. -/
theorem get?_erase {d : Dictionary α} {name other : String} :
    (d.erase name).get? other = if other = name then none else d.get? other := by
  rw [get?, erase, List.find?_filter]
  split
  · next hname =>
    rw [Option.map_eq_none_iff, List.find?_eq_none]
    simp [hname]
  · next hname =>
    rw [get?]
    congr 2
    funext entry
    by_cases hentry : entry.1 = other <;> simp [hentry, hname]

/-- After a series of insertions the last value given to a name counts, and for
    all other names what the map had before. This is the look-up behind all
    layers of a context. -/
theorem get?_foldl_insert {entries : List (String × α)} {d : Dictionary α} {name : String} :
    (entries.foldl (fun d entry => d.insert entry.1 entry.2) d).get? name =
      (lastValue? entries name).or (d.get? name) := by
  induction entries generalizing d with
  | nil => rfl
  | cons entry rest ih =>
    rw [List.foldl_cons, ih, get?_insert, lastValue?_cons, Option.or_assoc]
    congr 1
    split <;> rfl

/-- A map that is made from a list holds for each name the last value that the
    list gives to it. -/
theorem get?_ofList {entries : List (String × α)} {name : String} :
    (ofList entries).get? name = lastValue? entries name := by
  rw [ofList, get?_foldl_insert, get?_empty, Option.or_none]

/-- The upper one of two maps counts wherever it has a value, and the lower one
    decides everywhere else. A name that only the lower one has is not lost. -/
theorem get?_overlay {lower upper : Dictionary α} {name : String} :
    (lower.overlay upper).get? name = (upper.get? name).or (lower.get? name) := by
  rw [overlay, get?_foldl_insert, lastValue?_entries]

/-- The entries of a map and its look-up say the same, so that each can be used
    to state what it holds. -/
theorem mem_entries_iff {d : Dictionary α} {name : String} {value : α} :
    (name, value) ∈ d.entries ↔ d.get? name = some value :=
  (map_find?_eq_some_iff d.nodup_names).symm

/-- A map is known by the values under its names. The order of its entries adds
    nothing, as all maps keep their names in the same order. -/
theorem ext_get? {d e : Dictionary α} (hsame : ∀ name, d.get? name = e.get? name) : d = e := by
  have hnodup : ∀ d : Dictionary α, d.entries.Nodup := fun d => d.nodup_names.of_map _
  have hperm : d.entries.Perm e.entries := by
    refine (List.perm_ext_iff_of_nodup (hnodup d) (hnodup e)).2 fun entry => ?_
    rw [mem_entries_iff, mem_entries_iff, hsame]
  have hentries : d.entries = e.entries := by
    refine hperm.eq_of_pairwise (fun a b _ _ hab hba => ?_) d.ascending e.ascending
    exact absurd (String.lt_trans hab hba) (String.lt_irrefl _)
  cases d
  cases e
  congr

/-- Where a list has distinct names, the map made from it holds exactly the
    entries of the list. -/
theorem get?_ofList_eq_some_iff {entries : List (String × α)}
    (hnames : (entries.map (·.1)).Nodup) {name : String} {value : α} :
    (ofList entries).get? name = some value ↔ (name, value) ∈ entries := by
  rw [get?_ofList, lastValue?_eq_some_iff hnames]

/-- A map is made again from its own entries, since its names are distinct and
    ordered already. -/
theorem ofList_entries (d : Dictionary α) : ofList d.entries = d :=
  ext_get? fun _ => get?_ofList.trans lastValue?_entries

/-- The order in which the entries of a map are given does not matter, as long
    as no name is given twice. With repeated names the last one would count, and
    then the order would matter. -/
theorem ofList_eq_of_perm {entries others : List (String × α)}
    (hnames : (entries.map (·.1)).Nodup) (hperm : entries.Perm others) :
    ofList others = ofList entries := by
  refine ext_get? fun name => Option.ext fun value => ?_
  rw [get?_ofList_eq_some_iff hnames, get?_ofList_eq_some_iff ((hperm.map _).nodup hnames),
    hperm.mem_iff]

end Dictionary

/-- Sorting names without repetition keeps their set, which is all that the
    checks of names look at. -/
theorem mem_sortedNames {names : List String} {name : String} :
    name ∈ sortedNames names ↔ name ∈ names := by
  rw [sortedNames, Dictionary.mem_names_ofList, List.map_map]
  simp

end PromptPacks
