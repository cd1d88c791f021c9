import Mathlib.Order.Bounds.Basic
import Mathlib.Order.Lattice

namespace PromptPacks.Text

/-- A way from one text to another that inserts, deletes or replaces some number
    of characters and keeps all others. -/
inductive Edits : Nat → List Char → List Char → Prop
  | done : Edits 0 [] []
  | keep {n a b} (c : Char) : Edits n a b → Edits n (c :: a) (c :: b)
  | insert {n a b} (c : Char) : Edits n a b → Edits (n + 1) a (c :: b)
  | delete {n a b} (c : Char) : Edits n a b → Edits (n + 1) (c :: a) b
  | replace {n a b} (c d : Char) : Edits n a b → Edits (n + 1) (c :: a) (d :: b)

namespace Edits

variable {n m : Nat} {a b : List Char}

theorem refl (a : List Char) : Edits 0 a a := by
  induction a with
  | nil => exact done
  | cons c a ih => exact ih.keep c

theorem symm (hedits : Edits n a b) : Edits n b a := by
  induction hedits with
  | done => exact done
  | keep c _ ih => exact ih.keep c
  | insert c _ ih => exact ih.delete c
  | delete c _ ih => exact ih.insert c
  | replace c d _ ih => exact ih.replace d c

/-- Edits of two parts are edits of the whole, and their numbers add up. -/
theorem append (hedits : Edits n a b) {a' b' : List Char} (hmore : Edits m a' b') :
    Edits (n + m) (a ++ a') (b ++ b') := by
  induction hedits with
  | done => simpa using hmore
  | keep c _ ih => exact ih.keep c
  | insert c _ ih => simpa [Nat.add_right_comm] using ih.insert c
  | delete c _ ih => simpa [Nat.add_right_comm] using ih.delete c
  | replace c d _ ih => simpa [Nat.add_right_comm] using ih.replace c d

/-- What is done from left to right can be done from right to left. So the last
    characters can be treated as the first ones are. -/
theorem reverse (hedits : Edits n a b) : Edits n a.reverse b.reverse := by
  induction hedits with
  | done => exact done
  | keep c _ ih => simpa using ih.append (done.keep c)
  | insert c _ ih => simpa using ih.append (done.insert c)
  | delete c _ ih => simpa using ih.append (done.delete c)
  | replace c d _ ih => simpa using ih.append (done.replace c d)

/-- Two first characters are kept if they are equal and replaced if not. This is
    the diagonal step of the table. -/
theorem matching (hedits : Edits n a b) (c d : Char) :
    Edits (n + if c = d then 0 else 1) (c :: a) (d :: b) := by
  by_cases hsame : c = d
  · subst hsame
    simpa using hedits.keep c
  · simpa [hsame] using hedits.replace c d

/-- If both numbers of edits suffice, the smaller one does. -/
theorem min (hn : Edits n a b) (hm : Edits m a b) : Edits (min n m) a b := by
  obtain hle | hle := Nat.le_total n m
  · rwa [Nat.min_eq_left hle]
  · rwa [Nat.min_eq_right hle]

/-- Replacements make one text out of the other as far as both go, and the rest
    is inserted or deleted. -/
theorem max_length (a b : List Char) : Edits (max a.length b.length) a b := by
  induction a generalizing b with
  | nil =>
    induction b with
    | nil => exact done
    | cons d b ih => simpa using ih.insert d
  | cons c a ih =>
    cases b with
    | nil => simpa using (ih []).delete c
    | cons d b => simpa [Nat.add_max_add_right] using (ih b).replace c d

/-- Each edit changes the length by one at most. -/
theorem length_le (hedits : Edits n a b) : a.length ≤ b.length + n := by
  induction hedits <;> simp only [List.length_nil, List.length_cons] <;> omega

/-- No edits make no difference. -/
theorem eq_of_zero (hedits : Edits 0 a b) : a = b := by
  generalize hzero : 0 = n at hedits
  induction hedits with
  | done => rfl
  | keep c _ ih => rw [ih hzero]
  | insert | delete | replace => omega

/-- Some of the edits make the first character, and the others make what stands
    behind it. Nothing is said of which they are, only that their numbers add
    up. -/
theorem exists_cons {d : Char} (hedits : Edits n a (d :: b)) :
    ∃ a₁ a₂ n₁ n₂, a = a₁ ++ a₂ ∧ n = n₁ + n₂ ∧ Edits n₁ a₁ [d] ∧ Edits n₂ a₂ b := by
  generalize htext : d :: b = text at hedits
  induction hedits with
  | done => cases htext
  | @keep n a _ c hrest =>
    obtain ⟨rfl, rfl⟩ := List.cons.inj htext
    exact ⟨[d], a, 0, n, rfl, by omega, done.keep d, hrest⟩
  | @insert n a _ c hrest =>
    obtain ⟨rfl, rfl⟩ := List.cons.inj htext
    exact ⟨[], a, 1, n, rfl, by omega, done.insert d, hrest⟩
  | @replace n a _ c _ hrest =>
    obtain ⟨rfl, rfl⟩ := List.cons.inj htext
    exact ⟨[c], a, 1, n, rfl, by omega, done.replace c d, hrest⟩
  | delete c _ ih =>
    obtain ⟨a₁, a₂, n₁, n₂, rfl, rfl, hfirst, hrest⟩ := ih htext
    exact ⟨c :: a₁, a₂, n₁ + 1, n₂, rfl, by omega, hfirst.delete c, hrest⟩

/-- The same for a first part of any length, by induction on it. -/
theorem exists_append {p q : List Char} (hedits : Edits n a (p ++ q)) :
    ∃ a₁ a₂ n₁ n₂, a = a₁ ++ a₂ ∧ n = n₁ + n₂ ∧ Edits n₁ a₁ p ∧ Edits n₂ a₂ q := by
  induction p generalizing n a with
  | nil => exact ⟨[], a, 0, n, rfl, by omega, done, hedits⟩
  | cons d p ih =>
    obtain ⟨a₁, rest, n₁, m, rfl, rfl, hd, hrest⟩ := hedits.exists_cons
    obtain ⟨a₂, a₃, n₂, n₃, rfl, rfl, hp, hq⟩ := ih hrest
    refine ⟨a₁ ++ a₂, a₃, n₁ + n₂, n₃, ?_, by omega, hd.append hp, hq⟩
    rw [List.append_assoc]

/-- A part of at most one character can be exchanged for another such part with
    one more edit. All three kinds of edits are of this form. -/
theorem exists_exchanged {p q u v : List Char} (hedits : Edits n a (p ++ (u ++ q)))
    (hu : u.length ≤ 1) (hv : v.length ≤ 1) : ∃ m ≤ n + 1, Edits m a (p ++ (v ++ q)) := by
  obtain ⟨a₁, rest, n₁, m₁, rfl, rfl, hp, hrest⟩ := hedits.exists_append
  obtain ⟨a₂, a₃, n₂, n₃, rfl, rfl, hmiddle, hq⟩ := hrest.exists_append
  have hlength := hmiddle.length_le
  refine ⟨_, ?_, hp.append ((max_length a₂ v).append hq)⟩
  omega

end Edits

/-- The least number of characters to insert, delete or replace to make `b` out
    of `a`, by what becomes of the first characters. -/
def editDistance : List Char → List Char → Nat
  | [], b => b.length
  | a, [] => a.length
  | c :: a, d :: b =>
    min (min (editDistance a (d :: b) + 1) (editDistance (c :: a) b + 1))
      (editDistance a b + if c = d then 0 else 1)
termination_by a b => a.length + b.length

variable {n : Nat} {a b : List Char}

/-- From the empty text every character is inserted. -/
theorem editDistance_nil_left (b : List Char) : editDistance [] b = b.length := by
  rw [editDistance]

/-- To the empty text every character is deleted. -/
theorem editDistance_nil_right (a : List Char) : editDistance a [] = a.length := by
  cases a with
  | nil => rw [editDistance]
  | cons c a => rw [editDistance]; simp

/-- The recursion of the distance: a deletion, an insertion, or keeping or
    replacing the first character, whichever is least. -/
theorem editDistance_cons_cons (c d : Char) (a b : List Char) :
    editDistance (c :: a) (d :: b) =
      min (min (editDistance a (d :: b) + 1) (editDistance (c :: a) b + 1))
        (editDistance a b + if c = d then 0 else 1) := by
  rw [editDistance]

/-- The recursion finds a number of edits that suffices. -/
theorem edits_editDistance (a b : List Char) : Edits (editDistance a b) a b := by
  fun_induction editDistance a b with
  | case1 b => simpa using Edits.max_length [] b
  | case2 a => simpa using Edits.max_length a []
  | case3 c a d b hdelete hinsert hmatch =>
    exact ((hdelete.delete c).min (hinsert.insert d)).min (hmatch.matching c d)

/-- No way from one text to the other takes fewer edits. With the attainment
    before it, the recursion is the least number. -/
theorem editDistance_le (hedits : Edits n a b) : editDistance a b ≤ n := by
  induction hedits with
  | done => rw [editDistance_nil_left, List.length_nil]
  | keep c _ ih =>
    rw [editDistance_cons_cons, if_pos rfl]
    omega
  | @insert n a b c _ ih =>
    cases a with
    | nil =>
      rw [editDistance_nil_left] at ih ⊢
      simpa using ih
    | cons d a =>
      rw [editDistance_cons_cons]
      omega
  | @delete n a b c _ ih =>
    cases b with
    | nil =>
      rw [editDistance_nil_right] at ih ⊢
      simpa using ih
    | cons d b =>
      rw [editDistance_cons_cons]
      omega
  | replace c d _ ih =>
    rw [editDistance_cons_cons]
    split <;> omega

/-- Edits can be undone one by one, so the way back is as long. -/
theorem editDistance_comm (a b : List Char) : editDistance a b = editDistance b a :=
  Nat.le_antisymm (editDistance_le (edits_editDistance b a).symm)
    (editDistance_le (edits_editDistance a b).symm)

/-- Only equal texts have no distance. -/
theorem editDistance_eq_zero : editDistance a b = 0 ↔ a = b := by
  constructor
  · intro hzero
    exact (hzero ▸ edits_editDistance a b).eq_of_zero
  · rintro rfl
    exact Nat.le_zero.1 (editDistance_le (.refl a))

/-- The distance is at least the difference of the lengths. -/
theorem length_le_editDistance (a b : List Char) : a.length ≤ b.length + editDistance a b :=
  (edits_editDistance a b).length_le

/-- The distance is at most the greater one of the lengths. -/
theorem editDistance_le_max_length (a b : List Char) :
    editDistance a b ≤ max a.length b.length :=
  editDistance_le (.max_length a b)

/-- Reading both texts backwards does not change their distance. -/
theorem editDistance_reverse (a b : List Char) :
    editDistance a.reverse b.reverse = editDistance a b := by
  refine Nat.le_antisymm (editDistance_le (edits_editDistance a b).reverse) (editDistance_le ?_)
  simpa using (edits_editDistance a.reverse b.reverse).reverse

/-- The recursion by what becomes of the last characters. It is the form in
    which a table is filled from its start. -/
theorem editDistance_concat (c d : Char) (a b : List Char) :
    editDistance (a ++ [c]) (b ++ [d]) =
      min (min (editDistance a (b ++ [d]) + 1) (editDistance (a ++ [c]) b + 1))
        (editDistance a b + if c = d then 0 else 1) := by
  rw [← editDistance_reverse (a ++ [c]), ← editDistance_reverse a (b ++ [d]),
    ← editDistance_reverse (a ++ [c]) b, ← editDistance_reverse a b]
  simp only [List.reverse_append, List.reverse_singleton, List.singleton_append]
  exact editDistance_cons_cons c d _ _

/-- One text is the other one but for a character that is inserted, deleted or
    replaced. -/
inductive Edit : List Char → List Char → Prop
  | insert (before after : List Char) (c : Char) : Edit (before ++ after) (before ++ c :: after)
  | delete (before after : List Char) (c : Char) : Edit (before ++ c :: after) (before ++ after)
  | replace (before after : List Char) (c d : Char) :
    Edit (before ++ c :: after) (before ++ d :: after)

/-- A number of edits, each of what the ones before it made. -/
inductive EditScript : Nat → List Char → List Char → Prop
  | nil (a : List Char) : EditScript 0 a a
  | snoc {n a b c} (hscript : EditScript n a b) (hedit : Edit b c) : EditScript (n + 1) a c

/-- An edit behind a character is an edit of the whole. -/
theorem Edit.cons {a b : List Char} (hedit : Edit a b) (x : Char) : Edit (x :: a) (x :: b) := by
  cases hedit with
  | insert before after c => exact .insert (x :: before) after c
  | delete before after c => exact .delete (x :: before) after c
  | replace before after c d => exact .replace (x :: before) after c d

/-- A script for what stands behind a character is a script for the whole. -/
theorem EditScript.cons (hscript : EditScript n a b) (x : Char) :
    EditScript n (x :: a) (x :: b) := by
  induction hscript with
  | nil a => exact .nil (x :: a)
  | snoc _ hedit ih => exact ih.snoc (hedit.cons x)

/-- Scripts can be run one after the other. -/
theorem EditScript.append {m : Nat} {c : List Char} (hfirst : EditScript n a b)
    (hsecond : EditScript m b c) : EditScript (n + m) a c := by
  induction hsecond with
  | nil => exact hfirst
  | snoc _ hedit ih => exact (ih hfirst).snoc hedit

/-- Edits of different places can be done one after the other, so a script needs
    no more of them. -/
theorem Edits.script (hedits : Edits n a b) : EditScript n a b := by
  induction hedits with
  | done => exact .nil []
  | keep c _ ih => exact ih.cons c
  | @insert _ _ b c _ ih => exact ih.snoc (.insert [] b c)
  | @delete _ _ b c _ ih => exact (ih.cons c).snoc (.delete [] b c)
  | @replace _ _ b c d _ ih => exact (ih.cons c).snoc (.replace [] b c d)

/-- One more edit after some others is made up for by one more of them at most,
    whatever it changes. -/
theorem Edits.exists_followedBy {c : List Char} (hedits : Edits n a b) (hedit : Edit b c) :
    ∃ m ≤ n + 1, Edits m a c := by
  cases hedit with
  | insert before after c => exact hedits.exists_exchanged (u := []) (v := [c]) (by simp) le_rfl
  | delete before after c => exact hedits.exists_exchanged (u := [c]) (v := []) le_rfl (by simp)
  | replace before after c d => exact hedits.exists_exchanged (u := [c]) (v := [d]) le_rfl le_rfl

/-- A character that a script changes more than once needs at most one edit. So
    scripts never do better than edits of different places. -/
theorem EditScript.exists_edits (hscript : EditScript n a b) : ∃ m ≤ n, Edits m a b := by
  induction hscript with
  | nil a => exact ⟨0, le_rfl, .refl a⟩
  | snoc _ hedit ih =>
    obtain ⟨m, hle, hedits⟩ := ih
    obtain ⟨k, hk, hmore⟩ := hedits.exists_followedBy hedit
    exact ⟨k, hk.trans (Nat.add_le_add_right hle 1), hmore⟩

/-- No script is shorter than the distance. -/
theorem editDistance_le_of_script (hscript : EditScript n a b) : editDistance a b ≤ n := by
  obtain ⟨m, hle, hedits⟩ := hscript.exists_edits
  exact (editDistance_le hedits).trans hle

/-- The distance is the length of the shortest script. This is its meaning
    without any table or recursion. -/
theorem isLeast_editDistance (a b : List Char) :
    IsLeast {n | EditScript n a b} (editDistance a b) :=
  ⟨(edits_editDistance a b).script, fun _ => editDistance_le_of_script⟩

/-- Going through a third text is never shorter, as the scripts for both ways
    make one for the whole. -/
theorem editDistance_triangle (a b c : List Char) :
    editDistance a c ≤ editDistance a b + editDistance b c :=
  editDistance_le_of_script ((edits_editDistance a b).script.append (edits_editDistance b c).script)

end PromptPacks.Text
