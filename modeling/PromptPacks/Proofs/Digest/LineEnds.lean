import Mathlib.Tactic.SplitIfs
import PromptPacks.Digest.Content
import PromptPacks.Text.Search

namespace PromptPacks.Digest

open PromptPacks.Text

/-- Line ends of one kind in two passes: first each carriage return with a line
    feed behind it becomes that line feed, then each other carriage return
    becomes one. -/
def foldLineEnds (cs : List Char) : List Char :=
  replaceIn ['\r'] ['\n'] 0 (replaceIn ['\r', '\n'] ['\n'] 0 cs)

/-- To replace one character by another is to map the characters, as no match
    can reach over two. -/
theorem replaceIn_singleton (c d : Char) (cs : List Char) :
    replaceIn [c] [d] 0 cs = cs.map fun x => if x = c then d else x := by
  induction cs with
  | nil => rfl
  | cons x cs ih =>
    by_cases hx : x = c
    · simp [replaceIn, hx, ih]
    · simp [replaceIn, hx, Ne.symm hx, ih]

/-- One pass over the text does the same as the two replacements. It is the form
    that the proofs work with, since it looks at one character and the next. -/
theorem unifyLineEnds_eq_foldLineEnds (cs : List Char) : unifyLineEnds cs = foldLineEnds cs := by
  rw [foldLineEnds, replaceIn_singleton]
  fun_induction unifyLineEnds cs with
  | case1 => rfl
  | case2 rest ih => simpa [replaceIn] using ih
  | case3 rest hnot ih =>
    have hstart : ¬['\n'] <+: rest := by
      rintro ⟨behind, rfl⟩
      exact hnot behind rfl
    simpa [replaceIn, hstart] using ih
  | case4 c rest hpair hsingle ih =>
    have hreturn : c ≠ '\r' := fun heq => hsingle heq
    simpa [replaceIn, hreturn, Ne.symm hreturn] using ih

/-- No carriage return is left, whether it has stood before a line feed or
    alone. -/
theorem not_mem_unifyLineEnds (cs : List Char) : '\r' ∉ unifyLineEnds cs := by
  rw [unifyLineEnds_eq_foldLineEnds, foldLineEnds, replaceIn_singleton, List.mem_map]
  rintro ⟨c, -, hc⟩
  split_ifs at hc with hreturn
  · cases hc
  · exact hreturn hc

/-- What becomes of a character that is no part of a pair. -/
def foldChar (c : Char) : Char :=
  if c = '\r' then '\n' else c

/-- A character that does not start a pair is taken over by itself, a lone
    carriage return as a line feed. -/
theorem unifyLineEnds_cons {c : Char} {cs : List Char} (hnot : c = '\r' → cs.head? ≠ some '\n') :
    unifyLineEnds (c :: cs) = foldChar c :: unifyLineEnds cs := by
  unfold foldChar
  split_ifs with hreturn
  · subst hreturn
    rw [unifyLineEnds]
    rintro rest rfl
    exact hnot rfl rfl
  · rw [unifyLineEnds]
    · rintro rest rfl
      exact fun _ => hreturn rfl
    · exact hreturn

/-- A pair of a carriage return and a line feed counts as the line feed. -/
theorem unifyLineEnds_pair (cs : List Char) :
    unifyLineEnds ('\r' :: '\n' :: cs) = unifyLineEnds ('\n' :: cs) :=
  rfl

/-- A line feed in front is taken over. What follows it cannot make it part of a
    pair. -/
theorem unifyLineEnds_feed (cs : List Char) :
    unifyLineEnds ('\n' :: cs) = '\n' :: unifyLineEnds cs :=
  rfl

/-- A character in front of a text either vanishes into a pair or adds one
    character. No other effect on the rest is possible. -/
theorem unifyLineEnds_cons_cases (c : Char) (cs : List Char) :
    unifyLineEnds (c :: cs) = unifyLineEnds cs ∨
      unifyLineEnds (c :: cs) = foldChar c :: unifyLineEnds cs := by
  by_cases hpair : c = '\r' ∧ cs.head? = some '\n'
  · obtain ⟨rfl, hfeed⟩ := hpair
    obtain ⟨rest, rfl⟩ := List.head?_eq_some_iff.1 hfeed
    exact .inl (unifyLineEnds_pair rest)
  · exact .inr (unifyLineEnds_cons fun hreturn hfeed => hpair ⟨hreturn, hfeed⟩)

/-- A character behind a text either completes a pair and adds nothing, or it
    adds one character. So white space at the end stays white space. -/
theorem unifyLineEnds_concat_cases (cs : List Char) (c : Char) :
    unifyLineEnds (cs ++ [c]) = unifyLineEnds cs ∨
      unifyLineEnds (cs ++ [c]) = unifyLineEnds cs ++ [foldChar c] := by
  induction cs with
  | nil => exact .inr (unifyLineEnds_cons (by simp))
  | cons d cs ih =>
    by_cases hpair : d = '\r' ∧ (cs ++ [c]).head? = some '\n'
    · obtain ⟨rfl, hfeed⟩ := hpair
      cases cs with
      | nil =>
        obtain rfl : c = '\n' := by simpa using hfeed
        exact .inl rfl
      | cons e cs =>
        obtain rfl : e = '\n' := by simpa using hfeed
        exact ih
    · have hlonger : unifyLineEnds (d :: (cs ++ [c])) = foldChar d :: unifyLineEnds (cs ++ [c]) :=
        unifyLineEnds_cons fun hreturn hfeed => hpair ⟨hreturn, hfeed⟩
      have hshorter : unifyLineEnds (d :: cs) = foldChar d :: unifyLineEnds cs := by
        refine unifyLineEnds_cons fun hreturn hfeed => hpair ⟨hreturn, ?_⟩
        rw [List.head?_append, hfeed]
        rfl
      rw [List.cons_append, hlonger, hshorter]
      exact ih.imp (congrArg (foldChar d :: ·)) (congrArg (foldChar d :: ·))

/-- A part without carriage returns is taken over as it is, and what follows it
    is treated as if it stood alone. -/
theorem unifyLineEnds_append {line : List Char} (hline : '\r' ∉ line) (cs : List Char) :
    unifyLineEnds (line ++ cs) = line ++ unifyLineEnds cs := by
  induction line with
  | nil => rfl
  | cons c line ih =>
    obtain ⟨hreturn, hrest⟩ := not_or.1 (mt List.mem_cons.2 hline)
    rw [List.cons_append, unifyLineEnds_cons fun heq => absurd heq.symm hreturn, ih hrest,
      foldChar, if_neg (Ne.symm hreturn), List.cons_append]

/-- A text without carriage returns is not changed. -/
theorem unifyLineEnds_eq_self {cs : List Char} (hclean : '\r' ∉ cs) : unifyLineEnds cs = cs := by
  have happend := unifyLineEnds_append hclean []
  rwa [List.append_nil, unifyLineEnds, List.append_nil] at happend

/-- What may stand between two lines. -/
def lineEnds : List (List Char) :=
  [['\n'], ['\r', '\n'], ['\r']]

/-- What stands behind the first of some lines: each of the others, with a line
    end before it. -/
def behindFirst (lineEnd : List Char) (ls : List (List Char)) : List Char :=
  ls.flatMap (lineEnd ++ ·)

/-- Lines behind a first one are each preceded by the line end. -/
theorem behindFirst_cons (lineEnd line : List Char) (ls : List (List Char)) :
    behindFirst lineEnd (line :: ls) = lineEnd ++ (line ++ behindFirst lineEnd ls) := by
  rw [behindFirst, List.flatMap_cons, List.append_assoc, behindFirst]

/-- Joined lines are the first line and then the others, each behind a line end.
    In this form an induction over the lines needs no case for the last one. -/
theorem intercalate_cons (lineEnd line : List Char) (ls : List (List Char)) :
    lineEnd.intercalate (line :: ls) = line ++ behindFirst lineEnd ls := by
  induction ls generalizing line with
  | nil => simp [behindFirst]
  | cons next ls ih =>
    rw [List.intercalate_cons_cons, ih, behindFirst_cons, List.append_assoc]

/-- Whatever end the lines of a text have, they come to be separated by line
    feeds. A lone carriage return is followed by a line without line feeds or by
    another carriage return, so no pair is formed by chance. -/
theorem unifyLineEnds_behindFirst {lineEnd : List Char} (hend : lineEnd ∈ lineEnds)
    {ls : List (List Char)} (hlines : ∀ line ∈ ls, '\r' ∉ line ∧ '\n' ∉ line) :
    unifyLineEnds (behindFirst lineEnd ls) = behindFirst ['\n'] ls := by
  induction ls with
  | nil => rfl
  | cons line ls ih =>
    obtain ⟨⟨hreturn, hfeed⟩, hrest⟩ := List.forall_mem_cons.1 hlines
    have hmore := ih hrest
    have hbehind : unifyLineEnds (line ++ behindFirst lineEnd ls) =
        line ++ behindFirst ['\n'] ls := by
      rw [unifyLineEnds_append hreturn, hmore]
    rw [behindFirst_cons, behindFirst_cons, ← hbehind]
    simp only [lineEnds, List.mem_cons, List.not_mem_nil, or_false] at hend
    obtain rfl | rfl | rfl := hend
    · exact unifyLineEnds_feed _
    · exact unifyLineEnds_pair _
    · refine unifyLineEnds_cons fun _ hhead => ?_
      cases line with
      | nil => cases ls <;> simp [behindFirst] at hhead
      | cons c line =>
        obtain rfl : c = '\n' := by simpa using hhead
        exact hfeed List.mem_cons_self

end PromptPacks.Digest
