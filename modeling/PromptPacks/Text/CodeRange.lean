namespace PromptPacks.Text

/-- Whether a character lies in one of the given ranges of code points, ends
    included. -/
def inRanges (ranges : Array (Nat × Nat)) (c : Char) : Bool :=
  ranges.any fun range => range.1 ≤ c.toNat && c.toNat ≤ range.2

/-- The code points from `first` to `last` in equal steps. Alphabets whose two
    cases alternate take a step of two. -/
structure CodeRun where
  first : Nat
  last : Nat
  step : Nat

/-- Whether a character is one of the code points of a run. -/
def CodeRun.contains (run : CodeRun) (c : Char) : Bool :=
  run.first ≤ c.toNat && c.toNat ≤ run.last && (c.toNat - run.first) % run.step == 0

/-- Whether a character lies in one of the given runs. -/
def inRuns (runs : Array CodeRun) (c : Char) : Bool :=
  runs.any (·.contains c)

end PromptPacks.Text
