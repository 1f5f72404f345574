/-!
# Runs of letters

Letters whose counterparts of the other case lie equally far away from them are kept
together as a run, and `CaseRun.shift` looks a letter up in a list of runs.
-/

namespace CallForm.Text

/-- Letters `first`, `first + step`, … up to `last`, whose counterpart of the other case
lies `offset` code points away from each. -/
structure CaseRun where
  first : Nat
  last : Nat
  step : Nat
  offset : Int

/-- The code point of the counterpart of `n`, or `n` itself if no run holds `n`; the runs
are in ascending order, and the search stops at the first one that begins above `n`. -/
def CaseRun.shift (n : Nat) : List CaseRun → Nat
  | [] => n
  | run :: rest =>
    if n < run.first then n
    else if n ≤ run.last ∧ (n - run.first) % run.step = 0 then (n + run.offset).toNat
    else CaseRun.shift n rest

end CallForm.Text
