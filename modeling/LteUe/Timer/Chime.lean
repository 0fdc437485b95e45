import LteUe.Timer.Table

/-!
# Chimes

A chime is a timer callback that writes its name and the count of its runs to a list of lines, and
may then fault. `TimerBench` is a timer table whose callbacks are chimes.
-/

namespace LteUe

/-- A callback that counts its runs. -/
structure Chime where
  name : String
  faulty : Bool := false
  runs : Nat := 0
deriving DecidableEq, Repr

namespace Chime

def fire (c : Chime) : EStateM Fault (Array String) Chime := do
  modify (·.push s!"{c.name}#{c.runs + 1}")
  if c.faulty then throw (.raised s!"callback {c.name}")
  return { c with runs := c.runs + 1 }

end Chime

abbrev TimerBench := TimerTable Chime

namespace TimerBench

/-- Steps a table up to `n` times: the counts of expired timers, the table and the lines written. A
fault writes its text and ends the run. -/
def steps (t : TimerBench) : Nat → List Nat × TimerBench × Array String
  | n => go n t #[]
where
  go : Nat → TimerBench → Array String → List Nat × TimerBench × Array String
    | 0, t, lines => ([], t, lines)
    | n + 1, t, lines =>
      match outcome (TimerTable.stepAll Chime.fire) (t, lines) with
      | (.ok count, t, lines) =>
        let (counts, t, lines) := go n t lines
        (count :: counts, t, lines)
      | (.error e, t, lines) => ([], t, lines.push s!"panic: {e.message}")

end TimerBench

end LteUe
