import LteUe.Span

/-!
# Reports

A report is a value made of named parts, for whoever reads what a stack tells. It says nothing about
how the parts are written down.
-/

namespace LteUe

/-- A value of a report. -/
inductive Report where
  | null
  | flag (b : Bool)
  | num (n : Nat)
  | text (s : String)
  | list (items : List Report)
  | record (fields : List (String × Report))
deriving Repr

namespace Report

def num? : Option Nat → Report
  | some n => num n
  | none => null

/-- A span by its whole seconds and the nanoseconds beyond. -/
def span (d : Span) : Report := list [num d.secs, num d.subsecNanos]

end Report

end LteUe
