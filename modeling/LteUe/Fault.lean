/-!
# Faults

A fault ends the piece of work in which it is raised. Whoever runs that work decides whether to carry
on, and the state stays as the fault left it: computations that may fault are
`EStateM Fault σ`, whose failures keep the state.
-/

namespace LteUe

/-- Why a piece of work ended early. -/
inductive Fault where
  | wordOverflow
  | spanOverflow
  /-- Room was asked for beyond what addresses reach. -/
  | roomOverflow
  | raised (text : String)
deriving DecidableEq, Repr

namespace Fault

def message : Fault → String
  | wordOverflow => "attempt to add with overflow"
  | spanOverflow => "overflow when adding durations"
  | roomOverflow => "capacity overflow"
  | raised text => text

end Fault

/-- What came of a computation that may fail, beside the state it left. -/
def outcome {ε σ α : Type} (x : EStateM ε σ α) (s : σ) : Except ε α × σ :=
  match x s with
  | .ok a t => (.ok a, t)
  | .error e t => (.error e, t)

end LteUe
