import LteUe.Layers.Interface

/-!
# Observed callbacks

Timer callbacks that note when they run. A deferral may post itself again, and either kind may fault
after its note.
-/

namespace LteUe

/-- A callback that notes its runs. -/
inductive Callback where
  /-- A deferral. It posts itself again `chain` times, by the same ticks. -/
  | deferral (label : String) (ticks chain : Nat) (faulty : Bool)
  | alarm (name : String) (faulty : Bool)
deriving DecidableEq, Repr

namespace Callback

/-- One run, when the layers have sent `tx` packets. -/
def run {L : Type} (tx : Nat) : Callback → Hook L Callback Callback
  | deferral label ticks chain faulty => do
    Hook.note s!"fired {label} tx={tx}"
    if faulty then throw (.raised s!"callback {label}")
    let rest := deferral label ticks (chain - 1) faulty
    if chain ≠ 0 then
      let _ ← Hook.withHandle (·.defer ticks rest)
    return rest
  | alarm name faulty => do
    Hook.note s!"timer {name} tx={tx}"
    if faulty then throw (.raised s!"timer {name}")
    return alarm name faulty

end Callback

end LteUe
