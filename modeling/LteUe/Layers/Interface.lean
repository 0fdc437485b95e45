import LteUe.Fault
import LteUe.Stack.Surroundings

/-!
# Protocol layers

What the executor asks of the layers of a stack. The layers are one value of a type `L`, so that they
may work on common state. A hook runs on the executor; besides the layers it reaches their
surroundings, and it may fault, which leaves both as they are then.
-/

namespace LteUe

/-- A computation of the layers. -/
abbrev Hook (L κ α : Type) := EStateM Fault (L × Surroundings κ) α

namespace Hook

variable {L κ α : Type}

def layers : Hook L κ L := return (← get).1

def modifyLayers (f : L → L) : Hook L κ Unit := modify fun (l, s) => (f l, s)

def surroundings : Hook L κ (Surroundings κ) := return (← get).2

def modifySurroundings (f : Surroundings κ → Surroundings κ) : Hook L κ Unit :=
  modify fun (l, s) => (l, f s)

def withHandle (f : Surroundings κ → α × Surroundings κ) : Hook L κ α :=
  modifyGet fun (l, s) => let (a, s) := f s; (a, l, s)

def note (text : String) : Hook L κ Unit := modifySurroundings (·.note text)

def report (level : Log.Level) (target : Log.Target) (message : String)
    (fields : List (String × Log.Value) := []) : Hook L κ Unit :=
  modifySurroundings
    (·.report { level := level, target := target, message := message, fields := fields })

def capture (layer : CapturedLayer) (pdu : Bytes) : Hook L κ Unit :=
  modifySurroundings (·.capture layer pdu)

end Hook

/-- Protocol layers of type `L`, whose timer callbacks are of type `κ`. -/
class Layers (L : Type) (κ : outParam Type) where
  -- bringing up
  /-- Brings the subscriber module up. A failure has causes. -/
  usimInit : Hook L κ (Except Causes Unit)
  macInit : Hook L κ Unit
  rlcInit : Hook L κ Unit
  pdcpInit : Hook L κ Unit
  nasInit : Hook L κ Unit
  rrcInit : Hook L κ Unit
  captureBegun : CapturedLayer → Hook L κ Unit
  -- running
  macTick : UInt32 → Hook L κ Unit
  /-- Whether radio link control has packets to send on a channel. -/
  hasData : Lcid → Hook L κ Bool
  writeSdu : Lcid → Bytes → Bool → Hook L κ Unit
  attach : EstablishmentCause → Hook L κ Unit
  /-- Asks the non-access stratum to detach, and whether it could. -/
  detach : Bool → Hook L κ Bool
  nasBatch : Hook L κ Unit
  rrcBatch : Hook L κ Unit
  inSync : Hook L κ Unit
  outOfSync : Hook L κ Unit
  searchDone : SearchResult → Cell → Hook L κ Unit
  selectDone : Bool → Hook L κ Unit
  -- stopping
  usimStop : Hook L κ Unit
  macStop : Hook L κ Unit
  rlcStop : Hook L κ Unit
  pdcpStop : Hook L κ Unit
  nasStop : Hook L κ Unit
  rrcStop : Hook L κ Unit
  -- at any time
  metrics : L → LayerMetrics
  /-- Runs a timer callback, and answers with the one to keep. -/
  fire : κ → Hook L κ κ

end LteUe
