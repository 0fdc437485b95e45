import LteUe.Layers.Observed
import LteUe.Sim.Layers

/-!
# Equipment

The layers that a stack can be brought up with: observed ones or simulated ones.
-/

namespace LteUe

/-- The layers of a stack. -/
inductive Equipment where
  | observed (l : ObservedLayers)
  | simulated (l : SimLayers)
deriving Repr

namespace Equipment

variable {α : Type}

/-- Puts the layers that a computation leaves back among the equipment. -/
def within {L : Type} (wrap : L → Equipment) :
    EStateM.Result Fault (L × Surroundings Callback) α →
      EStateM.Result Fault (Equipment × Surroundings Callback) α
  | .ok a (l, s) => .ok a (wrap l, s)
  | .error f (l, s) => .error f (wrap l, s)

def either (f : Hook ObservedLayers Callback α) (g : Hook SimLayers Callback α) :
    Hook Equipment Callback α
  | (observed l, s) => within observed (f (l, s))
  | (simulated l, s) => within simulated (g (l, s))

instance : Layers Equipment Callback where
  usimInit := either Layers.usimInit Layers.usimInit
  macInit := either Layers.macInit Layers.macInit
  rlcInit := either Layers.rlcInit Layers.rlcInit
  pdcpInit := either Layers.pdcpInit Layers.pdcpInit
  nasInit := either Layers.nasInit Layers.nasInit
  rrcInit := either Layers.rrcInit Layers.rrcInit
  captureBegun layer := either (Layers.captureBegun layer) (Layers.captureBegun layer)
  macTick tti := either (Layers.macTick tti) (Layers.macTick tti)
  hasData lcid := either (Layers.hasData lcid) (Layers.hasData lcid)
  writeSdu lcid sdu b := either (Layers.writeSdu lcid sdu b) (Layers.writeSdu lcid sdu b)
  attach cause := either (Layers.attach cause) (Layers.attach cause)
  detach b := either (Layers.detach b) (Layers.detach b)
  nasBatch := either Layers.nasBatch Layers.nasBatch
  rrcBatch := either Layers.rrcBatch Layers.rrcBatch
  inSync := either Layers.inSync Layers.inSync
  outOfSync := either Layers.outOfSync Layers.outOfSync
  searchDone r cell := either (Layers.searchDone r cell) (Layers.searchDone r cell)
  selectDone b := either (Layers.selectDone b) (Layers.selectDone b)
  usimStop := either Layers.usimStop Layers.usimStop
  macStop := either Layers.macStop Layers.macStop
  rlcStop := either Layers.rlcStop Layers.rlcStop
  pdcpStop := either Layers.pdcpStop Layers.pdcpStop
  nasStop := either Layers.nasStop Layers.nasStop
  rrcStop := either Layers.rrcStop Layers.rrcStop
  metrics
    | observed l => Layers.metrics l
    | simulated l => Layers.metrics l
  fire c := either (Layers.fire c) (Layers.fire c)

end Equipment

end LteUe
