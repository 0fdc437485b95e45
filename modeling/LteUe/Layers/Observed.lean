import LteUe.Layers.Callback

/-!
# Observed layers

Layers that note what they are asked and do little else. What they answer, when they fault and what
they ask of the stack in return is chosen beforehand.
-/

namespace LteUe

/-- How observed layers behave. -/
structure ObservedPlan where
  usimError : Option Causes := none
  macFaults : List Nat := []
  pdcpFaults : List Nat := []
  /-- The batches in which the non-access stratum faults, counted from `1`. -/
  nasFaults : List Nat := []
  /-- How often the channel of signalling is said to have packets. -/
  signallingPolls : Nat := 0
  attachState : EmmState := .registered
  searchOnAttach : Bool := false
  detachAnswer : Bool := true
  /-- The ticks by which each batch of radio resource control posts a deferral. -/
  batchDeferral : Option Nat := none
  /-- The ticks by which each synchronisation posts a deferral. -/
  syncDeferral : Option Nat := none
  selectOnFound : Bool := false
deriving DecidableEq, Repr

/-- Layers that note what they are asked. -/
structure ObservedLayers where
  plan : ObservedPlan
  ticks : Nat := 0
  batches : Nat := 0
  polls : Nat := 0
  emm : EmmState := .deregistered
  rrc : RrcState := .idle
  macCaptured : Bool := false
  nasCaptured : Bool := false
  nasHandle : Bool := false
  rrcHandle : Bool := false
deriving DecidableEq, Repr

namespace ObservedLayers

abbrev Act := Hook ObservedLayers Callback

def wordBytes (n : UInt32) : Bytes :=
  [24, 16, 8, 0].map fun shift => UInt8.ofNat (n.toNat >>> shift)

def attachPdu : Bytes := [0x07, 0x41]

def macTick (tti : UInt32) : Act Unit := do
  Hook.modifyLayers fun l => { l with ticks := l.ticks + 1 }
  Hook.note s!"mac.tti {tti.toNat}"
  let l ← Hook.layers
  if l.macCaptured then Hook.capture .mac (wordBytes tti)
  if l.plan.macFaults.contains tti.toNat then throw (.raised s!"mac tti {tti.toNat}")

def hasData (lcid : Lcid) : Act Bool := do
  if lcid = Lcid.srb1 then
    let l ← Hook.layers
    Hook.modifyLayers fun l => { l with polls := l.polls + 1 }
    return l.polls < l.plan.signallingPolls
  else
    return false

def writeSdu (lcid : Lcid) (sdu : Bytes) (blocking : Bool) : Act Unit := do
  Hook.note s!"pdcp.sdu {lcid} {Hex.ofOctets sdu} {blocking}"
  if (← Hook.layers).plan.pdcpFaults.contains lcid then throw (.raised s!"pdcp lcid {lcid}")

def noteState (what : String) : Act Unit := do
  Hook.note s!"{what} {(← Hook.surroundings).state.name}"

def captureBegun (layer : CapturedLayer) : Act Unit := do
  if let some c := (← Hook.surroundings).captures.get layer then
    match layer with
    | .mac =>
      Hook.modifyLayers fun l => { l with macCaptured := true }
      Hook.note s!"mac.start_pcap {c.layer} {c.isOpen}"
    | .nas =>
      Hook.modifyLayers fun l => { l with nasCaptured := true }
      Hook.note s!"nas.start_pcap {c.layer} {c.isOpen}"

def attach (cause : EstablishmentCause) : Act Unit := do
  Hook.note s!"nas.attach {cause.label}"
  let l ← Hook.layers
  if l.nasCaptured then Hook.capture .nas attachPdu
  Hook.modifyLayers fun l => { l with emm := l.plan.attachState }
  if l.plan.searchOnAttach && l.nasHandle then
    let _ ← Hook.withHandle (·.startSearch)

def detach (switchOff : Bool) : Act Bool := do
  Hook.note s!"nas.detach {switchOff}"
  let answer := (← Hook.layers).plan.detachAnswer
  if answer then
    Hook.modifyLayers fun l =>
      { l with emm := if switchOff then .deregistered else .deregisteredInitiated }
  return answer

def nasBatch : Act Unit := do
  Hook.modifyLayers fun l => { l with batches := l.batches + 1 }
  Hook.note "nas.tti"
  let l ← Hook.layers
  if l.plan.nasFaults.contains l.batches then throw (.raised s!"nas batch {l.batches}")

/-- Posts a deferral that notes a label, if ticks are given and there is a handle. -/
def deferNote (label : String) (ticks : Option Nat) : Act Unit := do
  if let some ticks := ticks then
    if (← Hook.layers).rrcHandle then
      let _ ← Hook.withHandle (·.defer ticks (.deferral label ticks 0 false))

def rrcBatch : Act Unit := do
  Hook.note "rrc.tti"
  deferNote "rrc.tti" (← Hook.layers).plan.batchDeferral

def inSync : Act Unit := do
  Hook.note "rrc.in_sync"
  Hook.modifyLayers fun l => { l with rrc := .connected }
  deferNote "rrc.in_sync" (← Hook.layers).plan.syncDeferral

def outOfSync : Act Unit := do
  Hook.note "rrc.out_of_sync"
  Hook.modifyLayers fun l => { l with rrc := .idle }

def searchDone (result : SearchResult) (cell : Cell) : Act Unit := do
  Hook.note s!"rrc.search_done {result.label} {cell.pci} {cell.earfcn}"
  let l ← Hook.layers
  if l.plan.selectOnFound && result = .cellFound && l.rrcHandle then
    let _ ← Hook.withHandle (·.startSelect cell)

def selectDone (selected : Bool) : Act Unit := do
  Hook.note s!"rrc.select_done {selected}"
  if selected then Hook.modifyLayers fun l => { l with rrc := .connected }

def macStop : Act Unit := do
  let captured := (← Hook.layers).macCaptured
  let s ← Hook.surroundings
  match if captured then s.captures.mac else none with
  | some c => Hook.note s!"mac.stop {c.text}"
  | none => Hook.note "mac.stop"

def metrics (l : ObservedLayers) : LayerMetrics where
  mac := { txPackets := l.ticks }
  rrc := l.rrc
  nas := { state := l.emm, bearers := if l.emm = .registered then 1 else 0 }

instance : Layers ObservedLayers Callback where
  usimInit := do
    Hook.note "usim.init"
    return match (← Hook.layers).plan.usimError with
      | some causes => .error causes
      | none => .ok ()
  macInit := Hook.note "mac.init"
  rlcInit := Hook.note "rlc.init"
  pdcpInit := Hook.note "pdcp.init"
  nasInit := do
    Hook.modifyLayers fun l => { l with nasHandle := true }
    noteState "nas.init"
  rrcInit := do
    Hook.modifyLayers fun l => { l with rrcHandle := true }
    noteState "rrc.init"
  captureBegun := captureBegun
  macTick := macTick
  hasData := hasData
  writeSdu := writeSdu
  attach := attach
  detach := detach
  nasBatch := nasBatch
  rrcBatch := rrcBatch
  inSync := inSync
  outOfSync := outOfSync
  searchDone := searchDone
  selectDone := selectDone
  usimStop := Hook.note "usim.stop"
  macStop := macStop
  rlcStop := Hook.note "rlc.stop"
  pdcpStop := Hook.note "pdcp.stop"
  nasStop := do
    Hook.modifyLayers fun l => { l with nasHandle := false }
    Hook.note "nas.stop"
  rrcStop := do
    Hook.modifyLayers fun l => { l with rrcHandle := false }
    Hook.note "rrc.stop"
  metrics := metrics
  fire c := do c.run (← Hook.layers).ticks

end ObservedLayers

end LteUe
