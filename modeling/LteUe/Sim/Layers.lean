import LteUe.Layers.Callback
import LteUe.Sim.Bearers
import LteUe.Sim.Settings
import LteUe.Tti

/-!
# Simulated layers

Layers that play a network. They share the bearers: packet data convergence and the non-access stratum
add packets, and medium access control sends them. An attach asks for a search, radio resource control
selects the cell that is found, and the non-access stratum registers some ticks after there is a
connection.
-/

namespace LteUe

/-- Layers that play a network. -/
structure SimLayers where
  settings : SimSettings
  bearers : Bearers := {}
  lastTti : Option UInt32 := none
  ticks : Nat := 0
  macCaptured : Bool := false
  nasCaptured : Bool := false
  nasHandle : Bool := false
  rrcHandle : Bool := false
  emm : EmmState := .deregistered
  /-- Batches with a connection since the attach. -/
  ticksConnected : Nat := 0
  inSyncs : Nat := 0
  outOfSyncs : Nat := 0
deriving DecidableEq, Repr

namespace SimLayers

def ofSettings (s : SimSettings) : SimLayers where
  settings := s

abbrev Act := Hook SimLayers Callback

def onBearers (f : Bearers → Bearers) : Act Unit :=
  Hook.modifyLayers fun l => { l with bearers := f l.bearers }

/-- Whether a text is the identity of a subscriber: fifteen digits. -/
def isImsi (s : String) : Bool := s.utf8ByteSize == 15 && s.toList.all Char.isDigit

def usimInit : Act (Except Causes Unit) := do
  let imsi := (← Hook.layers).settings.imsi
  if isImsi imsi then
    Hook.report .info .usim "simulated USIM ready" [("imsi", .text imsi)]
    return .ok ()
  else
    return .error [s!"IMSI '{imsi}' must be 15 digits"]

/-- Reports a tick that does not follow the one before. The word of that one must have a successor. -/
def checkSequence (tti : UInt32) : Act Unit := do
  if let some last := (← Hook.layers).lastTti then
    match Tti.next? last with
    | none => throw .wordOverflow
    | some expected =>
      if tti ≠ expected then
        Hook.report .warn .mac "sub-tick out of sequence"
          [("tti", .num tti.toNat), ("expected", .num expected.toNat)]

def macTick (tti : UInt32) : Act Unit := do
  checkSequence tti
  Hook.modifyLayers fun l => { l with lastTti := some tti, ticks := l.ticks + 1 }
  let l ← Hook.layers
  if l.bearers.connected then
    let (sent, bearers) := l.bearers.transmit l.settings.grantPerTick
    onBearers fun _ => bearers
    if l.macCaptured then
      sent.forM fun pdu => Hook.capture .mac pdu

def attachRequest : Bytes := Bytes.ofText "ATTACH REQUEST"

def detachRequest : Bytes := Bytes.ofText "DETACH REQUEST"

def captureNas (pdu : Bytes) : Act Unit := do
  if (← Hook.layers).nasCaptured then Hook.capture .nas pdu

/-- Attaches, unless that is under way or done. Without a connection a search is started. -/
def attach (cause : EstablishmentCause) : Act Unit := do
  let l ← Hook.layers
  if l.emm ≠ .deregistered then
    Hook.report .debug .nas "attach already in progress" [("state", .text l.emm.label)]
  else
    Hook.report .info .nas "attach requested" [("cause", .text cause.label)]
    captureNas attachRequest
    Hook.modifyLayers fun l => { l with emm := .registeredInitiated, ticksConnected := 0 }
    if !l.bearers.connected && l.nasHandle then
      let _ ← Hook.withHandle (·.startSearch)

def detach (switchOff : Bool) : Act Bool := do
  if (← Hook.layers).emm = .deregistered then return false
  Hook.report .info .nas "sending detach request" [("switch_off", .flag switchOff)]
  captureNas detachRequest
  onBearers (·.push Lcid.srb1 detachRequest)
  -- a switch-off does not wait until the request has been sent
  Hook.modifyLayers fun l =>
    { l with emm := if switchOff then .deregistered else .deregisteredInitiated }
  return true

/-- One batch of the non-access stratum: an attach is complete some batches after there is a
connection, a detach once all signalling has been sent. -/
def nasBatch : Act Unit := do
  let l ← Hook.layers
  match l.emm with
  | .registeredInitiated =>
    if l.bearers.connected then
      Hook.modifyLayers fun l => { l with ticksConnected := l.ticksConnected + 1 }
      if l.settings.attachDelayTicks ≤ l.ticksConnected + 1 then
        Hook.report .info .nas "attach complete"
        Hook.modifyLayers fun l => { l with emm := .registered }
  | .deregisteredInitiated =>
    unless l.bearers.hasData Lcid.srb1 do
      Hook.modifyLayers fun l => { l with emm := .deregistered }
  | .deregistered | .registered => pure ()

def outOfSync : Act Unit := do
  Hook.modifyLayers fun l => { l with outOfSyncs := l.outOfSyncs + 1 }
  Hook.report .debug .rrc "out of sync" [("count", .num (← Hook.layers).outOfSyncs)]

/-- A search has ended. A cell that is found is selected. -/
def searchDone (result : SearchResult) (cell : Cell) : Act Unit := do
  Hook.report .info .rrc "cell search completed"
    [("result", .text result.label), ("pci", .num cell.pci), ("earfcn", .num cell.earfcn)]
  if result = .cellFound then
    if (← Hook.layers).rrcHandle then
      let _ ← Hook.withHandle (·.startSelect cell)

/-- A selection has ended; it decides whether there is a connection. -/
def selectDone (selected : Bool) : Act Unit := do
  Hook.report .info .rrc "cell selection completed" [("selected", .flag selected)]
  onBearers fun b => { b with connected := selected }

/-- Stops radio resource control; there is no connection any more. -/
def rrcStop : Act Unit := do
  Hook.modifyLayers fun l =>
    { l with rrcHandle := false, bearers := { l.bearers with connected := false } }
  Hook.report .debug .rrc "RRC stopped" [("in_sync", .num (← Hook.layers).inSyncs)]

def metrics (l : SimLayers) : LayerMetrics where
  mac := { txPackets := l.bearers.sentPackets, rxPackets := l.ticks }
  rlc := { uplinkBytes := l.bearers.sentBytes }
  rrc := if l.bearers.connected then .connected else .idle
  nas := { state := l.emm, bearers := if l.emm = .registered then 1 else 0 }

instance : Layers SimLayers Callback where
  usimInit := usimInit
  macInit := pure ()
  rlcInit := pure ()
  pdcpInit := pure ()
  nasInit := Hook.modifyLayers fun l => { l with nasHandle := true }
  rrcInit := Hook.modifyLayers fun l => { l with rrcHandle := true }
  captureBegun
    | .mac => Hook.modifyLayers fun l => { l with macCaptured := true }
    | .nas => Hook.modifyLayers fun l => { l with nasCaptured := true }
  macTick := macTick
  hasData lcid := return (← Hook.layers).bearers.hasData lcid
  writeSdu lcid sdu _ := onBearers (·.push lcid sdu)
  attach := attach
  detach := detach
  nasBatch := nasBatch
  rrcBatch := pure ()
  inSync := Hook.modifyLayers fun l => { l with inSyncs := l.inSyncs + 1 }
  outOfSync := outOfSync
  searchDone := searchDone
  selectDone := selectDone
  usimStop := Hook.report .debug .usim "USIM stopped"
  macStop := do Hook.report .debug .mac "MAC stopped" [("ticks", .num (← Hook.layers).ticks)]
  rlcStop := Hook.report .debug .rlc "RLC stopped"
  pdcpStop := Hook.report .debug .pdcp "PDCP stopped"
  nasStop := do
    Hook.modifyLayers fun l => { l with nasHandle := false }
    Hook.report .debug .nas "NAS stopped"
  rrcStop := rrcStop
  metrics := metrics
  fire c := do c.run (← Hook.layers).bearers.sentPackets

end SimLayers

end LteUe
