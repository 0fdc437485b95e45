import LteUe.Capture.Basic
import LteUe.Capture.FileSink

/-!
# Sinks

A sink is a file, or an observer that notes what it is asked and can be told to fail.
-/

namespace LteUe

/-- A sink that notes what it is asked. -/
structure ObservedSink where
  name : String
  openFails : Bool := false
  /-- How many further packets it takes; all of them if none is given. -/
  room : Option Nat := none
deriving DecidableEq, Repr

namespace ObservedSink

def noted (s : ObservedSink) (what : String) (w : World) : World := w.note s!"cap.{s.name}.{what}"

instance : CaptureSink ObservedSink where
  start s path w :=
    (if s.openFails then .error "read-only" else .ok (), s, s.noted s!"open {path}" w)
  write s pdu w :=
    let w := s.noted s!"pdu {Hex.ofOctets pdu}" w
    match s.room with
    | some 0 => (.error "disk full", s, w)
    | room => (.ok (), { s with room := room.map (· - 1) }, w)
  close s w := (s, s.noted "close" w)

end ObservedSink

namespace FileSink

instance : CaptureSink FileSink where
  start s path w :=
    let (r, s, files) := s.open? path w.files
    (r.mapError FileError.message, s, { w with files := files })
  write s pdu w :=
    let (r, s, files) := s.write? pdu w.files
    (r.mapError FileError.message, s, { w with files := files })
  close s w :=
    let (s, files, events) := s.close w.files
    (s, { w with files := files }.reportAll events)

end FileSink

inductive Sink where
  | observed (s : ObservedSink)
  | file (s : FileSink)
deriving Repr

namespace Sink

instance : CaptureSink Sink where
  start
    | observed s, path, w => let (r, s, w) := CaptureSink.start s path w; (r, observed s, w)
    | file s, path, w => let (r, s, w) := CaptureSink.start s path w; (r, file s, w)
  write
    | observed s, pdu, w => let (r, s, w) := CaptureSink.write s pdu w; (r, observed s, w)
    | file s, pdu, w => let (r, s, w) := CaptureSink.write s pdu w; (r, file s, w)
  close
    | observed s, w => let (s, w) := CaptureSink.close s w; (observed s, w)
    | file s, w => let (s, w) := CaptureSink.close s w; (file s, w)

end Sink

inductive CapturedLayer where
  | mac
  | nas
deriving DecidableEq, Repr

namespace CapturedLayer

def name : CapturedLayer → String
  | mac => "MAC"
  | nas => "NAS"

end CapturedLayer

/-- The sinks supplied for a run. -/
structure Sinks where
  mac : Option Sink := none
  nas : Option Sink := none
deriving Repr

namespace Sinks

def get (s : Sinks) : CapturedLayer → Option Sink
  | .mac => s.mac
  | .nas => s.nas

def files : Sinks where
  mac := some (.file { layer := "mac" })
  nas := some (.file { layer := "nas" })

end Sinks

/-- The captures of a run that have been opened. -/
structure Captures where
  mac : Option (Capture Sink) := none
  nas : Option (Capture Sink) := none
deriving Repr

namespace Captures

def get (c : Captures) : CapturedLayer → Option (Capture Sink)
  | .mac => c.mac
  | .nas => c.nas

def set (c : Captures) (layer : CapturedLayer) (x : Option (Capture Sink)) : Captures :=
  match layer with
  | .mac => { c with mac := x }
  | .nas => { c with nas := x }

def write (c : Captures) (layer : CapturedLayer) (pdu : Bytes) (w : World) : Captures × World :=
  match c.get layer with
  | some x => let (x, w) := x.write pdu w; (c.set layer (some x), w)
  | none => (c, w)

def closeOne (c : Captures) (layer : CapturedLayer) (w : World) : Captures × World :=
  match c.get layer with
  | some x => let (x, w) := x.close w; (c.set layer (some x), w)
  | none => (c, w)

def close (c : Captures) (w : World) : Captures × World :=
  let (c, w) := c.closeOne .mac w
  c.closeOne .nas w

def noSink (layer : CapturedLayer) : Log.Event where
  level := .warn
  target := .stack
  message := "capture enabled but no sink supplied"
  fields := [("layer", .text layer.name)]

def begun (layer : CapturedLayer) (path : String) : Log.Event where
  level := .info
  target := .stack
  message := "capture started"
  fields := [("layer", .text layer.name), ("path", .text path)]

def cannotOpen (layer : CapturedLayer) (path e : String) : Log.Event where
  level := .warn
  target := .stack
  message := s!"cannot open capture file: {e}"
  fields := [("layer", .text layer.name), ("path", .text path)]

/-- Opens the sink of a layer, if the capture is enabled. Captures are diagnostic, so a sink that is
missing or cannot be opened is only reported. -/
def start (sink : Option Sink) (enabled : Bool) (path : String) (layer : CapturedLayer) (w : World) :
    Option (Capture Sink) × World :=
  if enabled then
    match sink with
    | none => (none, w.report (noSink layer))
    | some sink => match CaptureSink.start sink path w with
      | (.ok (), sink, w) => (some { layer := layer.name, sink := sink }, w.report (begun layer path))
      | (.error e, _, w) => (none, w.report (cannotOpen layer path e))
  else (none, w)

end Captures

end LteUe
